import SnmpTrap.ExitCode

/-! `--debug-print-pdu` in a whole run: the dump comes before anything is sent, changes nothing of
what is, and shows it. -/
namespace SnmpTrap
open Rust Ber Transport
set_option autoImplicit false
set_option maxHeartbeats 250000
set_option maxRecDepth 120000

def Args.debugged (args : Args) (debug : Bool) : Args := { args with debugPrintPdu := debug }

section Runs
variable (r : Encoder) (c : Crypto) (host : Host) (args : Args)

/-- The payload of a run, and where it is sent. -/
def Prepared (dst : SocketAddrV4) (payload : List UInt8) : Prop :=
  resolveAgentString host.lookupHost args.agent = .ok dst ∧
    buildPayload r c host.world args.toCli dst = .ok payload

/-- What is dumped with the flag. -/
theorem debugDump_calls (stderr : Stderr) (dst : SocketAddrV4) (payload : List UInt8) :
    ∃ part, (debugDump stderr (args.debugged true) dst payload).calls = [.stderr part] ∧
      part <+: dumpText args.version dst args.srcAddrV4 args.srcPort payload ∧
      (stderr.Works → part = dumpText args.version dst args.srcAddrV4 args.srcPort payload) := by
  refine ⟨_, rfl, ?_, fun hworks => ?_⟩
  · obtain ⟨part, hpart, hstart⟩ := (appends_printPreSendDump stderr.appends args.version dst
      args.srcAddrV4 args.srcPort payload).leftIn []
    rw [id, id, List.nil_append] at hpart
    rw [← hpart] at hstart
    exact hstart
  · have hwhole := (emits_printPreSendDump hworks args.version dst args.srcAddrV4 args.srcPort
      payload).leftIn []
    rw [id, id, List.nil_append] at hwhole
    exact hwhole

/-- A run stops alike with and without the flag, or prepares the same payload. -/
theorem prepared_or_stopped :
    (∃ s, ∀ debug, runParsed r c host (.ok (args.debugged debug)) =
      Traced.ofOutcome (.error s)) ∨
    ∃ dst payload, Prepared r c host args dst payload ∧ ∀ debug,
      runParsed r c host (.ok (args.debugged debug)) =
        ⟨(debugDump host.stderr (args.debugged debug) dst payload).calls ++
            (transmit host.net args.toCli dst payload).calls.map Event.os,
          (transmit host.net args.toCli dst payload).outcome⟩ := by
  cases hdst : resolveAgentString host.lookupHost args.agent with
  | error s =>
    refine Or.inl ⟨s, fun debug => ?_⟩
    rw [runParsed, Traced.ofOutcome_ok_bind]
    change Traced.ofOutcome (resolveAgentString host.lookupHost args.agent) >>= _ = _
    rw [hdst]
    rfl
  | ok dst =>
    cases hpayload : buildPayload r c host.world args.toCli dst with
    | error s =>
      refine Or.inl ⟨s, fun debug => ?_⟩
      rw [runParsed, Traced.ofOutcome_ok_bind]
      change Traced.ofOutcome (resolveAgentString host.lookupHost args.agent) >>= _ = _
      rw [hdst, Traced.ofOutcome_ok_bind]
      change Traced.ofOutcome (buildPayload r c host.world args.toCli dst) >>= _ = _
      rw [hpayload]
      rfl
    | ok payload =>
      exact Or.inr ⟨dst, payload, ⟨hdst, hpayload⟩, fun debug =>
        runParsed_built (args.debugged debug) rfl hdst hpayload⟩

/-- **The debug flag only adds the dump.** Whatever stderr does, the system calls and the outcome
are those of the run without the flag; what is written stands before all of them, is a part of one
dump from its start, and every packet sent delivers the payload of that dump. -/
theorem debug_flag_only_dumps :
    sysCalls (runParsed r c host (.ok (args.debugged true))).calls =
      sysCalls (runParsed r c host (.ok (args.debugged false))).calls ∧
    (runParsed r c host (.ok (args.debugged true))).outcome =
      (runParsed r c host (.ok (args.debugged false))).outcome ∧
    written (runParsed r c host (.ok (args.debugged false))).calls = [] ∧
    ((runParsed r c host (.ok (args.debugged true))).calls = [] ∨
      ∃ dst payload part, Prepared r c host args dst payload ∧
        (runParsed r c host (.ok (args.debugged true))).calls = .stderr part ::
          (sysCalls (runParsed r c host (.ok (args.debugged true))).calls).map Event.os ∧
        part <+: dumpText args.version dst args.srcAddrV4 args.srcPort payload ∧
        ∀ call ∈ sends (sysCalls (runParsed r c host (.ok (args.debugged true))).calls),
          call.delivers = some payload) := by
  obtain ⟨s, hstop⟩ | ⟨dst, payload, hprepared, hrun⟩ :=
    prepared_or_stopped r c host args
  · rw [hstop true, hstop false]
    exact ⟨rfl, rfl, rfl, Or.inl rfl⟩
  · obtain ⟨part, hpart, hstart, _⟩ := debugDump_calls args host.stderr dst payload
    have hsilent : (debugDump host.stderr (args.debugged false) dst payload).calls = [] := rfl
    have hcalls : sysCalls (Event.stderr part ::
        (transmit host.net args.toCli dst payload).calls.map Event.os) =
          (transmit host.net args.toCli dst payload).calls :=
      sysCalls_os (transmit host.net args.toCli dst payload).calls
    rw [hrun true, hrun false, hsilent, hpart, List.nil_append, List.singleton_append, hcalls,
      sysCalls_os, written_os]
    refine ⟨rfl, rfl, rfl, Or.inr ⟨dst, payload, part, hprepared, rfl, hstart, ?_⟩⟩
    exact (transmit_transmission host.net args.toCli dst payload).delivers

end Runs

/-- **What a working stderr shows is what is sent.** Read as a dump of any version, addresses,
ports and payload at all, the text of a run tells its own: the flags given, the agent resolved, and
the payload that every packet delivers. -/
theorem dump_shows_what_is_sent (r : Encoder) (c : Crypto) (host : Host) (args : Args)
    (hworks : host.stderr.Works) (version : SnmpVersion) (dst : SocketAddrV4)
    (src : Option Ipv4Addr) (srcPort : Option UInt16) (payload : List UInt8)
    (hlen : payload.length ≤ 2 ^ 32)
    (hread : written (runParsed r c host (.ok (args.debugged true))).calls =
      dumpText version dst src srcPort payload) :
    version = args.version ∧ src = args.srcAddrV4 ∧ srcPort = args.srcPort ∧
      Prepared r c host args dst payload ∧
      ∀ call ∈ sends (sysCalls (runParsed r c host (.ok (args.debugged true))).calls),
        call.delivers = some payload := by
  obtain ⟨s, hstop⟩ | ⟨dst', payload', hprepared, hrun⟩ :=
    prepared_or_stopped r c host args
  · rw [hstop true] at hread
    exact absurd (congrArg List.length hread) (by simp [dumpText, written])
  · obtain ⟨part, hpart, _, hwhole⟩ := debugDump_calls args host.stderr dst' payload'
    rw [hrun true, hpart, hwhole hworks] at hread ⊢
    rw [written_append, written_stderr, written_os, List.append_nil] at hread
    obtain ⟨hversion, hdst, hsrc, hsrcPort, rfl⟩ := dumpText_injective hlen hread.symm
    cases hdst
    refine ⟨hversion, hsrc, hsrcPort, hprepared, ?_⟩
    rw [sysCalls_append, sysCalls_stderr, List.nil_append, sysCalls_os]
    exact (transmit_transmission host.net args.toCli dst payload).delivers

theorem openStderr_works : openStderr.Works := fun text out => ⟨out ++ text, rfl, rfl⟩

def communityTrap : V2cTrap :=
  { maplesyrupMessage.trap with
    community := asBytes "public"
    inMemory := ⟨by decide +kernel, maplesyrupMessage.trap.inMemory.2⟩ }

def communityPayload : List UInt8 :=
  [48, 84, 2, 1, 1, 4, 6, 112, 117, 98, 108, 105, 99, 167, 71, 2, 2, 7, 208, 2, 1, 0, 2, 1, 0, 48,
   59, 48, 14, 6, 8, 43, 6, 1, 2, 1, 1, 3, 0, 67, 2, 48, 57, 48, 23, 6, 10, 43, 6, 1, 6, 3, 1, 1,
   4, 1, 0, 6, 9, 43, 6, 1, 6, 3, 1, 1, 5, 1, 48, 16, 6, 8, 43, 6, 1, 2, 1, 1, 5, 0, 4, 4, 104,
   111, 115, 116]

theorem buildPayload_community (dst : SocketAddrV4) :
    buildPayload x690 maplesyrupCrypto maplesyrupWorld communityCli dst =
      .ok communityPayload := by
  have hpositionals : v2cPositionals maplesyrupWorld communityCli.trapArgs =
      .ok ⟨12345, [1, 3, 6, 1, 6, 3, 1, 1, 5, 1],
        [([1, 3, 6, 1, 2, 1, 1, 5, 0], .octetString [104, 111, 115, 116])]⟩ := by decide +kernel
  have htrap : assembleV2c maplesyrupWorld communityCli = .ok communityTrap := by
    rw [assembleV2c, hpositionals, Outcome.ok_bind]
    exact dif_pos communityTrap.inMemory
  have hencoded : (x690.encode communityTrap.messageValue).toOption = some communityPayload := by
    decide +kernel
  refine Outcome.bind_ok_iff.mpr ⟨communityTrap, htrap, ?_⟩
  rw [buildV2cTrap_eq, encode_ok_iff]
  exact Outcome.toOption_eq_some_iff.mp hencoded

theorem prepared_community : Prepared x690 maplesyrupCrypto flakyHost communityArgs
    ⟨⟨127, 0, 0, 1⟩, 162⟩ communityPayload :=
  ⟨by decide +kernel, buildPayload_community _⟩

theorem dump_shows_what_is_sent_community :
    written (runParsed x690 maplesyrupCrypto flakyHost (.ok communityArgs)).calls =
      dumpText .v2c ⟨⟨127, 0, 0, 1⟩, 162⟩ none none communityPayload ∧
    ∀ call ∈ sends (sysCalls (runParsed x690 maplesyrupCrypto flakyHost (.ok communityArgs)).calls),
      call.delivers = some communityPayload := by
  have hwritten : written (runParsed x690 maplesyrupCrypto flakyHost (.ok communityArgs)).calls =
      dumpText .v2c ⟨⟨127, 0, 0, 1⟩, 162⟩ none none communityPayload := by
    obtain ⟨part, hpart, _, hwhole⟩ := debugDump_calls communityArgs openStderr
      ⟨⟨127, 0, 0, 1⟩, 162⟩ communityPayload
    have hdump : (debugDump flakyHost.stderr communityArgs ⟨⟨127, 0, 0, 1⟩, 162⟩
        communityPayload).calls = [.stderr part] := hpart
    rw [runParsed_built communityArgs rfl prepared_community.1 prepared_community.2, hdump,
      written_append, written_stderr, written_os, List.append_nil, hwhole openStderr_works]
    rfl
  obtain ⟨_, _, _, _, hdelivers⟩ := dump_shows_what_is_sent x690 maplesyrupCrypto flakyHost
    communityArgs openStderr_works .v2c ⟨⟨127, 0, 0, 1⟩, 162⟩ none none communityPayload
    (by decide) hwritten
  exact ⟨hwritten, hdelivers⟩

end SnmpTrap
