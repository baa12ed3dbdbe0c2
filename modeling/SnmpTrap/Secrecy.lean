import SnmpTrap.Secrets

/-! What a run tells of its passwords: on stderr and in its exit code how long they are, in what it
sends the tag and the ciphertext besides. -/
namespace SnmpTrap
open Rust Ber Transport
set_option autoImplicit false
set_option maxHeartbeats 250000
set_option maxRecDepth 120000

/-! ## Calls -/

/-- The same call, or two that send from and to the same place. -/
inductive SameCall : SysCall → SysCall → Prop
  | same (call : SysCall) : SameCall call call
  | udpSendTo {dst : SocketAddrV4} {w w' : List UInt8} (h : SameButSecrets w w') :
      SameCall (.udpSendTo dst w) (.udpSendTo dst w')
  | rawSendTo {dst : SocketAddrV4} {packet packet' : List UInt8} {d : Datagram} {w' : List UInt8}
      (hlen : packet.length = packet'.length) (h : receive packet = some d)
      (h' : receive packet' = some { d with payload := w' })
      (hsame : SameButSecrets d.payload w') :
      SameCall (.rawSendTo dst packet) (.rawSendTo dst packet')

inductive SameEvent : Event → Event → Prop
  | stderr (text : List Char) : SameEvent (.stderr text) (.stderr text)
  | os {call call' : SysCall} (h : SameCall call call') : SameEvent (.os call) (.os call')

theorem sameCall_refl (calls : List SysCall) : List.Forall₂ SameCall calls calls :=
  List.forall₂_same.mpr fun call _ => .same call

theorem written_congr {events events' : List Event} (h : List.Forall₂ SameEvent events events') :
    written events = written events' := by
  induction h with
  | nil => rfl
  | cons hevent _ ih =>
    rw [written, written, List.flatMap_cons, List.flatMap_cons]
    change _ ++ written _ = _ ++ written _
    rw [ih]
    cases hevent <;> rfl

/-! ## Transports -/

section Transports
variable (net : Network) (dst : SocketAddrV4) {w w' : List UInt8} (h : SameButSecrets w w')
include h

theorem alike_send (srcPort : Option UInt16) (retries : UInt8) :
    (send net dst srcPort retries w).Alike SameCall Eq (send net dst srcPort retries w') := by
  cases hbound : net.udpBind with
  | error e =>
    rw [send, send, hbound]
    exact ⟨sameCall_refl _, .stopped _⟩
  | ok u =>
    obtain ⟨n, hlast, heq⟩ := send_bound dst srcPort retries w hbound
    obtain ⟨n', hlast', heq'⟩ := send_bound dst srcPort retries w' hbound
    cases hlast.unique hlast'
    rw [heq, heq']
    refine ⟨.cons (.same _) ?_, Outcome.alike_refl (fun _ => rfl) _⟩
    have hcalls : ∀ k, List.Forall₂ SameCall (List.replicate k (.udpSendTo dst w))
        (List.replicate k (.udpSendTo dst w')) := by
      intro k
      induction k with
      | zero => exact .nil
      | succ k ih => exact .cons (.udpSendTo h) ih
    exact hcalls (n + 1)

theorem alike_sendSpoofed (src : Ipv4Addr) (srcPort : Option UInt16) (retries : UInt8) :
    (sendSpoofed net dst src srcPort retries w).Alike SameCall Eq
      (sendSpoofed net dst src srcPort retries w') := by
  have hlen := h.1
  obtain hlarge | hsize := Nat.lt_or_ge maxUdpPayload w.length
  · have hguard : guardSize w' = guardSize w := by
      unfold guardSize
      rw [hlen]
    rw [sendSpoofed, sendSpoofed, hguard, guardSize, if_pos hlarge]
    exact Traced.alike_ofOutcome (.stopped _)
  · have hsize' : w'.length ≤ maxUdpPayload := hlen ▸ hsize
    cases hopen : net.rawSocket with
    | error e =>
      rw [sendSpoofed_rawSocket dst src srcPort retries hsize hopen,
        sendSpoofed_rawSocket dst src srcPort retries hsize' hopen]
      exact ⟨sameCall_refl _, .stopped _⟩
    | ok u =>
      cases hincluded : net.setHeaderIncluded with
      | error e =>
        rw [sendSpoofed_setHeaderIncluded dst src srcPort retries hsize hopen hincluded,
          sendSpoofed_setHeaderIncluded dst src srcPort retries hsize' hopen hincluded]
        exact ⟨sameCall_refl _, .stopped _⟩
      | ok u' =>
        obtain ⟨udp, packet, n, hudp, _, hpacket, hlast, heq⟩ :=
          sendSpoofed_opened dst src srcPort retries hsize hopen hincluded
        obtain ⟨udp', packet', n', hudp', _, hpacket', hlast', heq'⟩ :=
          sendSpoofed_opened dst src srcPort retries hsize' hopen hincluded
        cases hlast.unique hlast'
        rw [heq, heq', hlen]
        refine ⟨.cons (.same _) (.cons (.same _) ?_), Outcome.alike_refl (fun _ => rfl) _⟩
        simp only [List.forall₂_map_left_iff, List.forall₂_map_right_iff]
        refine List.forall₂_same.mpr fun i _ => ?_
        obtain ⟨hreceived, hpacketLen⟩ := attempt_received hsize hudp (hpacket i)
        obtain ⟨hreceived', hpacketLen'⟩ := attempt_received hsize' hudp' (hpacket' i)
        refine .rawSendTo ?_ hreceived hreceived' h
        rw [hpacketLen, hpacketLen', hlen]

theorem alike_transmit (cli : Cli) :
    (transmit net cli dst w).Alike SameCall Eq (transmit net cli dst w') := by
  unfold transmit
  cases cli.srcAddrV4 with
  | some src => exact alike_sendSpoofed net dst h src cli.srcPort cli.retries
  | none => exact alike_send net dst h cli.srcPort cli.retries

end Transports

/-! ## The process -/

def Args.withPasswords (args : Args) (auth priv : Option String) : Args :=
  { args with toCli := args.toCli.withPasswords auth priv }

theorem Cli.Encodable.validate {world : World} {raw cli : Cli} (h : raw.Encodable world)
    (hvalid : raw.validate = .ok cli) : cli.Encodable world := by
  obtain ⟨_, _, _, _, _, ⟨_, rfl, _⟩ | ⟨_, rfl⟩⟩ := validate_ok hvalid
  · unfold Cli.withDefaultLevel
    split
    · exact ⟨h.positionals, h.userName, h.contextName⟩
    · exact h
  · exact h

section Runs
variable {r : Encoder} (hr : r.EmitsBer) {c : Crypto} (hc : c.Lawful) (host : Host) {args : Args}
  {auth priv : Option String}
  (hauth : octetCount auth = octetCount args.authPassword)
  (hpriv : octetCount priv = octetCount args.privPassword)
  (hquiet : args.debugPrintPdu = false) (hencodable : args.toCli.Encodable host.world)
include hr hc hauth hpriv hquiet hencodable

/-- Past validation. -/
theorem alike_runValid :
    (runParsed r c host (.ok args)).Alike SameEvent Eq
      (runParsed r c host (.ok (args.withPasswords auth priv))) := by
  unfold runParsed
  simp only [Traced.ofOutcome_ok_bind]
  refine (Traced.alike_ofOutcome (Outcome.alike_refl (fun _ => rfl) _)).bind fun dst _ _ hdst => ?_
  cases hdst
  refine (Traced.alike_ofOutcome (alike_buildPayload hr hc host.world hauth hpriv hencodable
    dst)).bind fun w w' _ hw => ?_
  have hdump : ∀ bs, debugDump host.stderr args dst bs = pure () := fun bs => by
    rw [debugDump, hquiet]
    rfl
  have hdump' : ∀ bs, debugDump host.stderr (args.withPasswords auth priv) dst bs = pure () :=
    hdump
  rw [hdump, hdump']
  exact (alike_transmit host.net dst hw args.toCli).mapCalls fun call call' hcall => .os hcall

/-- From the arguments on. -/
theorem alike_runParsed {parsed parsed' : Run Args} (h : parseArgv (.parsed args) = some parsed)
    (h' : parseArgv (.parsed (args.withPasswords auth priv)) = some parsed') :
    (runParsed r c host parsed).Alike SameEvent Eq (runParsed r c host parsed') := by
  cases h
  cases h'
  have hvalidate := alike_validate hauth hpriv
  change (args.toCli.validate).Alike _ ((args.withPasswords auth priv).toCli.validate) at hvalidate
  cases hraw : args.toCli.validate with
  | error s =>
    rw [hraw] at hvalidate
    generalize (args.withPasswords auth priv).toCli.validate = refused at hvalidate
    cases hvalidate
    exact Traced.alike_ofOutcome (.stopped s)
  | ok cli =>
    rw [hraw] at hvalidate
    generalize (args.withPasswords auth priv).toCli.validate = valid at hvalidate
    cases hvalidate with
    | ok hcli =>
      obtain ⟨rfl, hauth', hpriv'⟩ := hcli
      change Traced.Alike SameEvent Eq (runParsed r c host (.ok { args with toCli := cli })) _
      exact alike_runValid hr hc host hauth' hpriv' hquiet (hencodable.validate hraw)

/-- **Of a password a run tells its length.** With other passwords of the same lengths, and no
dump asked for, the process writes the same to stderr and exits with the same code, and its calls
are the same one by one: the packets are as many and as long, come from and go to the same place,
and read the same but for the tag and the ciphertext. -/
theorem passwords_show_in_tag_and_ciphertext :
    (main r c host (.parsed (args.withPasswords auth priv))).code =
      (main r c host (.parsed args)).code ∧
    List.Forall₂ SameEvent (main r c host (.parsed args)).events
      (main r c host (.parsed (args.withPasswords auth priv))).events := by
  obtain ⟨parsed, hparsed⟩ : ∃ parsed, parseArgv (.parsed args) = some parsed := ⟨_, rfl⟩
  obtain ⟨parsed', hparsed'⟩ :
    ∃ parsed', parseArgv (.parsed (args.withPasswords auth priv)) = some parsed' := ⟨_, rfl⟩
  obtain ⟨hevents, houtcome⟩ := alike_runParsed hr hc host hauth hpriv hquiet hencodable hparsed
    hparsed'
  unfold main
  simp only [hparsed, hparsed']
  generalize (runParsed r c host parsed).outcome = outcome at houtcome
  generalize (runParsed r c host parsed').outcome = outcome' at houtcome
  cases houtcome with
  | ok _ => exact ⟨rfl, hevents⟩
  | stopped s =>
    cases s with
    | panic message => exact ⟨rfl, hevents⟩
    | error err =>
      simp only [reportAndExit, written_congr hevents]
      split
      · exact ⟨rfl, List.rel_append hevents (.cons (.stderr _) .nil)⟩
      · exact ⟨rfl, List.rel_append hevents (.cons (.stderr _) .nil)⟩

end Runs

def maplesyrupArgs : Args :=
  { maplesyrupCli with
    agent := "127.0.0.1"
    debugPrintPdu := false }

theorem maplesyrupArgs_encodable : maplesyrupArgs.toCli.Encodable maplesyrupWorld where
  positionals p hp := by
    have hpositionals : v3Positionals maplesyrupWorld maplesyrupCli.trapArgs =
        .ok ⟨12345, [1, 3, 6, 1, 6, 3, 1, 1, 5, 1],
          [([1, 3, 6, 1, 2, 1, 1, 5, 0], .octetString [104, 111, 115, 116])]⟩ := by
      decide +kernel
    change v3Positionals maplesyrupWorld maplesyrupCli.trapArgs = .ok p at hp
    rw [hpositionals] at hp
    cases hp
    exact ⟨by decide, maplesyrupMessage_representable.2⟩
  userName s hs := by
    cases hs
    decide +kernel
  contextName s hs := by cases hs

theorem passwords_show_in_tag_and_ciphertext_maplesyrup :
    (main x690 maplesyrupCrypto flakyHost (.parsed (maplesyrupArgs.withPasswords
      (some "pancakemix") (some "caramel123")))).code =
        (main x690 maplesyrupCrypto flakyHost (.parsed maplesyrupArgs)).code ∧
    List.Forall₂ SameEvent (main x690 maplesyrupCrypto flakyHost (.parsed maplesyrupArgs)).events
      (main x690 maplesyrupCrypto flakyHost (.parsed (maplesyrupArgs.withPasswords
        (some "pancakemix") (some "caramel123")))).events :=
  passwords_show_in_tag_and_ciphertext x690_emitsBer maplesyrupCrypto_lawful flakyHost
    (by decide +kernel) (by decide +kernel) rfl maplesyrupArgs_encodable

end SnmpTrap
