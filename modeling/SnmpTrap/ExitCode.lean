import SnmpTrap.BuildErrors
import SnmpTrap.Process
import SnmpTrap.Transport.Transmission
import SnmpTrap.Validation

/-! What the exit code and the report of a process tell about the trap it was started to send. -/
namespace SnmpTrap
open Rust Ber Transport
set_option autoImplicit false
set_option maxHeartbeats 250000
set_option maxRecDepth 120000

/-! ## Events -/

@[simp] theorem sysCalls_append (events events' : List Event) :
    sysCalls (events ++ events') = sysCalls events ++ sysCalls events' :=
  List.filterMap_append

@[simp] theorem sysCalls_stderr (text : List Char) : sysCalls [.stderr text] = [] := rfl

@[simp] theorem sysCalls_os (calls : List SysCall) : sysCalls (calls.map Event.os) = calls := by
  rw [sysCalls, List.filterMap_map]
  exact List.filterMap_some

@[simp] theorem written_append (events events' : List Event) :
    written (events ++ events') = written events ++ written events' := List.flatMap_append

@[simp] theorem written_stderr (text : List Char) : written [.stderr text] = text := by
  rw [written, List.flatMap_singleton, Event.text]

@[simp] theorem written_os (calls : List SysCall) : written (calls.map Event.os) = [] := by
  rw [written, List.flatMap_eq_nil_iff, List.forall_mem_map]
  exact fun _ _ => rfl

/-! ## The run -/

theorem debugDump_outcome (stderr : Stderr) (cli : Args) (dst : SocketAddrV4)
    (payload : List UInt8) : (debugDump stderr cli dst payload).outcome = .ok () := by
  unfold debugDump
  split <;> rfl

theorem sysCalls_debugDump (stderr : Stderr) (cli : Args) (dst : SocketAddrV4)
    (payload : List UInt8) : sysCalls (debugDump stderr cli dst payload).calls = [] := by
  unfold debugDump
  split <;> rfl

theorem transmit_transmission (net : Network) (cli : Cli) (dst : SocketAddrV4)
    (payload : List UInt8) :
    Transmission net cli.srcPort cli.retries payload (transmit net cli dst payload) := by
  unfold transmit
  split
  · exact sendSpoofed_transmission net dst _ cli.srcPort cli.retries payload
  · exact send_transmission net dst cli.srcPort cli.retries payload

section Runs
variable {r : Encoder} {c : Crypto} {host : Host} {parsed : Run Args}

/-- Past the builders a run is the dump and the transmission. -/
theorem runParsed_built (cli : Args) {dst : SocketAddrV4} {payload : List UInt8}
    (hparsed : parsed = .ok cli) (hdst : resolveAgentString host.lookupHost cli.agent = .ok dst)
    (hpayload : buildPayload r c host.world cli.toCli dst = .ok payload) :
    runParsed r c host parsed =
      ⟨(debugDump host.stderr cli dst payload).calls ++
          (transmit host.net cli.toCli dst payload).calls.map Event.os,
        (transmit host.net cli.toCli dst payload).outcome⟩ := by
  rw [runParsed, hparsed]
  simp only [Traced.ofOutcome_ok_bind, hdst, hpayload]
  rw [Traced.bind_of_ok (debugDump_outcome host.stderr cli dst payload)]
  rfl

/-- The operating system sees the transmission only. -/
theorem sysCalls_built (cli : Args) {dst : SocketAddrV4} {payload : List UInt8}
    (hparsed : parsed = .ok cli) (hdst : resolveAgentString host.lookupHost cli.agent = .ok dst)
    (hpayload : buildPayload r c host.world cli.toCli dst = .ok payload) :
    sysCalls (runParsed r c host parsed).calls = (transmit host.net cli.toCli dst payload).calls ∧
      (runParsed r c host parsed).outcome = (transmit host.net cli.toCli dst payload).outcome := by
  rw [runParsed_built cli hparsed hdst hpayload, sysCalls_append, sysCalls_debugDump,
    List.nil_append, sysCalls_os]
  exact ⟨rfl, rfl⟩

end Runs

/-- Seen from the operating system, a process whose arguments clap takes is `run` itself. -/
theorem runParsed_run (r : Encoder) (c : Crypto) (host : Host) (args : Args) {parsed : Run Args}
    (h : parseArgv (.parsed args) = some parsed) :
    sysCalls (runParsed r c host parsed).calls =
        (run r c host.world host.net args.toCli
          (resolveAgentString host.lookupHost args.agent)).calls ∧
      (runParsed r c host parsed).outcome =
        (run r c host.world host.net args.toCli
          (resolveAgentString host.lookupHost args.agent)).outcome := by
  cases h
  cases hvalid : args.toCli.validate with
  | error stop =>
    simp only [runParsed, run, hvalid, Traced.ofOutcome_error_bind]
    exact ⟨rfl, rfl⟩
  | ok cli =>
    cases hdst : resolveAgentString host.lookupHost args.agent with
    | error stop =>
      simp only [runParsed, run, hvalid, hdst, Outcome.ok_bind, Traced.ofOutcome_ok_bind,
        Traced.ofOutcome_error_bind]
      exact ⟨rfl, rfl⟩
    | ok dst =>
      cases hpayload : buildPayload r c host.world cli dst with
      | error stop =>
        simp only [runParsed, run, hvalid, hdst, hpayload, Outcome.ok_bind,
          Traced.ofOutcome_ok_bind, Traced.ofOutcome_error_bind]
        exact ⟨rfl, rfl⟩
      | ok payload =>
        have hrun : run r c host.world host.net args.toCli (.ok dst) =
            transmit host.net cli dst payload := by
          simp only [run, hvalid, hpayload, Traced.ofOutcome_ok_bind]
          rfl
        rw [hrun, Outcome.ok_bind]
        exact sysCalls_built { args with toCli := cli } rfl hdst hpayload

/-! ## Why a run fails -/

/-- What an error of a process is due to: clap, `validate`, the agent or a builder refuses the
arguments or the host, before any system call; or a transport's answers. -/
inductive Cause (r : Encoder) (c : Crypto) (host : Host) : Clap → List SysCall → Error → Prop
  | refused (message : String) : Cause r c host (.refused message) [] (.usage message)
  | invalid {args : Args} {message : String} (h : args.toCli.validate = usage message) :
      Cause r c host (.parsed args) [] (.usage message)
  | agent {args : Args} {cli : Cli} {message : String} (hvalid : args.toCli.validate = .ok cli)
      (h : resolveAgentString host.lookupHost args.agent = usage message) :
      Cause r c host (.parsed args) [] (.usage message)
  | build {args : Args} {cli : Cli} {dst : SocketAddrV4} {err : Error}
      (hvalid : args.toCli.validate = .ok cli)
      (hdst : resolveAgentString host.lookupHost args.agent = .ok dst)
      (h : buildPayload r c host.world cli dst = Outcome.fail err)
      (herr : BuildError r host.world dst err) : Cause r c host (.parsed args) [] err
  | transport {args : Args} {cli : Cli} {dst : SocketAddrV4} {payload : List UInt8}
      {calls : List SysCall} {err : Error} (hvalid : args.toCli.validate = .ok cli)
      (hdst : resolveAgentString host.lookupHost args.agent = .ok dst)
      (hpayload : buildPayload r c host.world cli dst = .ok payload)
      (h : Blames host.net cli.srcPort payload calls err) :
      Cause r c host (.parsed args) calls err

section Cause
variable {r : Encoder} (hr : r.EmitsBer) {c : Crypto} (hc : c.Lawful) (host : Host) {clap : Clap}
  {parsed : Run Args} (hparsed : parseArgv clap = some parsed)
include hr hc hparsed

/-- A run fails for a cause before it has a payload, or transmits one. -/
theorem runParsed_cases :
    (∃ err, Cause r c host clap [] err ∧
      runParsed r c host parsed = Traced.ofOutcome (Outcome.fail err)) ∨
    ∃ args cli dst payload, clap = .parsed args ∧ parsed = .ok { args with toCli := cli } ∧
      args.toCli.validate = .ok cli ∧ resolveAgentString host.lookupHost args.agent = .ok dst ∧
      buildPayload r c host.world cli dst = .ok payload := by
  cases clap with
  | displayed => cases hparsed
  | refused message =>
    cases hparsed
    exact Or.inl ⟨_, .refused message, rfl⟩
  | parsed args =>
    cases hparsed
    obtain ⟨cli, hvalid⟩ | ⟨message, h⟩ := usageOrOk_validate args.toCli
    · rw [hvalid, Outcome.ok_bind]
      obtain ⟨dst, hdst⟩ | ⟨message, h⟩ := usageOrOk_resolveAgentString host.lookupHost args.agent
      · obtain ⟨payload, hpayload⟩ | ⟨err, h⟩ :=
          (safe_buildPayload hr hc host.world ⟨args.toCli, hvalid⟩ dst).cases
        · exact Or.inr ⟨args, cli, dst, payload, rfl, rfl, hvalid, hdst, hpayload⟩
        · refine Or.inl ⟨err, .build hvalid hdst h
            (failsWith_buildPayload r host.world dst c cli err h), ?_⟩
          rw [runParsed]
          simp only [Traced.ofOutcome_ok_bind, hdst, h]
          rfl
      · refine Or.inl ⟨_, .agent hvalid h, ?_⟩
        rw [runParsed]
        simp only [Traced.ofOutcome_ok_bind, h]
        rfl
    · refine Or.inl ⟨_, .invalid h, ?_⟩
      rw [h]
      rfl

end Cause

/-! ## The report -/

def Stderr.Refuses (stderr : Stderr) (said text : List Char) : Prop :=
  ∃ e out, (stderr.write text).run said = .error (e, out)

/-- Behind what stderr has taken already stands the report, or a part of it. -/
theorem reportAndExit_cases (stderr : Stderr) (err : Error) (events : List Event) :
    ∃ part, (reportAndExit stderr err events).events = events ++ [.stderr part] ∧
      ((reportAndExit stderr err events).code = err.exitCode ∧ part = err.report ∨
        (reportAndExit stderr err events).code = panicCode ∧ part <+: err.report ∧
          stderr.Refuses (written events) err.report) := by
  unfold reportAndExit
  simp only
  obtain ⟨out, hrun, hout⟩ | ⟨e, out, part, hrun, hout, hpart⟩ :=
    stderr.appends err.report (written events)
  · rw [id, id] at hout
    have hsaid : out.drop (written events).length = err.report := by
      rw [hout, List.drop_left]
    rw [hrun]
    refine ⟨err.report, ?_, Or.inl ⟨rfl, rfl⟩⟩
    simp only [hsaid]
  · rw [id, id] at hout
    have hsaid : out.drop (written events).length = part := by
      rw [hout, List.drop_left]
    rw [hrun]
    refine ⟨part, ?_, Or.inr ⟨rfl, hpart, e, out, hrun⟩⟩
    simp only [hsaid]

section Report
variable {r : Encoder} {c : Crypto} {host : Host} {clap : Clap} {events : List Event}

end Report

/-! ## The process -/

/-- A stderr that takes everything. -/
def openStderr : Stderr where
  write text := modify (· ++ text)
  appends text out := Or.inl ⟨out ++ text, rfl, rfl⟩

/-- The session's host, its network flaky and no name known to it. -/
def flakyHost : Host where
  world := maplesyrupWorld
  net := flakyNetwork
  lookupHost _ _ := .error ⟨.other, none, "failed to lookup address information"⟩
  stderr := openStderr

/-- The community session with `--debug-print-pdu`. -/
def communityArgs : Args := ⟨communityCli, "127.0.0.1", true⟩

end SnmpTrap
