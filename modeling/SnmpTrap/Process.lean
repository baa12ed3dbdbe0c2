import SnmpTrap.Agent
import SnmpTrap.DumpText
import SnmpTrap.Report
import SnmpTrap.Run

/-! The process (`main.rs`, `run` in `lib.rs` and `parse_argv` in `cli.rs`): from what clap made of
the arguments to the exit code, with all that is written to stderr and asked of the operating
system on the way. -/
namespace SnmpTrap
open Rust Ber Transport
set_option autoImplicit false
set_option maxHeartbeats 250000
set_option maxRecDepth 120000

/-! ## Around the process -/

/-- Standard error. A `write!` may fail, with a part of its text written. -/
structure Stderr where
  write : List Char → Writing (IoError × List Char) (List Char) Unit
  appends : ∀ text, Appends id (write text) text

def Stderr.Works (stderr : Stderr) : Prop := ∀ text, Emits id (stderr.write text) text

/-- All that answers the process. -/
structure Host where
  world : World
  net : Network
  lookupHost : LookupHost IoError
  stderr : Stderr

/-- The fields of `Cli` that `run` itself reads come on top of those it passes on. -/
structure Args extends Cli where
  agent : String
  debugPrintPdu : Bool

/-- What clap makes of the arguments; help and version are displayed. -/
inductive Clap where
  | parsed (args : Args)
  | displayed
  | refused (message : String)

inductive Event where
  | stderr (text : List Char)
  | os (call : SysCall)
deriving DecidableEq

def Event.text : Event → List Char
  | .stderr text => text
  | .os _ => []

def Event.call? : Event → Option SysCall
  | .stderr _ => none
  | .os call => some call

/-- What stderr has taken. -/
def written (events : List Event) : List Char := events.flatMap Event.text

def sysCalls (events : List Event) : List SysCall := events.filterMap Event.call?

/-! ## The process -/

/-- `parse_argv`; `none` where it leaves the process. -/
def parseArgv : Clap → Option (Run Args)
  | .parsed args => some do
    let cli ← args.toCli.validate
    .ok { args with toCli := cli }
  | .displayed => none
  | .refused message => some (usage message)

/-- The dump under `--debug-print-pdu`, whose result is ignored. -/
def debugDump (stderr : Stderr) (cli : Args) (dst : SocketAddrV4) (payload : List UInt8) :
    Traced Event Error Unit :=
  if cli.debugPrintPdu then
    Traced.call (.stderr (leftIn (printPreSendDump stderr.write cli.version dst cli.srcAddrV4
      cli.srcPort payload) [])) ()
  else pure ()

/-- The transport that `--src-addr` selects. -/
def transmit (net : Network) (cli : Cli) (dst : SocketAddrV4) (payload : List UInt8) :
    Sending Unit :=
  match cli.srcAddrV4 with
  | some src => sendSpoofed net dst src cli.srcPort cli.retries payload
  | none => send net dst cli.srcPort cli.retries payload

/-- `run` from the parsed arguments on. -/
def runParsed (r : Encoder) (c : Crypto) (host : Host) (parsed : Run Args) :
    Traced Event Error Unit := do
  let cli ← Traced.ofOutcome parsed
  let dst ← Traced.ofOutcome (resolveAgentString host.lookupHost cli.agent)
  let payload ← Traced.ofOutcome (buildPayload r c host.world cli.toCli dst)
  debugDump host.stderr cli dst payload
  (transmit host.net cli.toCli dst payload).mapCalls Event.os

structure Exit where
  code : UInt8
  events : List Event

/-- The exit code of a process whose main thread panics. -/
def panicCode : UInt8 := 101

/-- `report_to_stderr`, then the exit code. `eprintln!` panics where stderr fails; the text of that
panic goes to the same stderr and is left out. -/
def reportAndExit (stderr : Stderr) (err : Error) (events : List Event) : Exit :=
  let said := written events
  match (stderr.write err.report).run said with
  | .ok (_, out) => ⟨err.exitCode, events ++ [.stderr (out.drop said.length)]⟩
  | .error (_, out) => ⟨panicCode, events ++ [.stderr (out.drop said.length)]⟩

/-- `main`. -/
def main (r : Encoder) (c : Crypto) (host : Host) (clap : Clap) : Exit :=
  match parseArgv clap with
  | none => ⟨0, []⟩
  | some parsed =>
    let ran := runParsed r c host parsed
    match ran.outcome with
    | .ok _ => ⟨0, ran.calls⟩
    | .error (.error err) => reportAndExit host.stderr err ran.calls
    | .error (.panic _) => ⟨panicCode, ran.calls⟩

end SnmpTrap
