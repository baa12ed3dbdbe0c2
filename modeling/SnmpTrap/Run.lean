import SnmpTrap.Payload
import SnmpTrap.Transport.Raw
import SnmpTrap.Transport.Unprivileged

/-! One invocation (`run` in `lib.rs`) from the parsed flags to the last packet. `resolve_agent`
asks the resolver: what it returns is an argument. -/
namespace SnmpTrap
open Rust Ber Transport
set_option autoImplicit false
set_option maxHeartbeats 250000
set_option maxRecDepth 120000

/-- The dump that `--debug-print-pdu` writes to stderr (`printPreSendDump`) is not here: the run
ignores its result. -/
def run (r : Encoder) (c : Crypto) (world : World) (net : Network) (parsed : Cli)
    (agent : Run SocketAddrV4) : Sending Unit := do
  let cli ← Traced.ofOutcome parsed.validate
  let dst ← Traced.ofOutcome agent
  let payload ← Traced.ofOutcome (buildPayload r c world cli dst)
  match cli.srcAddrV4 with
  | some src => sendSpoofed net dst src cli.srcPort cli.retries payload
  | none => send net dst cli.srcPort cli.retries payload

section Built
variable {r : Encoder} {c : Crypto} {world : World} (net : Network) {parsed cli : Cli}
  {dst : SocketAddrV4} {payload : List UInt8}
  (hvalid : parsed.validate = .ok cli) (hpayload : buildPayload r c world cli dst = .ok payload)
include hvalid hpayload

theorem run_spoofed {src : Ipv4Addr} (h : cli.srcAddrV4 = some src) :
    run r c world net parsed (.ok dst) =
      sendSpoofed net dst src cli.srcPort cli.retries payload := by
  simp only [run, hvalid, hpayload, h, Traced.ofOutcome_ok_bind]

theorem run_unprivileged (h : cli.srcAddrV4 = none) :
    run r c world net parsed (.ok dst) = send net dst cli.srcPort cli.retries payload := by
  simp only [run, hvalid, hpayload, h, Traced.ofOutcome_ok_bind]

end Built

end SnmpTrap
