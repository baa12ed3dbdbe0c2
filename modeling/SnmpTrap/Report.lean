import SnmpTrap.Transport.Raw

/-! How an error is reported (`error.rs`): its text and its exit code. -/
namespace SnmpTrap
open Rust
set_option autoImplicit false
set_option maxHeartbeats 250000
set_option maxRecDepth 120000

/-! ## Display -/

/-- What the user can do about a denied raw socket. -/
def remedy : Platform → String
  | .linux => "\nOn Linux, grant it once with:\n\n" ++
    "    sudo setcap cap_net_raw+ep \"$(command -v snmptrap-rs)\"\n\nOr run as root.\n"
  | .macos => "\nOn macOS, run as root (sudo). macOS has no per-binary capability grant.\n"
  | .other => "\nOn this platform, run as root.\n"

def Error.display : Error → String
  | .usage msg => msg
  | .rawSocketDenied platform underlying =>
    "--src-addr requires raw IP socket capability, which this binary does not have.\n" ++
      remedy platform ++ s!"(raw socket open failed: {underlying.message})"
  | .unsupported msg => msg
  | .payloadExceedsMtu payloadLen underlying =>
    let total := payloadLen + 20 + 8
    s!"SNMP payload is {payloadLen} bytes ({total} bytes on the wire after IP+UDP headers) and " ++
      "exceeds the egress interface path MTU.\n\n" ++
      "The --src-addr code path sets the IPv4 Don't-Fragment bit by design, so the kernel " ++
      "refuses to fragment and returns EMSGSIZE.\n\n" ++
      "Reduce the trap size — drop optional varbinds or split it across multiple traps — or " ++
      "send without --src-addr to let the kernel fragment.\n" ++
      s!"(raw send failed: {underlying.message})"
  | .routing io => s!"send failed: {io.message}"
  | .encode msg => s!"encoding error: {msg}"
  | .other io => io.message

/-! ## Exit codes -/

def Error.exitCode : Error → UInt8
  | .usage _ => 2
  | _ => 1

/-- What `report_to_stderr` prints. -/
def Error.report (e : Error) : List Char := s!"error: {e.display}\n".toList

end SnmpTrap
