import SnmpTrap.Error
import SnmpTrap.Rust.Net

/-! What one invocation learns from the host: lookups, clocks and random numbers. -/
namespace SnmpTrap
open Rust
set_option autoImplicit false
set_option maxHeartbeats 250000
set_option maxRecDepth 120000

/-- Each field is what the source function of its name returns; `elapsedSeconds` counts from the
first time the process asked. -/
structure World where
  hostUptimeCentiseconds : Except IoError UInt32
  freshRequestId : Int32
  freshMsgId : Int32
  freshSalt : UInt64
  elapsedSeconds : UInt64
  hostMac : Option (Vector UInt8 6)
  hostName : Option String
  egressIpv4For : SocketAddrV4 → Except IoError Ipv4Addr

end SnmpTrap
