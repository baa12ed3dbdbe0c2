import SnmpTrap.Error
import SnmpTrap.Net.Retry
import SnmpTrap.Rust.Net
import SnmpTrap.Rust.Traced

/-! What the transports ask of the operating system, and its answers on the Linux build. -/
namespace SnmpTrap.Transport
open Rust
set_option autoImplicit false
set_option maxHeartbeats 250000
set_option maxRecDepth 120000

/-- Opening a raw socket, setting `IP_HDRINCL` on it, binding a UDP socket, and `send_to` on
either. -/
inductive SysCall where
  | rawSocket
  | setHeaderIncluded
  | udpBind (port : UInt16)
  | rawSendTo (dst : SocketAddrV4) (packet : List UInt8)
  | udpSendTo (dst : SocketAddrV4) (payload : List UInt8)
deriving DecidableEq

abbrev Sending (α : Type) := Traced SysCall Error α

/-- The retry loops' guard `e.kind() == ErrorKind::Interrupted`. -/
def isInterrupted (e : IoError) : Bool := e.kind == .interrupted

/-- The answers, those to `send_to` in order, and the random numbers drawn: the source port and
an identification for each attempt. -/
structure Network where
  rawSocket : Except IoError Unit
  setHeaderIncluded : Except IoError Unit
  udpBind : Except IoError Unit
  sendTo : Net.Replies isInterrupted
  ephemeralPort : UInt16
  identification : ℕ → UInt16

/-! ## Error numbers -/

def ePerm : ℕ := 1
def eAcces : ℕ := 13
def eMsgSize : ℕ := 90
def eAddrInUse : ℕ := 98
def eAddrNotAvail : ℕ := 99
def eNetUnreach : ℕ := 101
def eHostUnreach : ℕ := 113

/-- `io::Error::other`. -/
def ioOther (message : String) : IoError := ⟨.other, none, message⟩

end SnmpTrap.Transport
