import SnmpTrap.Rust.Outcome

/-! The error type of the crate (`error.rs`) and the part of `std::io::Error` it carries. -/
namespace SnmpTrap
open Rust
set_option autoImplicit false
set_option maxHeartbeats 250000
set_option maxRecDepth 120000

/-- The `std::io::ErrorKind`s that the crate tells apart. -/
inductive ErrorKind where
  | interrupted
  | hostUnreachable
  | networkUnreachable
  | addrNotAvailable
  | invalidData
  | other
deriving DecidableEq, Repr

structure IoError where
  kind : ErrorKind
  rawOsError : Option ℕ
  message : String
deriving DecidableEq, Repr

inductive Platform where
  | linux
  | macos
  | other
deriving DecidableEq, Repr

/-- The Linux build. -/
def Platform.current : Platform := .linux

inductive Error where
  | usage (message : String)
  | rawSocketDenied (platform : Platform) (underlying : IoError)
  | unsupported (message : String)
  | payloadExceedsMtu (payloadLen : ℕ) (underlying : IoError)
  | routing (underlying : IoError)
  | encode (message : String)
  | other (underlying : IoError)
deriving DecidableEq, Repr

/-- `Result<T, Error>` of a function that may also panic. -/
abbrev Run (α : Type) := Outcome Error α

def usage {α : Type} (message : String) : Run α := Outcome.fail (.usage message)

end SnmpTrap
