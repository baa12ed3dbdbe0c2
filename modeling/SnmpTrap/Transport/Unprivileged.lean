import SnmpTrap.Transport.Socket

/-! The send over an ordinary UDP socket (`transport/unprivileged.rs`). -/
namespace SnmpTrap.Transport
open Rust
set_option autoImplicit false
set_option maxHeartbeats 250000
set_option maxRecDepth 120000

/-! ## Errors -/

def classifyBindIo (srcPort : Option UInt16) (err : IoError) : Error :=
  let portCtx := match srcPort with
    | some p => s!"--src-port {p}"
    | none => "kernel-ephemeral source port"
  if err.rawOsError = some eAcces ∧ srcPort.any (· < 1024) then
    .usage (s!"{portCtx} requires root or CAP_NET_BIND_SERVICE (port < 1024); " ++
      s!"bind failed: {err.message}")
  else if err.rawOsError = some eAddrInUse then
    .usage s!"{portCtx} is already in use by another process; bind failed: {err.message}"
  else .other err

def mapSendIo (err : IoError) : Error :=
  match err.kind with
  | .hostUnreachable | .networkUnreachable | .addrNotAvailable => .routing err
  | _ => .other err

/-! ## The send -/

/-- The `while budget > 0` loop before call `i` of `send_to`. -/
def sendLoop (net : Network) (dst : SocketAddrV4) (payload : List UInt8) (i budget : ℕ)
    (lastErr : Option IoError) : Sending Unit :=
  match budget with
  | 0 => Traced.ofOutcome (Outcome.fail
      (mapSendIo (lastErr.getD (ioOther "send_to failed without an OS error"))))
  | left + 1 =>
    match h : net.sendTo.reply i with
    | .ok _ => Traced.call (.udpSendTo dst payload) ()
    | .error e =>
      if he : isInterrupted e = true then do
        Traced.call (.udpSendTo dst payload) ()
        sendLoop net dst payload (i + 1) (left + 1) lastErr
      else do
        Traced.call (.udpSendTo dst payload) ()
        sendLoop net dst payload (i + 1) left (some e)
termination_by (budget, net.sendTo.wait i)
decreasing_by
  · exact Prod.Lex.right _ (net.sendTo.wait_succ_lt h he)
  · exact Prod.Lex.left _ _ (Nat.lt_succ_self left)

/-- `unprivileged::send`. -/
def send (net : Network) (dst : SocketAddrV4) (srcPort : Option UInt16) (retries : UInt8)
    (payload : List UInt8) : Sending Unit := do
  let chosenPort := srcPort.getD 0
  let bound ← Traced.call (.udpBind chosenPort) net.udpBind
  Traced.ofOutcome (Outcome.mapErr (classifyBindIo srcPort) (Outcome.ofExcept bound))
  sendLoop net dst payload 0 (retries.toNat + 1) none

end SnmpTrap.Transport
