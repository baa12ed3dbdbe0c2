import SnmpTrap.Net.OnesComplement
import SnmpTrap.Numeral.Octets
import SnmpTrap.Transport.Socket

/-! The spoofed send (`transport/raw.rs`): checksum, UDP datagram, IPv4 header and the retry loop,
on the Linux build, where the header's 16-bit fields go out in network byte order. -/
namespace SnmpTrap.Transport
open Rust Numeral
set_option autoImplicit false
set_option maxHeartbeats 250000
set_option maxRecDepth 120000

/-! ## Checksum -/

/-- The accumulation loop, `wrapping_add` on `u32`. -/
def addWords (sum : UInt32) : List UInt8 → UInt32
  | [] => sum
  | [a] => sum + UInt32.ofNat (256 * a.toNat)
  | a :: b :: rest => addWords (sum + UInt32.ofNat (256 * a.toNat + b.toNat)) rest

theorem fold_toNat (sum : UInt32) :
    ((sum &&& (0xFFFF : UInt32)) + (sum >>> 16)).toNat = sum.toNat % 65536 + sum.toNat / 65536 := by
  have hlt := sum.toNat_lt
  have hlow : (sum &&& (0xFFFF : UInt32)).toNat = sum.toNat % 65536 := by
    rw [UInt32.toNat_and]
    exact Nat.and_two_pow_sub_one_eq_mod sum.toNat 16
  have hhigh : (sum >>> 16).toNat = sum.toNat / 65536 := by
    rw [UInt32.toNat_shiftRight]
    exact Nat.shiftRight_eq_div_pow sum.toNat 16
  rw [UInt32.toNat_add, hlow, hhigh, Nat.mod_eq_of_lt (by omega)]

theorem shift_ne_zero_iff (sum : UInt32) : sum >>> 16 ≠ 0 ↔ 65536 ≤ sum.toNat := by
  have hhigh : (sum >>> 16).toNat = sum.toNat / 65536 := by
    rw [UInt32.toNat_shiftRight]
    exact Nat.shiftRight_eq_div_pow sum.toNat 16
  rw [ne_eq, ← UInt32.toNat_inj, hhigh]
  simp only [UInt32.toNat_zero]
  omega

/-- The carry-folding loop; every pass makes the sum smaller. -/
def foldCarries (sum : UInt32) : UInt32 :=
  if sum >>> 16 ≠ 0 then foldCarries ((sum &&& (0xFFFF : UInt32)) + (sum >>> 16)) else sum
termination_by sum.toNat
decreasing_by
  rename_i h
  rw [shift_ne_zero_iff] at h
  rw [fold_toNat]
  omega

def ipChecksum (data : List UInt8) : UInt16 := ~~~(foldCarries (addWords 0 data)).toUInt16

theorem addWords_toNat : ∀ (data : List UInt8) (sum : UInt32),
    sum.toNat + Net.wordSum data < 2 ^ 32 →
    (addWords sum data).toNat = sum.toNat + Net.wordSum data
  | [], _, _ => by simp [addWords]
  | [a], sum, h => by
    rw [Net.wordSum_singleton] at h ⊢
    rw [addWords, UInt32.toNat_add, UInt32.toNat_ofNat']
    omega
  | a :: b :: rest, sum, h => by
    rw [Net.wordSum_cons_cons] at h ⊢
    have hword : (sum + UInt32.ofNat (256 * a.toNat + b.toNat)).toNat =
        sum.toNat + (256 * a.toNat + b.toNat) := by
      rw [UInt32.toNat_add, UInt32.toNat_ofNat']
      omega
    rw [addWords, addWords_toNat rest _ (by omega), hword]
    omega

theorem foldCarries_toNat (sum : UInt32) :
    (foldCarries sum).toNat = Net.onesComplement sum.toNat := by
  induction sum using foldCarries.induct with
  | case1 sum h ih =>
    rw [foldCarries, if_pos h, ih, fold_toNat, Net.onesComplement_fold]
  | case2 sum h =>
    rw [foldCarries, if_neg h]
    rw [shift_ne_zero_iff] at h
    rw [Net.onesComplement_of_lt _ (by omega)]

theorem ipChecksum_toNat (data : List UInt8) (h : data.length ≤ 131074) :
    (ipChecksum data).toNat = 65535 - Net.onesComplement (Net.wordSum data) := by
  have hsum := Net.wordSum_le data
  have hfold := foldCarries_toNat (addWords 0 data)
  rw [addWords_toNat data 0 (by simp; omega), UInt32.toNat_zero, Nat.zero_add] at hfold
  have hle := Net.onesComplement_le (Net.wordSum data)
  rw [ipChecksum, UInt16.toNat_not, UInt32.toNat_toUInt16, hfold, UInt16.size]
  omega

/-! ## Headers -/

def toBeBytes (v : UInt16) : List UInt8 := fixedOctets 2 v.toNat

/-- `iphdr_u16_to_kernel` on Linux. -/
def iphdrU16ToKernel (v : UInt16) : List UInt8 := toBeBytes v

def addU16 (a b : UInt16) : Run UInt16 :=
  if a.toNat + b.toNat < 2 ^ 16 then .ok (a + b)
  else Outcome.panicked "attempt to add with overflow"

def ipv4HeaderWith (src dst : Ipv4Addr) (totalLength identification : UInt16)
    (checksum : List UInt8) : List UInt8 :=
  [(4 : UInt8) <<< 4 ||| 5, 0] ++ iphdrU16ToKernel totalLength ++ toBeBytes identification ++
    iphdrU16ToKernel 0x4000 ++ [64, 17] ++ checksum ++ src.octets ++ dst.octets

def buildIpv4Header (src dst : Ipv4Addr) (payloadLen identification : UInt16) :
    Run (List UInt8) := do
  let totalLength ← addU16 20 payloadLen
  let hdr := ipv4HeaderWith src dst totalLength identification [0, 0]
  let csum := ipChecksum hdr
  .ok (ipv4HeaderWith src dst totalLength identification (toBeBytes csum))

/-- The UDP header with the given checksum octets, and the payload. -/
def udpWith (srcPort dstPort udpLen : UInt16) (checksum payload : List UInt8) : List UInt8 :=
  toBeBytes srcPort ++ toBeBytes dstPort ++ toBeBytes udpLen ++ checksum ++ payload

/-- The 12 octets that only enter the checksum. -/
def pseudoHeader (src dst : Ipv4Addr) (udpLen : UInt16) : List UInt8 :=
  src.octets ++ dst.octets ++ [0, 17] ++ toBeBytes udpLen

def buildUdpDatagram (src dst : Ipv4Addr) (srcPort dstPort : UInt16) (payload : List UInt8) :
    Run (List UInt8) := do
  let udpLen ← addU16 8 (UInt16.ofNat payload.length)
  let pseudo := pseudoHeader src dst udpLen ++ udpWith srcPort dstPort udpLen [0, 0] payload
  let csum := ipChecksum pseudo
  let csum := if csum = 0 then 0xFFFF else csum
  .ok (udpWith srcPort dstPort udpLen (toBeBytes csum) payload)

/-! ## One attempt -/

def maxUdpPayload : ℕ := 65535 - 20 - 8

/-- The size guard of `send_spoofed`, before any socket is opened. -/
def guardSize (payload : List UInt8) : Run Unit :=
  if maxUdpPayload < payload.length then
    Outcome.fail (.other ⟨.other, none,
      s!"SNMP payload {payload.length} bytes exceeds IPv4/UDP single-datagram max {maxUdpPayload}"⟩)
  else .ok ()

theorem guardSize_ok_iff (payload : List UInt8) :
    guardSize payload = .ok () ↔ payload.length ≤ maxUdpPayload := by
  unfold guardSize
  split <;> rename_i h <;> simp [Outcome.fail] <;> omega

/-- The packet of an attempt around a datagram already built. -/
def attemptPacket (src dst : Ipv4Addr) (udp : List UInt8) (ident : UInt16) : Run (List UInt8) := do
  let ip ← buildIpv4Header src dst (UInt16.ofNat udp.length) ident
  .ok (ip ++ udp)

/-! ## Errors -/

def classifyRawOpen (err : IoError) : Error :=
  if err.rawOsError = some ePerm ∨ err.rawOsError = some eAcces then
    .rawSocketDenied Platform.current err
  else .other err

def classifyRawSend (err : IoError) (payloadLen : ℕ) : Error :=
  if err.rawOsError = some eMsgSize then .payloadExceedsMtu payloadLen err
  else if err.rawOsError = some eHostUnreach ∨ err.rawOsError = some eNetUnreach ∨
      err.rawOsError = some eAddrNotAvail ∨ err.rawOsError = some eAcces ∨
      err.rawOsError = some ePerm then .routing err
  else match err.kind with
    | .hostUnreachable | .networkUnreachable | .addrNotAvailable => .routing err
    | _ => .other err

/-! ## The send -/

/-- The `while budget > 0` loop before call `i` of `send_to`. -/
def spoofedLoop (net : Network) (dst : SocketAddrV4) (src : Ipv4Addr) (udp : List UInt8)
    (payloadLen i budget : ℕ) (lastErr : Option IoError) : Sending Unit :=
  match budget with
  | 0 => Traced.ofOutcome (Outcome.fail
      (classifyRawSend (lastErr.getD (ioOther "raw send_to failed without an OS error")) payloadLen))
  | left + 1 => do
    let packet ← Traced.ofOutcome (attemptPacket src dst.ip udp (net.identification i))
    match h : net.sendTo.reply i with
    | .ok _ => Traced.call (.rawSendTo dst packet) ()
    | .error e =>
      if he : isInterrupted e = true then do
        Traced.call (.rawSendTo dst packet) ()
        spoofedLoop net dst src udp payloadLen (i + 1) (left + 1) lastErr
      else do
        Traced.call (.rawSendTo dst packet) ()
        spoofedLoop net dst src udp payloadLen (i + 1) left (some e)
termination_by (budget, net.sendTo.wait i)
decreasing_by
  · exact Prod.Lex.right _ (net.sendTo.wait_succ_lt h he)
  · exact Prod.Lex.left _ _ (Nat.lt_succ_self left)

def sendSpoofed (net : Network) (dst : SocketAddrV4) (src : Ipv4Addr) (srcPort : Option UInt16)
    (retries : UInt8) (payload : List UInt8) : Sending Unit := do
  Traced.ofOutcome (guardSize payload)
  let opened ← Traced.call .rawSocket net.rawSocket
  Traced.ofOutcome (Outcome.mapErr classifyRawOpen (Outcome.ofExcept opened))
  let included ← Traced.call .setHeaderIncluded net.setHeaderIncluded
  Traced.ofOutcome (Outcome.mapErr classifyRawOpen (Outcome.ofExcept included))
  let chosenSrcPort := srcPort.getD net.ephemeralPort
  let udp ← Traced.ofOutcome (buildUdpDatagram src dst.ip chosenSrcPort dst.port payload)
  spoofedLoop net dst src udp payload.length 0 (retries.toNat + 1) none

end SnmpTrap.Transport
