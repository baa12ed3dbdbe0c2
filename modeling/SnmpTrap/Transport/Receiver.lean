import SnmpTrap.Transport.Raw

/-! The other end of a spoofed send: an IPv4/UDP receiver that checks both length fields and both
checksums, and what it makes of a packet the sender built. -/
namespace SnmpTrap.Transport
open Rust Numeral
set_option autoImplicit false
set_option maxHeartbeats 250000
set_option maxRecDepth 120000

/-! ## A receiver -/

structure Datagram where
  src : Ipv4Addr
  dst : Ipv4Addr
  srcPort : UInt16
  dstPort : UInt16
  identification : UInt16
  payload : List UInt8
deriving DecidableEq

def field16 (off : ℕ) (packet : List UInt8) : ℕ := ofOctets ((packet.drop off).take 2)

def addrAt (off : ℕ) (packet : List UInt8) : Ipv4Addr :=
  ⟨packet.getD off 0, packet.getD (off + 1) 0, packet.getD (off + 2) 0, packet.getD (off + 3) 0⟩

/-- What the UDP checksum of a packet without IP options covers. -/
def udpCoverage (packet : List UInt8) : List UInt8 :=
  (packet.drop 12).take 8 ++ [0, 17] ++ (packet.drop 24).take 2 ++ packet.drop 20

/-- Takes a packet only when version, header length, protocol, lengths and checksums are right. -/
def receive (packet : List UInt8) : Option Datagram :=
  if packet.length < 28 ∨ packet.getD 0 0 ≠ 0x45 ∨ packet.getD 9 0 ≠ 17 then none
  else if field16 2 packet ≠ packet.length ∨ field16 24 packet ≠ packet.length - 20 then none
  else if ¬ Net.Verifies (packet.take 20) then none
  -- a UDP checksum field of zero means that the sender computed none
  else if field16 26 packet = 0 ∨ ¬ Net.Verifies (udpCoverage packet) then none
  else some
    { src := addrAt 12 packet
      dst := addrAt 16 packet
      srcPort := UInt16.ofNat (field16 20 packet)
      dstPort := UInt16.ofNat (field16 22 packet)
      identification := UInt16.ofNat (field16 4 packet)
      payload := packet.drop 28 }

/-! ## The packet written out -/

theorem toBeBytes_eq (v : UInt16) :
    toBeBytes v = [UInt8.ofNat (v.toNat / 256 % 256), UInt8.ofNat (v.toNat % 256)] := rfl

theorem ofOctets_toBeBytes (v : UInt16) : ofOctets (toBeBytes v) = v.toNat :=
  ofOctets_fixedOctets 2 v.toNat v.toNat_lt

theorem toBeBytes_length (v : UInt16) : (toBeBytes v).length = 2 := fixedOctets_length 2 _

theorem wordSum_toBeBytes (v : UInt16) : Net.wordSum (toBeBytes v) = v.toNat := by
  have h := ofOctets_toBeBytes v
  rw [toBeBytes_eq] at h ⊢
  rw [Net.wordSum_cons_cons, Net.wordSum_nil, ← h]
  simp [ofOctets, ofDigits]
  omega

theorem wordSum_splice (before after : List UInt8) (v : UInt16) (h : before.length % 2 = 0) :
    Net.wordSum (before ++ toBeBytes v ++ after) =
      Net.wordSum (before ++ [0, 0] ++ after) + v.toNat := by
  have hlen := toBeBytes_length v
  rw [List.append_assoc, List.append_assoc, Net.wordSum_append _ _ h, Net.wordSum_append _ _ h,
    Net.wordSum_append _ _ (by omega), Net.wordSum_append _ _ (by simp), wordSum_toBeBytes]
  simp
  omega

theorem verifies_splice (before after : List UInt8) (h : before.length % 2 = 0)
    (hlen : (before ++ [0, 0] ++ after).length ≤ 131074) :
    Net.Verifies (before ++ toBeBytes (ipChecksum (before ++ [0, 0] ++ after)) ++ after) := by
  unfold Net.Verifies
  rw [wordSum_splice _ _ _ h, ipChecksum_toNat _ hlen]
  exact Net.onesComplement_add_complement _

theorem verifies_splice_allOnes (before after : List UInt8) (h : before.length % 2 = 0)
    (hlen : (before ++ [0, 0] ++ after).length ≤ 131074)
    (hzero : ipChecksum (before ++ [0, 0] ++ after) = 0) :
    Net.Verifies (before ++ toBeBytes 0xFFFF ++ after) := by
  have hc := ipChecksum_toNat _ hlen
  rw [hzero, UInt16.toNat_zero] at hc
  unfold Net.Verifies
  rw [wordSum_splice _ _ _ h]
  exact Net.onesComplement_add_allOnes _ hc.symm

theorem addU16_eq (a b : UInt16) (h : a.toNat + b.toNat < 2 ^ 16) :
    addU16 a b = .ok (a + b) := if_pos h

theorem addU16_toNat (a b : UInt16) (h : a.toNat + b.toNat < 2 ^ 16) :
    (a + b).toNat = a.toNat + b.toNat := by
  rw [UInt16.toNat_add, Nat.mod_eq_of_lt h]

theorem length_cast {n : ℕ} (h : n < 2 ^ 16) : (UInt16.ofNat n).toNat = n := by
  rw [UInt16.toNat_ofNat', Nat.mod_eq_of_lt h]

/-! ## What the builders build -/

theorem ipv4HeaderWith_length (src dst : Ipv4Addr) (totalLength identification csum : UInt16) :
    (ipv4HeaderWith src dst totalLength identification (toBeBytes csum)).length = 20 := rfl

theorem udpWith_length (srcPort dstPort udpLen csum : UInt16) (payload : List UInt8) :
    (udpWith srcPort dstPort udpLen (toBeBytes csum) payload).length = 8 + payload.length := by
  simp only [udpWith, List.length_append, toBeBytes_length]

theorem buildIpv4Header_eq (src dst : Ipv4Addr) (payloadLen identification : UInt16)
    (h : 20 + payloadLen.toNat < 2 ^ 16) :
    ∃ totalLength csum : UInt16, totalLength.toNat = 20 + payloadLen.toNat ∧
      buildIpv4Header src dst payloadLen identification =
        .ok (ipv4HeaderWith src dst totalLength identification (toBeBytes csum)) ∧
      Net.Verifies (ipv4HeaderWith src dst totalLength identification (toBeBytes csum)) := by
  refine ⟨20 + payloadLen,
    ipChecksum (ipv4HeaderWith src dst (20 + payloadLen) identification [0, 0]),
    addU16_toNat 20 payloadLen h, ?_, ?_⟩
  · rw [buildIpv4Header, addU16_eq 20 payloadLen h, Outcome.ok_bind]
  · -- everything in front of the checksum field
    generalize hbefore : [(4 : UInt8) <<< 4 ||| 5, 0] ++ iphdrU16ToKernel (20 + payloadLen) ++
      toBeBytes identification ++ iphdrU16ToKernel 0x4000 ++ [64, 17] = before
    have hbeforeLen : before.length = 10 := by
      rw [← hbefore]
      rfl
    have hsplit : ∀ csum : List UInt8,
        ipv4HeaderWith src dst (20 + payloadLen) identification csum =
          before ++ csum ++ (src.octets ++ dst.octets) := by
      intro csum
      rw [← hbefore, ipv4HeaderWith, List.append_assoc (_ ++ csum)]
    simp only [hsplit]
    refine verifies_splice before (src.octets ++ dst.octets) (by omega) ?_
    simp only [List.length_append, hbeforeLen, Ipv4Addr.octets_length]
    decide

/-- A datagram around a payload within range: no overflow, a checksum that verifies over the
pseudo-header and is not zero. -/
theorem buildUdpDatagram_eq (src dst : Ipv4Addr) (srcPort dstPort : UInt16)
    (payload : List UInt8) (h : payload.length ≤ maxUdpPayload) :
    ∃ udpLen csum : UInt16, udpLen.toNat = 8 + payload.length ∧ csum ≠ 0 ∧
      buildUdpDatagram src dst srcPort dstPort payload =
        .ok (udpWith srcPort dstPort udpLen (toBeBytes csum) payload) ∧
      Net.Verifies (pseudoHeader src dst udpLen ++
        udpWith srcPort dstPort udpLen (toBeBytes csum) payload) := by
  unfold maxUdpPayload at h
  have hcast : (UInt16.ofNat payload.length).toNat = payload.length := length_cast (by omega)
  have hfit : (8 : UInt16).toNat + (UInt16.ofNat payload.length).toNat < 2 ^ 16 := by
    rw [hcast]
    have h8 : (8 : UInt16).toNat = 8 := rfl
    omega
  generalize hsum : 8 + UInt16.ofNat payload.length = udpLen
  have hlen : udpLen.toNat = 8 + payload.length := by
    rw [← hsum, addU16_toNat _ _ hfit, hcast]
    rfl
  -- everything in front of the checksum field
  generalize hbefore : pseudoHeader src dst udpLen ++
    (toBeBytes srcPort ++ toBeBytes dstPort ++ toBeBytes udpLen) = before
  have hbeforeLen : before.length = 18 := by
    rw [← hbefore]
    rfl
  have hsplit : ∀ csum : List UInt8, pseudoHeader src dst udpLen ++
      udpWith srcPort dstPort udpLen csum payload = before ++ csum ++ payload := by
    intro csum
    rw [← hbefore, udpWith]
    simp only [List.append_assoc]
  have hshort : (before ++ [0, 0] ++ payload).length ≤ 131074 := by
    rw [List.length_append, List.length_append, hbeforeLen]
    simp only [List.length_cons, List.length_nil]
    omega
  by_cases hzero : ipChecksum (before ++ [0, 0] ++ payload) = 0
  · refine ⟨udpLen, 0xFFFF, hlen, by decide, ?_, ?_⟩
    · rw [buildUdpDatagram, addU16_eq _ _ hfit, Outcome.ok_bind, hsum]
      simp only [hsplit, hzero, if_true]
    · rw [hsplit]
      exact verifies_splice_allOnes before payload (by omega) hshort hzero
  · refine ⟨udpLen, ipChecksum (before ++ [0, 0] ++ payload), hlen, hzero, ?_, ?_⟩
    · rw [buildUdpDatagram, addU16_eq _ _ hfit, Outcome.ok_bind, hsum]
      simp only [hsplit, hzero, if_false]
    · rw [hsplit]
      exact verifies_splice before payload (by omega) hshort

/-! ## What the receiver makes of it -/

section Packet
variable (src dst : Ipv4Addr) (srcPort dstPort ident totalLength udpLen headerSum udpSum : UInt16)
  (payload : List UInt8)

def packetWith : List UInt8 :=
  ipv4HeaderWith src dst totalLength ident (toBeBytes headerSum) ++
    udpWith srcPort dstPort udpLen (toBeBytes udpSum) payload

theorem field16_totalLength :
    field16 2 (packetWith src dst srcPort dstPort ident totalLength udpLen headerSum udpSum
      payload) = totalLength.toNat := ofOctets_toBeBytes totalLength

theorem field16_identification :
    field16 4 (packetWith src dst srcPort dstPort ident totalLength udpLen headerSum udpSum
      payload) = ident.toNat := ofOctets_toBeBytes ident

theorem field16_srcPort :
    field16 20 (packetWith src dst srcPort dstPort ident totalLength udpLen headerSum udpSum
      payload) = srcPort.toNat := ofOctets_toBeBytes srcPort

theorem field16_dstPort :
    field16 22 (packetWith src dst srcPort dstPort ident totalLength udpLen headerSum udpSum
      payload) = dstPort.toNat := ofOctets_toBeBytes dstPort

theorem field16_udpLen :
    field16 24 (packetWith src dst srcPort dstPort ident totalLength udpLen headerSum udpSum
      payload) = udpLen.toNat := ofOctets_toBeBytes udpLen

theorem field16_udpSum :
    field16 26 (packetWith src dst srcPort dstPort ident totalLength udpLen headerSum udpSum
      payload) = udpSum.toNat := ofOctets_toBeBytes udpSum

theorem packetWith_length :
    (packetWith src dst srcPort dstPort ident totalLength udpLen headerSum udpSum payload).length =
      28 + payload.length := by
  rw [packetWith, List.length_append, ipv4HeaderWith_length, udpWith_length]
  omega

theorem packetWith_take :
    (packetWith src dst srcPort dstPort ident totalLength udpLen headerSum udpSum payload).take 20 =
      ipv4HeaderWith src dst totalLength ident (toBeBytes headerSum) :=
  List.take_left' (ipv4HeaderWith_length _ _ _ _ _)

theorem udpCoverage_packetWith :
    udpCoverage (packetWith src dst srcPort dstPort ident totalLength udpLen headerSum udpSum
      payload) = pseudoHeader src dst udpLen ++
        udpWith srcPort dstPort udpLen (toBeBytes udpSum) payload := rfl

theorem receive_packetWith (htotal : totalLength.toNat = 28 + payload.length)
    (hudp : udpLen.toNat = 8 + payload.length) (hsum : udpSum ≠ 0)
    (hheader : Net.Verifies (ipv4HeaderWith src dst totalLength ident (toBeBytes headerSum)))
    (hdatagram : Net.Verifies (pseudoHeader src dst udpLen ++
      udpWith srcPort dstPort udpLen (toBeBytes udpSum) payload)) :
    receive (packetWith src dst srcPort dstPort ident totalLength udpLen headerSum udpSum
      payload) = some ⟨src, dst, srcPort, dstPort, ident, payload⟩ := by
  have hsum' : udpSum.toNat ≠ 0 := fun h => hsum (UInt16.toNat_inj.mp h)
  unfold receive
  rw [field16_totalLength, field16_identification, field16_srcPort, field16_dstPort,
    field16_udpLen, field16_udpSum, packetWith_length, packetWith_take, udpCoverage_packetWith]
  rw [if_neg, if_neg (by omega), if_neg (not_not.mpr hheader),
    if_neg (not_or.mpr ⟨hsum', not_not.mpr hdatagram⟩)]
  · simp only [UInt16.ofNat_toNat]
    rfl
  · rintro (h | h | h)
    · omega
    · exact h rfl
    · exact h rfl

end Packet

/-- **A spoofed packet is well formed and loses nothing.** Within the size guard no addition
overflows and no cast truncates, both length fields are the lengths, both checksums verify, the
UDP one is not zero, and the receiver gets exactly what the sender was given. -/
theorem spoofed_packet_received (src dst : Ipv4Addr) (srcPort dstPort ident : UInt16)
    (payload : List UInt8) (h : guardSize payload = .ok ()) :
    ∃ udp packet, buildUdpDatagram src dst srcPort dstPort payload = .ok udp ∧
      attemptPacket src dst udp ident = .ok packet ∧
      (UInt16.ofNat payload.length).toNat = payload.length ∧
      (UInt16.ofNat udp.length).toNat = udp.length ∧
      field16 2 packet = packet.length ∧ field16 24 packet = 8 + payload.length ∧
      Net.Verifies (packet.take 20) ∧ Net.Verifies (udpCoverage packet) ∧
      field16 26 packet ≠ 0 ∧
      receive packet = some ⟨src, dst, srcPort, dstPort, ident, payload⟩ := by
  rw [guardSize_ok_iff] at h
  obtain ⟨udpLen, udpSum, hudpLen, hudpSum, hudp, hudpVerifies⟩ :=
    buildUdpDatagram_eq src dst srcPort dstPort payload h
  have hlen := udpWith_length srcPort dstPort udpLen udpSum payload
  unfold maxUdpPayload at h
  have hcast : (UInt16.ofNat (8 + payload.length)).toNat = 8 + payload.length :=
    length_cast (by omega)
  obtain ⟨totalLength, headerSum, htotal, hheader, hheaderVerifies⟩ :=
    buildIpv4Header_eq src dst (UInt16.ofNat (8 + payload.length)) ident (by omega)
  rw [hcast] at htotal
  refine ⟨_, packetWith src dst srcPort dstPort ident totalLength udpLen headerSum udpSum payload,
    hudp, ?_, length_cast (by omega), ?_, ?_, ?_, ?_, ?_, ?_, ?_⟩
  · rw [attemptPacket, hlen, hheader, Outcome.ok_bind]
    rfl
  · rw [hlen, hcast]
  · rw [field16_totalLength, packetWith_length]
    omega
  · rw [field16_udpLen, hudpLen]
  · rw [packetWith_take]
    exact hheaderVerifies
  · rw [udpCoverage_packetWith]
    exact hudpVerifies
  · rw [field16_udpSum]
    exact fun h0 => hudpSum (UInt16.toNat_inj.mp h0)
  · exact receive_packetWith src dst srcPort dstPort ident totalLength udpLen headerSum udpSum
      payload (by omega) hudpLen hudpSum hheaderVerifies hudpVerifies

theorem spoofed_packet_received_odd :
    guardSize [0x30, 0x01, 0xFF] = .ok () ∧
      ∃ udp packet, buildUdpDatagram ⟨198, 51, 100, 42⟩ ⟨127, 0, 0, 1⟩ 5000 162
          [0x30, 0x01, 0xFF] = .ok udp ∧
        attemptPacket ⟨198, 51, 100, 42⟩ ⟨127, 0, 0, 1⟩ udp 7 = .ok packet ∧
        receive packet =
          some ⟨⟨198, 51, 100, 42⟩, ⟨127, 0, 0, 1⟩, 5000, 162, 7, [0x30, 0x01, 0xFF]⟩ := by
  have hguard : guardSize [0x30, 0x01, 0xFF] = .ok () := by decide
  obtain ⟨udp, packet, hudp, hpacket, _, _, _, _, _, _, _, hreceive⟩ :=
    spoofed_packet_received ⟨198, 51, 100, 42⟩ ⟨127, 0, 0, 1⟩ 5000 162 7 [0x30, 0x01, 0xFF] hguard
  exact ⟨hguard, udp, packet, hudp, hpacket, hreceive⟩

end SnmpTrap.Transport
