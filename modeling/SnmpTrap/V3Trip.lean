import SnmpTrap.Ber.Locate
import SnmpTrap.V2cTrip
import SnmpTrap.V3

/-! v3 messages on the wire: what the builder encoded, where in it the tag stands, and what a
receiver reads off an encoding with a tag. -/
namespace SnmpTrap
open Rust Numeral Ber
set_option autoImplicit false
set_option maxHeartbeats 250000
set_option maxRecDepth 120000

/-! ## What the builder did -/

def V3TrapMessage.scopedPdu (m : V3TrapMessage) : SnmpV3.ScopedPdu :=
  ⟨m.contextEngineId.bytes, m.contextName, .trap m.trap.pdu⟩

theorem buildScopedPdu_eq (m : V3TrapMessage) : buildScopedPdu m = .ok m.scopedPdu := by
  rw [buildScopedPdu, makeV2Varbind, makeV2Varbind, Outcome.ok_bind, Outcome.ok_bind,
    mapM_makeV2Varbind, Outcome.ok_bind]
  rfl

def V3TrapMessage.message (m : V3TrapMessage) (securityParams : List UInt8)
    (scopedData : SnmpV3.ScopedPduData) : SnmpV3.Message :=
  ⟨3, headerData m, securityParams, scopedData⟩

/-- `w` is the message with the tag in its place, encoded from the inside out. -/
def V3TrapMessage.EncodedWith (m : V3TrapMessage) (r : Encoder)
    (scopedData : SnmpV3.ScopedPduData) (privParams tag w : List UInt8) : Prop :=
  ∃ securityParams, encode r (buildUsmParams m tag privParams).toValue = .ok securityParams ∧
    encode r (m.message securityParams scopedData).toValue = .ok w

theorem encodePlaceholder_ok {r : Encoder} {c : Crypto} {m : V3TrapMessage} {p : Placeholder}
    (h : encodePlaceholder r c m = .ok p) :
    protectScopedPdu r c m m.scopedPdu = .ok (p.scopedData, p.privParamsBytes) ∧
      m.EncodedWith r p.scopedData p.privParamsBytes
        (List.replicate m.security.authParamLen 0) p.bytes := by
  rw [encodePlaceholder, buildScopedPdu_eq, Outcome.ok_bind] at h
  obtain ⟨⟨scopedData, privParams⟩, hprotect, h⟩ := Outcome.bind_ok_iff.mp h
  obtain ⟨securityParams, hsecurity, h⟩ := Outcome.bind_ok_iff.mp h
  obtain ⟨bytes, hbytes, h⟩ := Outcome.bind_ok_iff.mp h
  cases h
  exact ⟨hprotect, securityParams, hsecurity, hbytes⟩

theorem buildV3TrapMessage_signed {r : Encoder} {c : Crypto} {m : V3TrapMessage}
    {w key : List UInt8} {proto : AuthProtocol} (hauth : m.security.auth = some (proto, key))
    (h : buildV3TrapMessage r c m = .ok w) :
    ∃ p tag, encodePlaceholder r c m = .ok p ∧ authSign c p.bytes key proto = .ok tag ∧
      tag.length = m.security.authParamLen ∧
      m.EncodedWith r p.scopedData p.privParamsBytes tag w := by
  rw [buildV3TrapMessage] at h
  obtain ⟨p, hp, h⟩ := Outcome.bind_ok_iff.mp h
  rw [hauth] at h
  obtain ⟨tag, htag, h⟩ := Outcome.bind_ok_iff.mp h
  obtain ⟨_, hlen, h⟩ := Outcome.bind_ok_iff.mp h
  obtain ⟨securityParams, hsecurity, h⟩ := Outcome.bind_ok_iff.mp h
  obtain ⟨bytes, hbytes, h⟩ := Outcome.bind_ok_iff.mp h
  obtain ⟨_, _, h⟩ := Outcome.bind_ok_iff.mp h
  cases h
  exact ⟨p, tag, hp, htag, Outcome.assert_ok_iff.mp hlen, securityParams, hsecurity, hbytes⟩

theorem buildV3TrapMessage_ok {r : Encoder} {c : Crypto} {m : V3TrapMessage} {w : List UInt8}
    (h : buildV3TrapMessage r c m = .ok w) :
    ∃ scopedData privParams tag,
      protectScopedPdu r c m m.scopedPdu = .ok (scopedData, privParams) ∧
      tag.length = m.security.authParamLen ∧ m.EncodedWith r scopedData privParams tag w := by
  cases hauth : m.security.auth with
  | none =>
    rw [buildV3TrapMessage] at h
    obtain ⟨p, hp, h⟩ := Outcome.bind_ok_iff.mp h
    rw [hauth] at h
    cases h
    obtain ⟨hprotect, hencoded⟩ := encodePlaceholder_ok hp
    exact ⟨_, _, _, hprotect, List.length_replicate, hencoded⟩
  | some a =>
    obtain ⟨p, tag, hp, _, hlen, hencoded⟩ := buildV3TrapMessage_signed hauth h
    exact ⟨_, _, tag, (encodePlaceholder_ok hp).1, hlen, hencoded⟩

/-! ## The place of the tag -/

section Hole
variable (m : V3TrapMessage) (oid : List UInt32 → List UInt8)
  (scopedData : SnmpV3.ScopedPduData) (privParams : List UInt8)

def usmFront : List Tlv :=
  [.primitive .octetString m.authoritativeEngineId.bytes,
    .primitive .integer (integerOctets m.engineBoots.toNat),
    .primitive .integer (integerOctets m.engineTime.toNat),
    .primitive .octetString m.userName]

def messageFront : List Tlv :=
  [.primitive .integer (integerOctets 3), (headerData m).toValue.tlv oid]

def usmOctets (tag : List UInt8) : List UInt8 :=
  element .sequence true (encodeAll (usmFront m) ++ element .octetString false tag ++
    encodeAll [.primitive .octetString privParams])

def messageOctets (tag : List UInt8) : List UInt8 :=
  element .sequence true (encodeAll (messageFront m oid) ++
    element .octetString false (encodeAll [] ++ usmOctets m privParams tag ++ []) ++
    encodeAll [scopedData.toValue.tlv oid])

theorem usmOctets_eq (tag : List UInt8) :
    ((buildUsmParams m tag privParams).toValue.tlv oid).encode = usmOctets m privParams tag := by
  simp only [buildUsmParams, SnmpV3.USMSecurityParameters.toValue, Value.tlv, tlvs, Tlv.encode,
    encodeAll, usmOctets, usmFront, List.append_assoc, List.append_nil]

theorem messageOctets_eq (tag : List UInt8) :
    ((m.message (usmOctets m privParams tag) scopedData).toValue.tlv oid).encode =
      messageOctets m oid scopedData privParams tag := by
  simp only [V3TrapMessage.message, SnmpV3.Message.toValue, Value.tlv, tlvs, Tlv.encode,
    encodeAll, messageOctets, messageFront, List.append_assoc, List.append_nil, List.nil_append]

/-- The tag fills a hole at message item 2, its content's only element, USM item 4: lengths at
every level depend on the tag's length alone. -/
theorem holeAt_messageOctets (tag : List UInt8)
    (h : (messageOctets m oid scopedData privParams tag).length < lengthBound) :
    ∃ before after, HoleAt [2, 0, 4] tag.length before after
      (messageOctets m oid scopedData privParams) := by
  have hmessage := contents_lt_element .sequence true (encodeAll (messageFront m oid) ++
    element .octetString false (encodeAll [] ++ usmOctets m privParams tag ++ []) ++
    encodeAll [scopedData.toValue.tlv oid])
  have hsecurity := contents_lt_element .octetString false
    (encodeAll [] ++ usmOctets m privParams tag ++ [])
  have husm := contents_lt_element .sequence true (encodeAll (usmFront m) ++
    element .octetString false tag ++ encodeAll [.primitive .octetString privParams])
  have htag := contents_lt_element .octetString false tag
  have hsecurity' : (element .octetString false
      (encodeAll [] ++ usmOctets m privParams tag ++ [])).length < lengthBound := by
    simp only [List.length_append] at hmessage
    unfold messageOctets at h
    omega
  have husm' : (usmOctets m privParams tag).length < lengthBound := by
    simp only [List.length_append] at hsecurity
    omega
  have htag' : (element .octetString false tag).length < lengthBound := by
    simp only [List.length_append] at husm
    unfold usmOctets at husm'
    omega
  have h₀ := holeAt_element .octetString false tag.length (by omega)
  have h₁ := h₀.inside .sequence true (usmFront m) (encodeAll [.primitive .octetString privParams])
    (a := tag) rfl (by unfold usmOctets at husm'; omega)
  have h₂ := h₁.inside .octetString false [] [] (a := tag) rfl (by
    change (encodeAll [] ++ usmOctets m privParams tag ++ []).length < lengthBound
    omega)
  have h₃ := h₂.inside .sequence true (messageFront m oid)
    (encodeAll [scopedData.toValue.tlv oid]) (a := tag) rfl (by
    change (encodeAll (messageFront m oid) ++ element .octetString false
      (encodeAll [] ++ usmOctets m privParams tag ++ []) ++
      encodeAll [scopedData.toValue.tlv oid]).length < lengthBound
    unfold messageOctets at h
    omega)
  exact ⟨_, _, h₃⟩

end Hole
/-! ## Encodings and tags -/

theorem authParamLen_of_auth {s : V3Security} {proto : AuthProtocol} {key : List UInt8}
    (h : s.auth = some (proto, key)) : s.authParamLen = proto.authParamLen := by
  cases s <;> cases h <;> rfl

theorem encodedWith_octets {r : Encoder} (hr : r.EmitsBer) {m : V3TrapMessage}
    {scopedData : SnmpV3.ScopedPduData} {privParams tag w : List UInt8}
    (h : m.EncodedWith r scopedData privParams tag w) :
    w = messageOctets m r.oid scopedData privParams tag ∧ w.length < lengthBound := by
  obtain ⟨securityParams, hsecurity, hw⟩ := h
  obtain ⟨hsecurity, _⟩ := hr.ber _ _ (encode_ok_iff.mp hsecurity)
  obtain ⟨hw, hlt⟩ := hr.ber _ _ (encode_ok_iff.mp hw)
  rw [usmOctets_eq] at hsecurity
  rw [hsecurity, messageOctets_eq] at hw
  exact ⟨hw, hlt⟩

/-! ## What a receiver reads -/

/-- What the scoped PDU says to a receiver. -/
def V3TrapMessage.scoped (m : V3TrapMessage) : Grammar.ScopedPdu :=
  ⟨m.contextEngineId.bytes, m.contextName, m.trap.received⟩

theorem scopedPdu_oids (m : V3TrapMessage) (h : m.trap.Representable) :
    m.scopedPdu.toValue.Oids Ber.Representable := ⟨trivial, trivial, pdu_oids m.trap h, trivial⟩

theorem readScopedPdu_scopedPdu (m : V3TrapMessage) (h : m.trap.Representable) :
    Grammar.readScopedPdu (m.scopedPdu.toValue.tlv oidOctets) = some m.scoped := by
  rw [Grammar.readScopedPdu, SnmpV3.ScopedPdu.toValue, items?_tlv]
  simp only [V3TrapMessage.scopedPdu, SnmpV2.Pdus.toValue, List.map_cons, List.map_nil,
    contents?_tlv, readTrapPdu_pdu m.trap h, Option.bind_eq_bind, Option.bind_some]
  rfl

/-- What a receiver finds of the scoped data, before any decryption. -/
def receivedData (oid : List UInt32 → List UInt8) : SnmpV3.ScopedPduData → Grammar.ScopedData
  | .cleartextPdu pdu => .cleartext (pdu.toValue.tlv oid)
  | .encryptedPdu bytes => .encrypted bytes

theorem readScopedData_tlv (oid : List UInt32 → List UInt8) (data : SnmpV3.ScopedPduData) :
    Grammar.readScopedData (data.toValue.tlv oid) = some (receivedData oid data) := by
  cases data <;> rfl

theorem readV3Message_encodedWith {r : Encoder} (hr : r.EmitsBer) {m : V3TrapMessage}
    {scopedData : SnmpV3.ScopedPduData} {privParams tag w : List UInt8}
    (h : m.EncodedWith r scopedData privParams tag w) :
    Grammar.readV3Message w = some
      { version := 3
        msgId := m.msgId
        maxSize := 65507
        flags := [m.security.flagByte]
        securityModel := 3
        usm := ⟨m.authoritativeEngineId.bytes, m.engineBoots, m.engineTime, m.userName, tag,
          privParams⟩
        data := receivedData r.oid scopedData } := by
  obtain ⟨securityParams, hsecurity, hw⟩ := h
  have hd := hr.decode (encode_ok_iff.mp hw)
  have hu := hr.decode (encode_ok_iff.mp hsecurity)
  have husm : Grammar.readUsm securityParams = some ⟨m.authoritativeEngineId.bytes,
      m.engineBoots, m.engineTime, m.userName, tag, privParams⟩ := by
    rw [Grammar.readUsm, hu]
    simp only [Option.bind_eq_bind, Option.bind_some, buildUsmParams,
      SnmpV3.USMSecurityParameters.toValue, items?_tlv, List.map_cons, List.map_nil,
      uint32?_tlv, contents?_tlv]
  rw [Grammar.readV3Message, hd]
  simp only [Option.bind_eq_bind, Option.bind_some, V3TrapMessage.message,
    SnmpV3.Message.toValue, SnmpV3.HeaderData.toValue, headerData, items?_tlv, List.map_cons,
    List.map_nil, integer?_tlv, int32?_tlv, contents?_tlv, husm, readScopedData_tlv]
  rfl

theorem decode_scopedPdu {r : Encoder} (hr : r.EmitsBer) {m : V3TrapMessage}
    {plaintext : List UInt8} (hrep : m.trap.Representable)
    (h : encode r m.scopedPdu.toValue = .ok plaintext) :
    (decode plaintext).bind Grammar.readScopedPdu = some m.scoped := by
  rw [decode_encode_value hr (scopedPdu_oids m hrep) h, Option.bind_some,
    readScopedPdu_scopedPdu m hrep]

/-- Under privacy the scoped data is the scoped PDU's encoding, encrypted with the salt that goes
out as privacy parameters. -/
theorem protectScopedPdu_authPriv {r : Encoder} {c : Crypto} {m : V3TrapMessage}
    {authProto : AuthProtocol} {privProto : PrivProtocol} {authKey privKey privParams : List UInt8}
    {salt : UInt64} {scopedData : SnmpV3.ScopedPduData}
    (hs : m.security = .authPriv authProto authKey privProto privKey salt)
    (h : protectScopedPdu r c m m.scopedPdu = .ok (scopedData, privParams)) :
    ∃ plaintext ciphertext, encode r m.scopedPdu.toValue = .ok plaintext ∧
      privEncrypt c plaintext privKey m.engineBoots m.engineTime salt privProto =
        .ok ciphertext ∧
      scopedData = .encryptedPdu ciphertext ∧ privParams = fixedOctets 8 salt.toNat := by
  rw [protectScopedPdu, hs] at h
  obtain ⟨plaintext, hplaintext, h⟩ := Outcome.bind_ok_iff.mp h
  obtain ⟨ciphertext, hciphertext, h⟩ := Outcome.bind_ok_iff.mp h
  cases h
  exact ⟨plaintext, ciphertext, hplaintext, hciphertext, rfl, rfl⟩

/-- The initialization vector as a receiver rebuilds it from the wire. -/
def wireIv (usm : Grammar.Usm) : List UInt8 :=
  fixedOctets 4 usm.engineBoots.toNat ++ fixedOctets 4 usm.engineTime.toNat ++ usm.privParams

end SnmpTrap
