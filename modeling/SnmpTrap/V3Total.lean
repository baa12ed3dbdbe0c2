import SnmpTrap.V3Trip

/-! `build_v3_trap_message` with keys of the lengths it asserts: none of its assertions or slices
fails, and a trap whose OIDs are representable is encoded. -/
namespace SnmpTrap
open Rust Numeral Ber
set_option autoImplicit false
set_option maxHeartbeats 250000
set_option maxRecDepth 120000

/-- Keys as the assertions want them. -/
def V3Security.KeysFit : V3Security → Prop
  | .noAuthNoPriv => True
  | .authNoPriv proto authKey => authKey.length = proto.digestLen
  | .authPriv authProto authKey privProto privKey _ =>
    authKey.length = authProto.digestLen ∧ privProto.keyLen ≤ privKey.length

theorem keysFit_auth {s : V3Security} {proto : AuthProtocol} {key : List UInt8}
    (hs : s.KeysFit) (h : s.auth = some (proto, key)) : key.length = proto.digestLen := by
  cases s with
  | noAuthNoPriv => cases h
  | authNoPriv proto' key' =>
    cases h
    exact hs
  | authPriv proto' key' privProto privKey salt =>
    cases h
    exact hs.1

/-! ## No assertion fails -/

theorem encodedWith_length {r : Encoder} (hr : r.EmitsBer) {m : V3TrapMessage}
    {scopedData : SnmpV3.ScopedPduData} {privParams tag tag' w w' : List UInt8}
    (hlen : tag.length = tag'.length) (h : m.EncodedWith r scopedData privParams tag w)
    (h' : m.EncodedWith r scopedData privParams tag' w') : w.length = w'.length := by
  obtain ⟨hw, hlt⟩ := encodedWith_octets hr h
  obtain ⟨hw', _⟩ := encodedWith_octets hr h'
  rw [hw] at hlt
  obtain ⟨before, after, hole⟩ := holeAt_messageOctets m r.oid scopedData privParams tag hlt
  obtain ⟨_, hlength, _⟩ := hole.fillings rfl hlen.symm
  rw [hw, hw', hlength]

section Safe
variable {r : Encoder} {c : Crypto} (hc : c.Lawful)
include hc

theorem safe_protectScopedPdu (m : V3TrapMessage) (hkeys : m.security.KeysFit)
    (pdu : SnmpV3.ScopedPdu) : (protectScopedPdu r c m pdu).Safe := by
  rw [protectScopedPdu]
  cases hs : m.security with
  | noAuthNoPriv => exact Outcome.safe_ok _
  | authNoPriv proto key => exact Outcome.safe_ok _
  | authPriv authProto authKey privProto privKey salt =>
    rw [hs] at hkeys
    refine (safe_encode r _).bind fun plaintext _ => ?_
    rw [privEncrypt_eq hc _ _ _ _ _ _ hkeys.2]
    exact Outcome.safe_ok _

theorem safe_encodePlaceholder (m : V3TrapMessage) (hkeys : m.security.KeysFit) :
    (encodePlaceholder r c m).Safe := by
  rw [encodePlaceholder, buildScopedPdu_eq, Outcome.ok_bind]
  refine (safe_protectScopedPdu hc m hkeys _).bind fun data _ => ?_
  refine (safe_encode r _).bind fun securityParams _ => ?_
  exact (safe_encode r _).bind fun bytes _ => Outcome.safe_ok _

theorem safe_buildV3TrapMessage (hr : r.EmitsBer) (m : V3TrapMessage)
    (hkeys : m.security.KeysFit) : (buildV3TrapMessage r c m).Safe := by
  rw [buildV3TrapMessage]
  refine (safe_encodePlaceholder hc m hkeys).bind fun p hp => ?_
  cases hauth : m.security.auth with
  | none => exact Outcome.safe_ok _
  | some a =>
    obtain ⟨proto, key⟩ := a
    obtain ⟨tag, _, hsign, hlen⟩ := authSign_eq hc p.bytes key proto (keysFit_auth hkeys hauth)
    have hparam := authParamLen_of_auth hauth
    simp only [hsign, Outcome.ok_bind]
    refine (Outcome.safe_assert (by rw [hlen, hparam])).bind fun _ _ => ?_
    refine (safe_encode r _).bind fun securityParams hsecurity => ?_
    refine (safe_encode r _).bind fun bytes hbytes => ?_
    refine (Outcome.safe_assert ?_).bind fun _ _ => Outcome.safe_ok _
    exact encodedWith_length hr (by rw [hlen, hparam, List.length_replicate])
      ⟨securityParams, hsecurity, hbytes⟩ (encodePlaceholder_ok hp).2

end Safe

/-! ## A representable trap is encoded -/

theorem scopedPdu_within (m : V3TrapMessage) (hrep : m.trap.Representable)
    (hname : InVec m.contextName) : m.scopedPdu.toValue.Within oidOctets (2 ^ 146) := by
  have hengine := m.contextEngineId.le_max
  unfold maxEngineId at hengine
  unfold InVec at hname
  refine (fields_within _ _ 3 (2 ^ 142) (by simp) ?_).mono (by norm_num)
  refine ⟨?_, ?_, ?_⟩
  · exact (octetString_within _ _ 32 hengine).mono (by norm_num)
  · exact (octetString_within _ m.contextName (2 ^ 64) (le_of_lt hname)).mono (by norm_num)
  · exact pdu_within m.trap hrep

theorem usm_within (m : V3TrapMessage) (oid : List UInt32 → List UInt8)
    (tag privParams : List UInt8) (huser : InVec m.userName) (htag : tag.length ≤ 64)
    (hpriv : privParams.length ≤ 8) :
    (buildUsmParams m tag privParams).toValue.Within oid (2 ^ 70) := by
  have hengine := m.authoritativeEngineId.le_max
  unfold maxEngineId at hengine
  unfold InVec at huser
  have hboots := m.engineBoots.toNat_lt
  have htime := m.engineTime.toNat_lt
  refine (fields_within _ _ 6 (2 ^ 66) (by simp) ?_).mono (by norm_num)
  refine ⟨?_, ?_, ?_, ?_, ?_, ?_⟩
  · exact (octetString_within _ _ 32 hengine).mono (by norm_num)
  · exact (integer_within _ (m.engineBoots.toNat : ℤ) (by omega) (by omega)).mono (by norm_num)
  · exact (integer_within _ (m.engineTime.toNat : ℤ) (by omega) (by omega)).mono (by norm_num)
  · exact (octetString_within _ m.userName (2 ^ 64) (le_of_lt huser)).mono (by norm_num)
  · exact (octetString_within _ tag 64 htag).mono (by norm_num)
  · exact (octetString_within _ privParams 8 hpriv).mono (by norm_num)

theorem header_within (m : V3TrapMessage) (oid : List UInt32 → List UInt8) :
    (headerData m).toValue.Within oid 200 := by
  have hid := m.msgId.le_toInt
  have hid' := m.msgId.toInt_lt
  refine (fields_within _ _ 4 20 (by simp) ?_).mono (by norm_num)
  refine ⟨?_, ?_, ?_, ?_⟩
  · exact integer_within _ m.msgId.toInt (by omega) (by omega)
  · exact integer_within _ 65507 (by norm_num) (by norm_num)
  · exact (octetString_within _ [m.security.flagByte] 1 le_rfl).mono (by norm_num)
  · exact integer_within _ 3 (by norm_num) (by norm_num)

section Total
variable {r : Encoder} (hr : r.EmitsBer)
include hr

theorem encode_length_le {v : Value} {w : List UInt8} {bound : ℕ} (hv : v.Oids Ber.Representable)
    (hw : v.Within oidOctets bound) (h : encode r v = .ok w) : w.length ≤ bound := by
  obtain ⟨hw', _⟩ := hr.ber v w (encode_ok_iff.mp h)
  rw [hw', hr.tlv v hv]
  exact hw

theorem exists_encodedWith (m : V3TrapMessage) (scopedData : SnmpV3.ScopedPduData)
    (privParams tag : List UInt8) (huser : InVec m.userName) (htag : tag.length ≤ 64)
    (hpriv : privParams.length ≤ 8) (hoids : scopedData.toValue.Oids Ber.Representable)
    (hdata : scopedData.toValue.Within oidOctets (2 ^ 148)) :
    ∃ w, m.EncodedWith r scopedData privParams tag w := by
  have hu : (buildUsmParams m tag privParams).toValue.Oids Ber.Representable :=
    ⟨trivial, trivial, trivial, trivial, trivial, trivial, trivial⟩
  have huw := usm_within m oidOctets tag privParams huser htag hpriv
  obtain ⟨securityParams, hsecurity⟩ :=
    encode_total hr hu huw (by unfold lengthBound; norm_num)
  have hlen := encode_length_le hr hu huw hsecurity
  have hmessage : (m.message securityParams scopedData).toValue.Within oidOctets (2 ^ 152) := by
    refine (fields_within _ _ 4 (2 ^ 148) (by simp) ?_).mono (by norm_num)
    refine ⟨?_, ?_, ?_, ?_⟩
    · exact (integer_within _ 3 (by norm_num) (by norm_num)).mono (by norm_num)
    · exact (header_within m oidOctets).mono (by norm_num)
    · exact (octetString_within _ securityParams (2 ^ 70) hlen).mono (by norm_num)
    · exact hdata
  obtain ⟨w, hw⟩ := encode_total hr
    (v := (m.message securityParams scopedData).toValue)
    ⟨trivial, ⟨trivial, trivial, trivial, trivial, trivial⟩, trivial, hoids, trivial⟩ hmessage
    (by unfold lengthBound; norm_num)
  exact ⟨w, securityParams, hsecurity, hw⟩

theorem exists_protectScopedPdu {c : Crypto} (hc : c.Lawful) (m : V3TrapMessage)
    (hrep : m.trap.Representable) (hname : InVec m.contextName) (hkeys : m.security.KeysFit) :
    ∃ scopedData privParams,
      protectScopedPdu r c m m.scopedPdu = .ok (scopedData, privParams) ∧
      privParams.length ≤ 8 ∧ scopedData.toValue.Oids Ber.Representable ∧
      scopedData.toValue.Within oidOctets (2 ^ 148) := by
  have hoids := scopedPdu_oids m hrep
  have hwithin := scopedPdu_within m hrep hname
  rw [protectScopedPdu]
  cases hs : m.security with
  | noAuthNoPriv => exact ⟨_, _, rfl, Nat.zero_le _, hoids, hwithin.mono (by norm_num)⟩
  | authNoPriv proto key => exact ⟨_, _, rfl, Nat.zero_le _, hoids, hwithin.mono (by norm_num)⟩
  | authPriv authProto authKey privProto privKey salt =>
    rw [hs] at hkeys
    obtain ⟨plaintext, hplaintext⟩ := encode_total hr hoids hwithin
      (by unfold lengthBound; norm_num)
    have hlen := encode_length_le hr hoids hwithin hplaintext
    have hkey : (privKey.take privProto.keyLen).length = privProto.keyLen := by
      rw [List.length_take]
      exact Nat.min_eq_left hkeys.2
    have hct := Cipher.encrypt_length (n := 16) (by decide)
      (fun x hx => hc.aes_length privProto (privKey.take privProto.keyLen) x hkey hx)
      (makeAesIv m.engineBoots m.engineTime salt) plaintext (by simp [makeAesIv])
    refine ⟨.encryptedPdu (Cipher.encrypt (c.aes privProto (privKey.take privProto.keyLen)) 16
      (makeAesIv m.engineBoots m.engineTime salt) plaintext), fixedOctets 8 salt.toNat, ?_,
      le_of_eq (fixedOctets_length 8 _), trivial, ?_⟩
    · simp only [hplaintext, Outcome.ok_bind, privEncrypt_eq hc _ _ _ _ _ _ hkeys.2]
    exact (octetString_within _ _ (2 ^ 146) (by rw [hct]; exact hlen)).mono (by norm_num)

theorem buildV3TrapMessage_total {c : Crypto} (hc : c.Lawful) (m : V3TrapMessage)
    (hrep : m.trap.Representable) (hname : InVec m.contextName) (huser : InVec m.userName)
    (hkeys : m.security.KeysFit) : ∃ w, buildV3TrapMessage r c m = .ok w := by
  obtain ⟨scopedData, privParams, hprotect, hpriv, hoids, hwithin⟩ :=
    exists_protectScopedPdu hr hc m hrep hname hkeys
  have hparam : m.security.authParamLen ≤ 64 := by
    cases m.security with
    | noAuthNoPriv => exact Nat.zero_le _
    | authNoPriv proto key => exact proto.authParamLen_le_max
    | authPriv proto key privProto privKey salt => exact proto.authParamLen_le_max
  obtain ⟨placeholder, hplaceholder⟩ := exists_encodedWith hr m scopedData privParams
    (List.replicate m.security.authParamLen 0) huser (by rw [List.length_replicate]; exact hparam)
    hpriv hoids hwithin
  have hp : encodePlaceholder r c m = .ok ⟨scopedData, privParams, placeholder⟩ := by
    obtain ⟨securityParams, hsecurity, hbytes⟩ := hplaceholder
    rw [encodePlaceholder, buildScopedPdu_eq, Outcome.ok_bind, hprotect, Outcome.ok_bind]
    simp only [hsecurity, Outcome.ok_bind]
    exact Outcome.bind_ok_iff.mpr ⟨placeholder, hbytes, rfl⟩
  rw [buildV3TrapMessage, hp, Outcome.ok_bind]
  cases hauth : m.security.auth with
  | none => exact ⟨_, rfl⟩
  | some a =>
    obtain ⟨proto, key⟩ := a
    obtain ⟨tag, _, hsign, hlen⟩ := authSign_eq hc placeholder key proto (keysFit_auth hkeys hauth)
    have hauthLen := authParamLen_of_auth hauth
    obtain ⟨w, hw⟩ := exists_encodedWith hr m scopedData privParams
      (tag.take proto.authParamLen) huser (by omega) hpriv hoids hwithin
    have hsame := encodedWith_length hr (by rw [hlen, hauthLen, List.length_replicate]) hw
      hplaceholder
    obtain ⟨securityParams, hsecurity, hbytes⟩ := hw
    refine ⟨w, ?_⟩
    simp only [hsign, Outcome.ok_bind]
    refine Outcome.bind_ok_iff.mpr ⟨(), Outcome.assert_ok_iff.mpr (by omega), ?_⟩
    refine Outcome.bind_ok_iff.mpr ⟨securityParams, hsecurity, ?_⟩
    refine Outcome.bind_ok_iff.mpr ⟨w, hbytes, ?_⟩
    exact Outcome.bind_ok_iff.mpr ⟨(), Outcome.assert_ok_iff.mpr hsame, rfl⟩

end Total
end SnmpTrap
