import SnmpTrap.V1Trip

/-! The two var-bind tables on the wire: where SMIv1 has the type, v1 and v2 encode alike. -/
namespace SnmpTrap
open Rust Ber
set_option autoImplicit false
set_option maxHeartbeats 250000
set_option maxRecDepth 120000

/-- A value of one of the seven types that both versions have. -/
def Common (v : VarBindValue) : Prop := (∀ bytes, v ≠ .bits bytes) ∧ ∀ n, v ≠ .counter64 n

theorem makeV1Varbind_agrees (oid : List UInt32) {v : VarBindValue} (h : Common v) :
    ∃ made, makeV1Varbind oid v = .ok made ∧ made.toValue = (v2Varbind (oid, v)).toValue := by
  obtain ⟨value, hvalue⟩ : ∃ value, v1Value v = .ok value := by
    cases v with
    | bits bytes => exact absurd rfl (h.1 bytes)
    | counter64 n => exact absurd rfl (h.2 n)
    | _ => exact ⟨_, rfl⟩
  refine ⟨⟨oid, value⟩, ?_, ?_⟩
  · rw [makeV1Varbind, hvalue]
    rfl
  · rw [SnmpV1.VarBind.toValue, v1Value_toValue hvalue]
    rfl

theorem mapM_makeV1Varbind_agrees (vbs : List (List UInt32 × VarBindValue))
    (h : ∀ vb ∈ vbs, Common vb.2) :
    ∃ bindings, (vbs.mapM fun vb => makeV1Varbind vb.1 vb.2) = .ok bindings ∧
      bindings.map SnmpV1.VarBind.toValue =
        (vbs.map v2Varbind).map SnmpV2.VarBind.toValue := by
  induction vbs with
  | nil => exact ⟨[], rfl, rfl⟩
  | cons vb vbs ih =>
    obtain ⟨made, hmade, hvalue⟩ := makeV1Varbind_agrees vb.1 (h vb (by simp))
    obtain ⟨bindings, hbindings, hvalues⟩ := ih fun x hx => h x (by simp [hx])
    refine ⟨made :: bindings, ?_, ?_⟩
    · rw [Outcome.mapM_cons, hmade, Outcome.ok_bind, hbindings, Outcome.ok_bind]
    · rw [List.map_cons, List.map_cons, List.map_cons, hvalue, hvalues]

/-- The `variable-bindings` field of either PDU. -/
def bindingsValue (items : List Value) : Value := .sequence .sequence items

/-- **v1 and v2 var-binds agree on the wire.** Without `Bits` and `Counter64` both tables map every
var-bind to a value of the same tags, nesting and contents, so the lists are the same octets; with
representable OIDs these are the X.690 encoding. -/
theorem v1_v2_varbinds_agree (r : Encoder) (vbs : List (List UInt32 × VarBindValue))
    (hcommon : ∀ vb ∈ vbs, Common vb.2) :
    ∃ (v1 : List SnmpV1.VarBind) (v2 : List SnmpV2.VarBind),
      (vbs.mapM fun vb => makeV1Varbind vb.1 vb.2) = .ok v1 ∧
      (vbs.mapM fun vb => makeV2Varbind vb.1 vb.2) = .ok v2 ∧
      v1.map SnmpV1.VarBind.toValue = v2.map SnmpV2.VarBind.toValue ∧
      r.encode (bindingsValue (v1.map SnmpV1.VarBind.toValue)) =
        r.encode (bindingsValue (v2.map SnmpV2.VarBind.toValue)) ∧
      (r.EmitsBer → BindingsRepresentable vbs → BindingsInMemory vbs → ∃ w,
        r.encode (bindingsValue (v1.map SnmpV1.VarBind.toValue)) = .ok w ∧
        r.encode (bindingsValue (v2.map SnmpV2.VarBind.toValue)) = .ok w ∧
        w = ((bindingsValue (v2.map SnmpV2.VarBind.toValue)).tlv oidOctets).encode) := by
  obtain ⟨v1, hv1, hsame⟩ := mapM_makeV1Varbind_agrees vbs hcommon
  refine ⟨v1, vbs.map v2Varbind, hv1, mapM_makeV2Varbind vbs, hsame, by rw [hsame], ?_⟩
  intro hr hrep hmem
  have hall := Outcome.mapM_ok_iff.mp hv1
  have hoids : (bindingsValue (v1.map SnmpV1.VarBind.toValue)).Oids Ber.Representable :=
    bindings_oids hall hrep
  obtain ⟨w, hw⟩ := encode_total hr hoids (bindings_within hall hmem hrep)
    (by unfold lengthBound; norm_num)
  rw [encode_ok_iff] at hw
  refine ⟨w, hw, by rw [← hsame, hw], ?_⟩
  rw [← hsame, ← hr.tlv _ hoids]
  exact (hr.ber _ _ hw).1

theorem v1_v2_varbinds_agree_enterpriseSpecific :
    (∀ vb ∈ enterpriseSpecific.varbinds, Common vb.2) ∧
      ∃ (v1 : List SnmpV1.VarBind) (v2 : List SnmpV2.VarBind) (w : List UInt8),
        (enterpriseSpecific.varbinds.mapM fun vb => makeV1Varbind vb.1 vb.2) = .ok v1 ∧
        (enterpriseSpecific.varbinds.mapM fun vb => makeV2Varbind vb.1 vb.2) = .ok v2 ∧
        x690.encode (bindingsValue (v1.map SnmpV1.VarBind.toValue)) = .ok w ∧
        x690.encode (bindingsValue (v2.map SnmpV2.VarBind.toValue)) = .ok w := by
  have hcommon : ∀ vb ∈ enterpriseSpecific.varbinds, Common vb.2 := by
    simp [enterpriseSpecific, Common]
  obtain ⟨v1, v2, hv1, hv2, _, _, hber⟩ :=
    v1_v2_varbinds_agree x690 enterpriseSpecific.varbinds hcommon
  obtain ⟨w, hw, hw', _⟩ := hber x690_emitsBer (by decide) enterpriseSpecific.inMemory.2.2
  exact ⟨hcommon, v1, v2, w, hv1, hv2, hw, hw'⟩

end SnmpTrap
