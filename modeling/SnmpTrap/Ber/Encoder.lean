import SnmpTrap.Ber.Tlv

/-! ASN.1 values under implicit tags, their BER trees, and what it means for an encoder that is
given from outside to emit BER. -/
namespace SnmpTrap.Ber
set_option autoImplicit false
set_option maxHeartbeats 250000
set_option maxRecDepth 120000

inductive Value
  | integer (tag : Tag) (v : ℤ)
  | octetString (tag : Tag) (bytes : List UInt8)
  | null (tag : Tag)
  | objectIdentifier (tag : Tag) (arcs : List UInt32)
  | sequence (tag : Tag) (items : List Value)

mutual
/-- The tree of a value, with the given contents octets for OBJECT IDENTIFIERs. -/
def Value.tlv (oid : List UInt32 → List UInt8) : Value → Tlv
  | .integer tag v => .primitive tag (integerOctets v)
  | .octetString tag bytes => .primitive tag bytes
  | .null tag => .primitive tag []
  | .objectIdentifier tag arcs => .primitive tag (oid arcs)
  | .sequence tag items => .constructed tag (tlvs oid items)
def tlvs (oid : List UInt32 → List UInt8) : List Value → List Tlv
  | [] => []
  | v :: vs => v.tlv oid :: tlvs oid vs
end

mutual
/-- Every OBJECT IDENTIFIER in the value satisfies `P`. -/
def Value.Oids (P : List UInt32 → Prop) : Value → Prop
  | .objectIdentifier _ arcs => P arcs
  | .sequence _ items => allOids P items
  | _ => True
def allOids (P : List UInt32 → Prop) : List Value → Prop
  | [] => True
  | v :: vs => v.Oids P ∧ allOids P vs
end

theorem tlvs_eq_map (oid : List UInt32 → List UInt8) (vs : List Value) :
    tlvs oid vs = vs.map (Value.tlv oid) := by
  induction vs with
  | nil => rfl
  | cons v vs ih => rw [tlvs, ih, List.map_cons]

theorem allOids_iff (P : List UInt32 → Prop) (vs : List Value) :
    allOids P vs ↔ ∀ v ∈ vs, v.Oids P := by
  induction vs with
  | nil => simp [allOids]
  | cons v vs ih => simp [allOids, ih]

mutual
/-- Trees agree when the two contents writers agree on every OBJECT IDENTIFIER in the value. -/
theorem tlv_congr {f g : List UInt32 → List UInt8} : ∀ v : Value,
    v.Oids (fun arcs => f arcs = g arcs) → v.tlv f = v.tlv g
  | .integer _ _, _ => rfl
  | .octetString _ _, _ => rfl
  | .null _, _ => rfl
  | .objectIdentifier _ arcs, h => by
      have harcs : f arcs = g arcs := h
      rw [Value.tlv, Value.tlv, harcs]
  | .sequence _ items, h => by
      rw [Value.tlv, Value.tlv, tlvs_congr items h]
theorem tlvs_congr {f g : List UInt32 → List UInt8} : ∀ vs : List Value,
    allOids (fun arcs => f arcs = g arcs) vs → tlvs f vs = tlvs g vs
  | [], _ => rfl
  | v :: vs, h => by
      rw [tlvs, tlvs, tlv_congr v h.1, tlvs_congr vs h.2]
end

mutual
theorem Oids.imp {P Q : List UInt32 → Prop} (hpq : ∀ arcs, P arcs → Q arcs) : ∀ v : Value,
    v.Oids P → v.Oids Q
  | .integer _ _, _ => trivial
  | .octetString _ _, _ => trivial
  | .null _, _ => trivial
  | .objectIdentifier _ arcs, h => hpq arcs h
  | .sequence _ items, h => allOids.imp hpq items h
theorem allOids.imp {P Q : List UInt32 → Prop} (hpq : ∀ arcs, P arcs → Q arcs) :
    ∀ vs : List Value, allOids P vs → allOids Q vs
  | [], _ => trivial
  | v :: vs, h => ⟨Oids.imp hpq v h.1, allOids.imp hpq vs h.2⟩
end

/-! ## An encoder from outside -/

/-- An encoder library: the octets it writes for a value, or its error text, and the contents
octets it forms for an OBJECT IDENTIFIER, representable or not. -/
structure Encoder where
  oid : List UInt32 → List UInt8
  encode : Value → Except String (List UInt8)

/-- What is relied on: octets returned are the definite-length BER of the value, representable
arcs get their X.690 contents, and a value that BER can express is encoded. -/
structure Encoder.EmitsBer (e : Encoder) : Prop where
  ber : ∀ v w, e.encode v = .ok w → w = (v.tlv e.oid).encode ∧ w.length < lengthBound
  oid : ∀ arcs, Representable arcs → e.oid arcs = oidOctets arcs
  total : ∀ v, v.Oids Representable → (v.tlv e.oid).encode.length < lengthBound →
    ∃ w, e.encode v = .ok w

section Emits
variable {e : Encoder} (he : e.EmitsBer)
include he

theorem Encoder.EmitsBer.tlv (v : Value) (h : v.Oids Representable) :
    v.tlv e.oid = v.tlv oidOctets :=
  tlv_congr v (Oids.imp he.oid v h)

theorem Encoder.EmitsBer.decode {v : Value} {w : List UInt8} (h : e.encode v = .ok w) :
    decode w = some (v.tlv e.oid) := by
  obtain ⟨hw, hb⟩ := he.ber v w h
  subst hw
  exact decode_encode _ hb

end Emits

/-! ## The X.690 encoder in 32-bit arithmetic -/

/-- Contents octets with the first sub-identifier formed modulo `2 ^ 32`. -/
def wrappingOidOctets : List UInt32 → List UInt8
  | a :: b :: rest =>
    subidentifier (40 * a + b).toNat ++ (rest.map UInt32.toNat).flatMap subidentifier
  | _ => []

theorem wrappingOidOctets_representable (arcs : List UInt32) (h : Representable arcs) :
    wrappingOidOctets arcs = oidOctets arcs := by
  match arcs, h with
  | a :: b :: rest, ⟨_, _, hn⟩ =>
    have : (40 * a + b).toNat = 40 * a.toNat + b.toNat := by
      rw [UInt32.toNat_add, UInt32.toNat_mul]
      simp only [UInt32.reduceToNat]
      omega
    rw [wrappingOidOctets, oidOctets, this]

/-- X.690 itself as an encoder: it refuses only contents without a definite length. -/
def x690 : Encoder where
  oid := wrappingOidOctets
  encode v :=
    let w := (v.tlv wrappingOidOctets).encode
    if w.length < lengthBound then .ok w else .error "contents without a definite length"

theorem x690_emitsBer : x690.EmitsBer where
  ber v w h := by
    simp only [x690] at h ⊢
    split at h
    · rename_i hb
      cases h
      exact ⟨rfl, hb⟩
    · cases h
  oid arcs h := wrappingOidOctets_representable arcs h
  total v _ hb := ⟨(v.tlv wrappingOidOctets).encode, by
    simp only [x690] at hb ⊢
    rw [if_pos hb]⟩

end SnmpTrap.Ber
