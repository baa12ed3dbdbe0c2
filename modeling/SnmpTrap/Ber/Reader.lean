import SnmpTrap.Ber.Encoder

/-! Readers of one typed value off a tree, as a grammar is written with them: each accepts its
own tag and form only, and gives back what the value of that type held. -/
namespace SnmpTrap.Ber
set_option autoImplicit false
set_option maxHeartbeats 250000
set_option maxRecDepth 120000

/-! ## Integers of a width -/

def toInt32 (v : ℤ) : Option Int32 :=
  if -2 ^ 31 ≤ v ∧ v < 2 ^ 31 then some (Int32.ofInt v) else none

def toUInt32 (v : ℤ) : Option UInt32 :=
  if 0 ≤ v ∧ v < 2 ^ 32 then some (UInt32.ofNat v.toNat) else none

def toUInt64 (v : ℤ) : Option UInt64 :=
  if 0 ≤ v ∧ v < 2 ^ 64 then some (UInt64.ofNat v.toNat) else none

@[simp] theorem toInt32_toInt (i : Int32) : toInt32 i.toInt = some i := by
  have hlo := i.le_toInt
  have hhi := i.toInt_lt
  rw [toInt32, if_pos ⟨by omega, by omega⟩, Int32.ofInt_toInt]

@[simp] theorem toUInt32_toNat (u : UInt32) : toUInt32 (u.toNat : ℤ) = some u := by
  have h := u.toNat_lt
  rw [toUInt32, if_pos ⟨by omega, by omega⟩, Int.toNat_natCast, UInt32.ofNat_toNat]

@[simp] theorem toUInt64_toNat (u : UInt64) : toUInt64 (u.toNat : ℤ) = some u := by
  have h := u.toNat_lt
  rw [toUInt64, if_pos ⟨by omega, by omega⟩, Int.toNat_natCast, UInt64.ofNat_toNat]

/-! ## Readers -/

namespace Tlv

def contents? (tag : Tag) : Tlv → Option (List UInt8)
  | .primitive t bs => if t = tag then some bs else none
  | .constructed _ _ => none

def integer? (tag : Tag) (t : Tlv) : Option ℤ := (t.contents? tag).bind readInteger

def int32? (tag : Tag) (t : Tlv) : Option Int32 := (t.integer? tag).bind toInt32

def uint32? (tag : Tag) (t : Tlv) : Option UInt32 := (t.integer? tag).bind toUInt32

def oid? (tag : Tag) (t : Tlv) : Option (List UInt32) := (t.contents? tag).bind readOid

def items? (tag : Tag) : Tlv → Option (List Tlv)
  | .primitive _ _ => none
  | .constructed t items => if t = tag then some items else none

end Tlv

/-! ## Readers on the trees of values -/

section Values
variable (oid : List UInt32 → List UInt8) (tag : Tag)

@[simp] theorem integer?_tlv (v : ℤ) : ((Value.integer tag v).tlv oid).integer? tag = some v := by
  simp [Value.tlv, Tlv.integer?, Tlv.contents?, readInteger_integerOctets]

@[simp] theorem int32?_tlv (i : Int32) :
    ((Value.integer tag i.toInt).tlv oid).int32? tag = some i := by
  rw [Tlv.int32?, integer?_tlv, Option.bind_some, toInt32_toInt]

@[simp] theorem uint32?_tlv (u : UInt32) :
    ((Value.integer tag (u.toNat : ℤ)).tlv oid).uint32? tag = some u := by
  rw [Tlv.uint32?, integer?_tlv, Option.bind_some, toUInt32_toNat]

@[simp] theorem contents?_tlv (bs : List UInt8) :
    ((Value.octetString tag bs).tlv oid).contents? tag = some bs := by
  simp [Value.tlv, Tlv.contents?]

@[simp] theorem items?_tlv (vs : List Value) :
    ((Value.sequence tag vs).tlv oid).items? tag = some (vs.map (Value.tlv oid)) := by
  simp [Value.tlv, Tlv.items?, tlvs_eq_map]

theorem oid?_tlv (arcs : List UInt32) (h : Representable arcs) :
    ((Value.objectIdentifier tag arcs).tlv oidOctets).oid? tag = some arcs := by
  simp [Value.tlv, Tlv.oid?, Tlv.contents?, readOid_oidOctets arcs h]

end Values
end SnmpTrap.Ber
