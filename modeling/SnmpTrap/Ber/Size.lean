import SnmpTrap.Ber.Encoder

/-! Bounds on encoded lengths, coarse and closed under nesting: an element is at most twice as
long as its contents and two octets more. -/
namespace SnmpTrap.Ber
open Numeral
set_option autoImplicit false
set_option maxHeartbeats 250000
set_option maxRecDepth 120000

theorem lengthOctets_length_le (n : ℕ) : (lengthOctets n).length ≤ n + 1 := by
  unfold lengthOctets
  split
  · simp
  · have hd : (octets n).length ≤ n := by
      rw [octets_length]
      exact digits_length_le (by decide) (by omega) (Nat.lt_pow_self (by decide))
    rw [List.length_cons]
    omega

theorem element_length_le (tag : Tag) (constructed : Bool) (contents : List UInt8) :
    (element tag constructed contents).length ≤ 2 * contents.length + 2 := by
  have := lengthOctets_length_le contents.length
  rw [element_length]
  omega

theorem encodeAll_length_le (ts : List Tlv) (bound : ℕ)
    (h : ∀ t ∈ ts, t.encode.length ≤ bound) : (encodeAll ts).length ≤ ts.length * bound := by
  induction ts with
  | nil => simp [encodeAll]
  | cons t ts ih =>
    have ht := h t (by simp)
    have hs := ih fun u hu => h u (by simp [hu])
    rw [encodeAll, List.length_append, List.length_cons, Nat.succ_mul]
    omega

/-- The value's encoding takes at most so many octets. -/
def Value.Within (oid : List UInt32 → List UInt8) (bound : ℕ) (v : Value) : Prop :=
  (v.tlv oid).encode.length ≤ bound

section Within
variable {oid : List UInt32 → List UInt8} (tag : Tag)

theorem Value.Within.mono {bound bound' : ℕ} {v : Value} (h : v.Within oid bound)
    (hle : bound ≤ bound') : v.Within oid bound' := le_trans h hle

theorem integerLength_le (v : ℤ) (hlo : -2 ^ 64 ≤ v) (hhi : v < 2 ^ 64) :
    integerLength v ≤ 9 := by
  apply digits_length_le (by decide) (by decide)
  unfold magnitude
  split <;> omega

theorem integer_within (v : ℤ) (hlo : -2 ^ 64 ≤ v) (hhi : v < 2 ^ 64) :
    (Value.integer tag v).Within oid 20 := by
  have h := integerLength_le v hlo hhi
  have he := element_length_le tag false (integerOctets v)
  have hl : (integerOctets v).length = integerLength v := fixedOctets_length _ _
  unfold Value.Within
  rw [Value.tlv, Tlv.encode]
  omega

theorem octetString_within (bs : List UInt8) (n : ℕ) (h : bs.length ≤ n) :
    (Value.octetString tag bs).Within oid (2 * n + 2) := by
  have he := element_length_le tag false bs
  unfold Value.Within
  rw [Value.tlv, Tlv.encode]
  omega

theorem null_within : (Value.null tag).Within oid 2 := by
  have he := element_length_le tag false []
  unfold Value.Within
  rw [Value.tlv, Tlv.encode]
  simpa using he

theorem continued_length (ds : List ℕ) : (continued ds).length = ds.length := by
  induction ds with
  | nil => rfl
  | cons d ds ih =>
    cases ds with
    | nil => rfl
    | cons e ds => rw [continued, List.length_cons, ih, ← List.length_cons]

theorem subidentifier_length_le (n : ℕ) (h : n < 2 ^ 32) : (subidentifier n).length ≤ 5 := by
  rw [subidentifier, continued_length]
  exact digits_length_le (by decide) (by decide) (lt_trans h (by decide))

theorem oidOctets_length_le (arcs : List UInt32) (h : Representable arcs) :
    (oidOctets arcs).length ≤ 5 * arcs.length := by
  match arcs, h with
  | a :: b :: rest, ⟨_, _, hn⟩ =>
    have hfirst := subidentifier_length_le _ hn
    have hrest : ((rest.map UInt32.toNat).flatMap subidentifier).length ≤ 5 * rest.length := by
      clear hfirst hn
      induction rest with
      | nil => simp
      | cons c rest ih =>
        have hc := subidentifier_length_le c.toNat c.toNat_lt
        rw [List.map_cons, List.flatMap_cons, List.length_append, List.length_cons]
        omega
    rw [oidOctets, List.length_append, List.length_cons, List.length_cons]
    omega

theorem objectIdentifier_within (arcs : List UInt32) (n : ℕ) (h : arcs.length ≤ n)
    (hr : Representable arcs) : (Value.objectIdentifier tag arcs).Within oidOctets (10 * n + 2) := by
  have he := element_length_le tag false (oidOctets arcs)
  have hl := oidOctets_length_le arcs hr
  unfold Value.Within
  rw [Value.tlv, Tlv.encode]
  omega

theorem sequence_within (vs : List Value) (count bound : ℕ) (hcount : vs.length ≤ count)
    (h : ∀ v ∈ vs, v.Within oid bound) :
    (Value.sequence tag vs).Within oid (2 * (count * bound) + 2) := by
  have hall : (encodeAll (tlvs oid vs)).length ≤ count * bound := by
    have hle := encodeAll_length_le (tlvs oid vs) bound (by
      intro t ht
      rw [tlvs_eq_map] at ht
      obtain ⟨v, hv, rfl⟩ := List.mem_map.mp ht
      exact h v hv)
    rw [tlvs_eq_map, List.length_map] at hle
    rw [tlvs_eq_map]
    exact le_trans hle (Nat.mul_le_mul_right bound hcount)
  have he := element_length_le tag true (encodeAll (tlvs oid vs))
  unfold Value.Within
  rw [Value.tlv, Tlv.encode]
  omega

/-- The same for a record, whose fields are bounded one by one. -/
theorem fields_within (vs : List Value) (count bound : ℕ) (hcount : vs.length ≤ count)
    (h : vs.Forall (Value.Within oid bound)) :
    (Value.sequence tag vs).Within oid (2 * (count * bound) + 2) :=
  sequence_within tag vs count bound hcount (List.forall_iff_forall_mem.mp h)

end Within
end SnmpTrap.Ber
