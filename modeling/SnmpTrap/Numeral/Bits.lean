import Mathlib

/-! Sets of numbers as bit strings in octets, bit 0 the most significant bit of the first octet. The
least such string of a set has no zero octet at its end. -/
namespace SnmpTrap.Numeral
set_option autoImplicit false
set_option maxHeartbeats 250000
set_option maxRecDepth 120000

/-- Bit `k`; past the end all bits are 0. -/
def bitAt (bs : List UInt8) (k : ℕ) : Bool := (bs.getD (k / 8) 0).toNat.testBit (7 - k % 8)

theorem bitAt_of_length_le {bs : List UInt8} {k : ℕ} (h : bs.length ≤ k / 8) :
    bitAt bs k = false := by
  rw [bitAt, List.getD_eq_default _ _ h]
  exact Nat.zero_testBit _

theorem bitAt_replicate_zero (n k : ℕ) : bitAt (List.replicate n 0) k = false := by
  rw [bitAt, List.getD_eq_getElem?_getD]
  by_cases h : k / 8 < n
  · rw [List.getElem?_replicate_of_lt h]
    exact Nat.zero_testBit _
  · rw [List.getElem?_eq_none (by rw [List.length_replicate]; omega)]
    exact Nat.zero_testBit _

/-! ## Setting one bit -/

theorem testBit_one_shift : ∀ i < 8, ∀ j < 8,
    ((1 : UInt8) <<< UInt8.ofNat i).toNat.testBit j = decide (i = j) := by decide

theorem bitAt_set {bs : List UInt8} {k : ℕ} {b : UInt8} (h : bs[k / 8]? = some b) (j : ℕ) :
    bitAt (bs.set (k / 8) (b ||| 1 <<< UInt8.ofNat (7 - k % 8))) j =
      (bitAt bs j || decide (k = j)) := by
  obtain ⟨hlt, hget⟩ := List.getElem?_eq_some_iff.mp h
  simp only [bitAt, List.getD_eq_getElem?_getD]
  by_cases hj : j / 8 = k / 8
  · have hshift : 7 - k % 8 = 7 - j % 8 ↔ k = j := by omega
    rw [hj, List.getElem?_set_self hlt, h, Option.getD_some, Option.getD_some, UInt8.toNat_or,
      Nat.testBit_or, testBit_one_shift _ (by omega) _ (by omega), decide_eq_decide.mpr hshift]
  · have hne : k ≠ j := by
      rintro rfl
      exact hj rfl
    rw [List.getElem?_set_ne (Ne.symm hj), decide_eq_false hne, Bool.or_false]

/-! ## A string is its bits -/

theorem exists_testBit {b : UInt8} (h : b ≠ 0) : ∃ i < 8, b.toNat.testBit i = true := by
  have hne : b.toNat ≠ 0 := fun h0 => h (UInt8.toNat_inj.mp h0)
  obtain ⟨i, hi⟩ := Nat.exists_testBit_of_ne_zero hne
  refine ⟨i, ?_, hi⟩
  by_contra hge
  have hsmall : b.toNat < 2 ^ i :=
    b.toNat_lt.trans_le (Nat.pow_le_pow_right (by decide) (Nat.le_of_not_lt hge))
  rw [Nat.testBit_lt_two_pow hsmall] at hi
  cases hi

theorem eq_of_bitAt {bs cs : List UInt8} (hlen : bs.length = cs.length)
    (h : ∀ k, bitAt bs k = bitAt cs k) : bs = cs := by
  apply List.ext_getElem hlen
  intro i hi hi'
  apply UInt8.toNat_inj.mp
  apply Nat.eq_of_testBit_eq
  intro j
  by_cases hj : j < 8
  · have hk := h (8 * i + (7 - j))
    have hdiv : (8 * i + (7 - j)) / 8 = i := by omega
    have hmod : 7 - (8 * i + (7 - j)) % 8 = j := by omega
    rw [bitAt, bitAt, hdiv, hmod, List.getD_eq_getElem _ _ hi, List.getD_eq_getElem _ _ hi'] at hk
    exact hk
  · have hpow : 2 ^ 8 ≤ 2 ^ j := Nat.pow_le_pow_right (by decide) (Nat.le_of_not_lt hj)
    rw [Nat.testBit_lt_two_pow (bs[i].toNat_lt.trans_le hpow),
      Nat.testBit_lt_two_pow (cs[i].toNat_lt.trans_le hpow)]

/-! ## The least string of a set -/

/-- The bits of the string are the members of the set, and its last octet is not zero. -/
structure IsLeastBits (members : Set ℕ) (bs : List UInt8) : Prop where
  bit : ∀ k, bitAt bs k = true ↔ k ∈ members
  last : ∀ b, bs.getLast? = some b → b ≠ 0

theorem IsLeastBits.length_le {s t : Set ℕ} {bs cs : List UInt8} (hs : IsLeastBits s bs)
    (ht : IsLeastBits t cs) (h : s ⊆ t) : bs.length ≤ cs.length := by
  cases hlast : bs.getLast? with
  | none =>
    rw [List.getLast?_eq_none_iff.mp hlast]
    exact Nat.zero_le _
  | some b =>
    obtain ⟨i, hi, hbit⟩ := exists_testBit (hs.last b hlast)
    rw [List.getLast?_eq_getElem?] at hlast
    obtain ⟨hlt, _⟩ := List.getElem?_eq_some_iff.mp hlast
    -- a bit of the last octet is a member past all shorter strings
    have hdiv : (8 * (bs.length - 1) + (7 - i)) / 8 = bs.length - 1 := by omega
    have hmod : 7 - (8 * (bs.length - 1) + (7 - i)) % 8 = i := by omega
    have hmem : bitAt bs (8 * (bs.length - 1) + (7 - i)) = true := by
      rw [bitAt, hdiv, hmod, List.getD_eq_getElem?_getD, hlast, Option.getD_some, hbit]
    by_contra hlen
    have hout : bitAt cs (8 * (bs.length - 1) + (7 - i)) = false :=
      bitAt_of_length_le (by omega)
    rw [(ht.bit _).mpr (h ((hs.bit _).mp hmem))] at hout
    cases hout

theorem IsLeastBits.unique {s : Set ℕ} {bs cs : List UInt8} (h : IsLeastBits s bs)
    (h' : IsLeastBits s cs) : bs = cs := by
  apply eq_of_bitAt
  · exact Nat.le_antisymm (h.length_le h' subset_rfl) (h'.length_le h subset_rfl)
  · intro k
    rw [Bool.eq_iff_iff, h.bit, h'.bit]

theorem IsLeastBits.injective {s t : Set ℕ} {bs : List UInt8} (h : IsLeastBits s bs)
    (h' : IsLeastBits t bs) : s = t := by
  ext k
  rw [← h.bit, h'.bit]

end SnmpTrap.Numeral
