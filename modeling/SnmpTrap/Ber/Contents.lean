import SnmpTrap.Numeral.Octets

/-! Contents and length octets of X.690: definite lengths, INTEGER in the least number of
two's-complement octets, and OBJECT IDENTIFIER in base-128 sub-identifiers. Every writer here
comes with its reader and the reader undoes it. -/
namespace SnmpTrap.Ber
open Numeral
set_option autoImplicit false
set_option maxHeartbeats 250000
set_option maxRecDepth 120000

/-! ## Definite lengths -/

/-- Contents of this many octets or more have no definite length. -/
def lengthBound : ℕ := 256 ^ 126

/-- Short form below 128, else the long form with the least number of length octets. -/
def lengthOctets (n : ℕ) : List UInt8 :=
  if n < 128 then [UInt8.ofNat n]
  else UInt8.ofNat (128 + (octets n).length) :: octets n

/-- Reads a definite length; 0x80 (indefinite) and 0xFF (reserved) are refused. -/
def readLength : List UInt8 → Option (ℕ × List UInt8)
  | [] => none
  | b :: rest =>
    if b.toNat < 128 then some (b.toNat, rest)
    else
      let k := b.toNat - 128
      if k = 0 ∨ k = 127 ∨ rest.length < k then none
      else some (ofOctets (rest.take k), rest.drop k)

theorem octets_length_le {n : ℕ} (h : n < lengthBound) : (octets n).length ≤ 126 := by
  rw [octets_length]
  exact digits_length_le (by decide) (by decide) h

theorem readLength_lengthOctets (n : ℕ) (h : n < lengthBound) (rest : List UInt8) :
    readLength (lengthOctets n ++ rest) = some (n, rest) := by
  unfold lengthOctets
  split
  · rename_i hn
    have hb : (UInt8.ofNat n).toNat = n := by
      rw [UInt8.toNat_ofNat']
      omega
    simp [readLength, hb, hn]
  · have hl := octets_length_le h
    have hp := octets_length_pos n
    have hb : (UInt8.ofNat (128 + (octets n).length)).toNat = 128 + (octets n).length := by
      rw [UInt8.toNat_ofNat']
      omega
    rw [List.cons_append, readLength, hb, if_neg (by omega)]
    simp only [Nat.add_sub_cancel_left]
    rw [if_neg (by rw [List.length_append]; omega), List.take_left, List.drop_left,
      ofOctets_octets]

theorem lengthOctets_length_pos (n : ℕ) : 0 < (lengthOctets n).length := by
  unfold lengthOctets
  split <;> simp

/-! ## INTEGER -/

/-- `v` for a nonnegative `v`, the bitwise complement of a negative one. -/
def magnitude (v : ℤ) : ℕ := if 0 ≤ v then v.toNat else (-v - 1).toNat

/-- The least `k` with `-2^(8k-1) ≤ v < 2^(8k-1)`. -/
def integerLength (v : ℤ) : ℕ := (digits 256 (2 * magnitude v)).length

/-- Two's complement in the least number of octets. -/
def integerOctets (v : ℤ) : List UInt8 :=
  fixedOctets (integerLength v) (v % 256 ^ integerLength v).toNat

/-- The two's-complement value of nonempty contents. -/
def readInteger : List UInt8 → Option ℤ
  | [] => none
  | b :: rest =>
    let n : ℤ := ofOctets (b :: rest)
    some (if b.toNat < 128 then n else n - 256 ^ (b :: rest).length)

theorem integerLength_pos (v : ℤ) : 0 < integerLength v := digits_length_pos _ _

theorem magnitude_bound (v : ℤ) : 2 * magnitude v < 256 ^ integerLength v :=
  lt_pow_digits_length (by decide) _

theorem integer_range (v : ℤ) :
    -(256 ^ integerLength v : ℤ) ≤ 2 * v ∧ 2 * v < 256 ^ integerLength v := by
  have h := magnitude_bound v
  have hc : (2 * (magnitude v : ℤ)) < 256 ^ integerLength v := by exact_mod_cast h
  have heven : (256 : ℤ) ^ integerLength v = 2 * (128 * 256 ^ (integerLength v - 1)) := by
    obtain ⟨k, hk⟩ : ∃ k, integerLength v = k + 1 :=
      ⟨integerLength v - 1, by have := integerLength_pos v; omega⟩
    rw [hk, pow_succ, Nat.add_sub_cancel]
    ring
  unfold magnitude at hc
  split at hc <;> constructor <;> omega

/-- The leading octet carries the sign: it is below 128 exactly for the lower half. -/
theorem sign_octet (b : UInt8) (rest : List UInt8) :
    b.toNat < 128 ↔ 2 * ofOctets (b :: rest) < 256 ^ (b :: rest).length := by
  have hr := ofOctets_lt rest
  rw [ofOctets_cons, List.length_cons, pow_succ]
  constructor
  · intro h
    calc 2 * (b.toNat * 256 ^ rest.length + ofOctets rest)
        < 2 * (b.toNat * 256 ^ rest.length + 256 ^ rest.length) := by omega
      _ = 2 * (b.toNat + 1) * 256 ^ rest.length := by ring
      _ ≤ 256 * 256 ^ rest.length := Nat.mul_le_mul_right _ (by omega)
      _ = 256 ^ rest.length * 256 := by ring
  · intro h
    by_contra hb
    have : 128 * 256 ^ rest.length ≤ b.toNat * 256 ^ rest.length :=
      Nat.mul_le_mul_right _ (by omega)
    omega

theorem readInteger_integerOctets (v : ℤ) : readInteger (integerOctets v) = some v := by
  obtain ⟨hlo, hhi⟩ := integer_range v
  have hpos : (0 : ℤ) < 256 ^ integerLength v := by positivity
  have hmod := Int.emod_nonneg v hpos.ne'
  have hlt := Int.emod_lt_of_pos v hpos
  have hval : ofOctets (integerOctets v) = (v % 256 ^ integerLength v).toNat := by
    apply ofOctets_fixedOctets
    have : ((v % 256 ^ integerLength v).toNat : ℤ) < ((256 ^ integerLength v : ℕ) : ℤ) := by
      rw [Int.toNat_of_nonneg hmod]
      exact_mod_cast hlt
    exact_mod_cast this
  have hlen : (integerOctets v).length = integerLength v := fixedOctets_length _ _
  cases he : integerOctets v with
  | nil =>
    rw [he] at hlen
    have := integerLength_pos v
    simp at hlen
    omega
  | cons b rest =>
    rw [he] at hval hlen
    have hs := sign_octet b rest
    rw [hval, hlen] at hs
    have hs' : b.toNat < 128 ↔ 2 * (v % 256 ^ integerLength v) < 256 ^ integerLength v := by
      rw [hs]
      zify
      rw [Int.toNat_of_nonneg hmod]
    simp only [readInteger, hval, hlen, Int.toNat_of_nonneg hmod, Option.some.injEq]
    by_cases hv : 0 ≤ v
    · have hself : v % 256 ^ integerLength v = v := Int.emod_eq_of_lt hv (by omega)
      rw [hself] at hs' ⊢
      rw [if_pos (hs'.mpr hhi)]
    · have hself : v % 256 ^ integerLength v = v + 256 ^ integerLength v := by
        rw [← Int.add_emod_right]
        exact Int.emod_eq_of_lt (by omega) (by omega)
      rw [hself] at hs' ⊢
      rw [if_neg (by rw [hs']; omega)]
      ring

end SnmpTrap.Ber
