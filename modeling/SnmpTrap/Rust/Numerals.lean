import SnmpTrap.Numeral.Digits
import SnmpTrap.Rust.Text

/-! What the integer parsers accept: an optional `+` and digits whose value is in range. -/
namespace SnmpTrap.Rust
open Numeral
set_option autoImplicit false
set_option maxHeartbeats 250000
set_option maxRecDepth 120000

def digitsOf (radix : ℕ) (cs : List Char) : List ℕ := cs.map fun c => (toDigit radix c).getD 0

def AllDigits (radix : ℕ) (cs : List Char) : Prop := ∀ c ∈ cs, (toDigit radix c).isSome

theorem toDigit_plus (radix : ℕ) : toDigit radix '+' = none := by simp [toDigit]

theorem toDigit_minus (radix : ℕ) : toDigit radix '-' = none := by simp [toDigit]

/-- The loop invariant of `accumulate`: the value so far is in range, and digits only add to it. -/
theorem accumulate_ok_iff {radix max : ℕ} (hradix : 0 < radix) {overflow : IntErrorKind}
    {acc n : ℕ} {cs : List Char} (hacc : acc ≤ max) :
    accumulate radix max overflow acc cs = .ok n ↔
      AllDigits radix cs ∧ acc * radix ^ cs.length + ofDigits radix (digitsOf radix cs) = n ∧
        n ≤ max := by
  induction cs generalizing acc with
  | nil =>
    rw [accumulate, digitsOf, List.map_nil, ofDigits_nil]
    simp only [AllDigits, List.length_nil, pow_zero, mul_one, add_zero, Except.ok.injEq]
    constructor
    · rintro rfl
      exact ⟨by simp, rfl, hacc⟩
    · rintro ⟨_, h, _⟩
      exact h
  | cons c cs ih =>
    rw [accumulate]
    cases hc : toDigit radix c with
    | none =>
      simp only [reduceCtorEq, false_iff, not_and]
      intro hall
      have hsome := hall c (by simp)
      rw [hc] at hsome
      cases hsome
    | some d =>
      have hvalue : acc * radix ^ (c :: cs).length + ofDigits radix (digitsOf radix (c :: cs)) =
          (acc * radix + d) * radix ^ cs.length + ofDigits radix (digitsOf radix cs) := by
        rw [digitsOf, List.map_cons, ofDigits_cons, hc, Option.getD_some, List.length_map,
          List.length_cons, pow_succ, digitsOf]
        ring
      have hall : AllDigits radix (c :: cs) ↔ AllDigits radix cs := by
        simp [AllDigits, hc]
      simp only
      rw [hvalue, hall]
      by_cases hover : max < acc * radix + d
      · rw [if_pos hover]
        simp only [reduceCtorEq, false_iff]
        rintro ⟨_, hn, hle⟩
        have hpow := Nat.le_mul_of_pos_right (acc * radix + d) (Nat.pow_pos (n := cs.length) hradix)
        omega
      · rw [if_neg hover]
        exact ih (Nat.le_of_not_lt hover)

theorem parseUnsigned_plus {radix max : ℕ} {cs : List Char} (h : cs ≠ []) :
    parseUnsigned radix max ('+' :: cs) = accumulate radix max .posOverflow 0 cs := by
  cases cs with
  | nil => contradiction
  | cons c cs => rfl

theorem parseUnsigned_digits {radix max : ℕ} {c : Char} (hc : c ≠ '+') (cs : List Char) :
    parseUnsigned radix max (c :: cs) = accumulate radix max .posOverflow 0 (c :: cs) := by
  unfold parseUnsigned
  split
  · contradiction
  · rename_i h
    exact absurd (List.cons.inj h).1 hc
  · rename_i h
    rw [h, accumulate, toDigit_minus]
  · rename_i h
    exact absurd (List.cons.inj h).1 hc
  · rfl

/-- A text with this value: digits, or digits behind one `+`. -/
def Denotes (radix : ℕ) (cs : List Char) (n : ℕ) : Prop :=
  cs ≠ [] ∧ AllDigits radix cs ∧ ofDigits radix (digitsOf radix cs) = n

theorem not_denotes_plus (radix : ℕ) (cs : List Char) (n : ℕ) : ¬ Denotes radix ('+' :: cs) n := by
  rintro ⟨_, hall, _⟩
  have h := hall '+' (by simp)
  rw [toDigit_plus] at h
  cases h

theorem accumulate_zero_ok_iff {radix max : ℕ} (hradix : 0 < radix) {cs : List Char} {n : ℕ}
    (h : cs ≠ []) :
    accumulate radix max .posOverflow 0 cs = .ok n ↔ Denotes radix cs n ∧ n ≤ max := by
  rw [accumulate_ok_iff hradix (Nat.zero_le max), Nat.zero_mul, Nat.zero_add]
  exact ⟨fun ⟨hall, hn, hle⟩ => ⟨⟨h, hall, hn⟩, hle⟩, fun ⟨⟨_, hall, hn⟩, hle⟩ => ⟨hall, hn, hle⟩⟩

theorem parseUnsigned_ok_iff {radix max : ℕ} (hradix : 0 < radix) {cs : List Char} {n : ℕ} :
    parseUnsigned radix max cs = .ok n ↔
      (Denotes radix cs n ∨ ∃ ds, cs = '+' :: ds ∧ Denotes radix ds n) ∧ n ≤ max := by
  cases cs with
  | nil => simp [parseUnsigned, Denotes]
  | cons c cs =>
    by_cases hc : c = '+'
    · subst hc
      have hplus : (∃ ds, '+' :: cs = '+' :: ds ∧ Denotes radix ds n) ↔ Denotes radix cs n := by
        simp
      rw [hplus, or_iff_right (not_denotes_plus radix cs n)]
      by_cases hcs : cs = []
      · subst hcs
        simp [parseUnsigned, Denotes]
      · rw [parseUnsigned_plus hcs, accumulate_zero_ok_iff hradix hcs]
    · have hplus : ¬ ∃ ds, c :: cs = '+' :: ds ∧ Denotes radix ds n := by
        rintro ⟨ds, h, _⟩
        exact hc (List.cons.inj h).1
      rw [or_iff_left hplus, parseUnsigned_digits hc, accumulate_zero_ok_iff hradix (by simp)]

theorem parseU32_ok_iff {cs : List Char} {n : UInt32} :
    parseU32 cs = .ok n ↔
      Denotes 10 cs n.toNat ∨ ∃ ds, cs = '+' :: ds ∧ Denotes 10 ds n.toNat := by
  have hlt := n.toNat_lt
  have hmap : parseU32 cs = .ok n ↔ parseUnsigned 10 (2 ^ 32 - 1) cs = .ok n.toNat := by
    rw [parseU32]
    cases h : parseUnsigned 10 (2 ^ 32 - 1) cs with
    | error e => simp [Except.map]
    | ok m =>
      have hm := ((parseUnsigned_ok_iff (by decide)).mp h).2
      simp only [Except.map, Except.ok.injEq, ← UInt32.toNat_inj, UInt32.toNat_ofNat']
      omega
  rw [hmap, parseUnsigned_ok_iff (by decide)]
  exact and_iff_left (by omega)

/-! ## Decimal digits -/

def IsDigit (c : Char) : Prop := 48 ≤ c.toNat ∧ c.toNat ≤ 57

theorem toDigit_decimal {c : Char} (h : IsDigit c) : toDigit 10 c = some (c.toNat - 48) := by
  unfold IsDigit at h
  rw [toDigit_eq_some_iff]
  omega

theorem toDigit_decimal_isSome_iff {c : Char} : (toDigit 10 c).isSome ↔ IsDigit c := by
  constructor
  · intro h
    obtain ⟨d, hd⟩ := Option.isSome_iff_exists.mp h
    rw [toDigit_eq_some_iff] at hd
    unfold IsDigit
    omega
  · intro h
    rw [toDigit_decimal h]
    rfl

/-- A nonempty run of the digits `0` to `9` with this value. -/
def IsDecimal (cs : List Char) (n : ℕ) : Prop :=
  cs ≠ [] ∧ (∀ c ∈ cs, IsDigit c) ∧ ofDigits 10 (cs.map fun c => c.toNat - 48) = n

theorem denotes_ten_iff {cs : List Char} {n : ℕ} : Denotes 10 cs n ↔ IsDecimal cs n := by
  have hall : AllDigits 10 cs ↔ ∀ c ∈ cs, IsDigit c := by
    simp only [AllDigits, toDigit_decimal_isSome_iff]
  unfold Denotes IsDecimal
  rw [hall]
  refine and_congr_right fun _ => and_congr_right fun hdigits => ?_
  have hmap : digitsOf 10 cs = cs.map fun c => c.toNat - 48 :=
    List.map_congr_left fun c hc => by rw [toDigit_decimal (hdigits c hc), Option.getD_some]
  rw [hmap]

/-! ## Rendering -/

/-- `{:0width$x}`: zeros in front up to the width. -/
def lowerHex (width n : ℕ) : List Char :=
  let ds := (digits 16 n).map Nat.digitChar
  List.replicate (width - ds.length) '0' ++ ds

/-- `0` to `9` and `a` to `f`. -/
def IsLowerHexDigit (c : Char) : Prop := IsDigit c ∨ (97 ≤ c.toNat ∧ c.toNat ≤ 102)

theorem toDigit_digitChar : ∀ d < 16, toDigit 16 (Nat.digitChar d) = some d := by decide

theorem isLowerHexDigit_digitChar : ∀ d < 16, IsLowerHexDigit (Nat.digitChar d) := by
  unfold IsLowerHexDigit IsDigit
  decide

/-- The digits with zeros in front. -/
def paddedDigits (width n : ℕ) : List ℕ :=
  List.replicate (width - (digits 16 n).length) 0 ++ digits 16 n

theorem lowerHex_eq (width n : ℕ) :
    lowerHex width n = (paddedDigits width n).map Nat.digitChar := by
  rw [lowerHex, paddedDigits, List.map_append, List.map_replicate, List.length_map]
  rfl

theorem paddedDigits_lt (width n : ℕ) : ∀ d ∈ paddedDigits width n, d < 16 := by
  intro d hd
  obtain hzero | hd := List.mem_append.mp hd
  · rw [List.eq_of_mem_replicate hzero]
    decide
  · exact digits_lt (by decide) n d hd

theorem ofDigits_zeros (b k : ℕ) (ds : List ℕ) :
    ofDigits b (List.replicate k 0 ++ ds) = ofDigits b ds := by
  induction k with
  | zero => rfl
  | succ k ih =>
    rw [List.replicate_succ, List.cons_append, ofDigits_cons, Nat.zero_mul, Nat.zero_add, ih]

theorem lowerHex_length {width n : ℕ} (hwidth : 0 < width) (hn : n < 16 ^ width) :
    (lowerHex width n).length = width := by
  have hle := digits_length_le (b := 16) (by decide) hwidth hn
  rw [lowerHex, List.length_append, List.length_replicate, List.length_map]
  omega

theorem isLowerHexDigit_of_mem {width n : ℕ} : ∀ c ∈ lowerHex width n, IsLowerHexDigit c := by
  intro c hc
  rw [lowerHex_eq] at hc
  obtain ⟨d, hd, rfl⟩ := List.mem_map.mp hc
  exact isLowerHexDigit_digitChar d (paddedDigits_lt width n d hd)

theorem lowerHex_denotes (width n : ℕ) : Denotes 16 (lowerHex width n) n := by
  have hdigits : digitsOf 16 (lowerHex width n) = paddedDigits width n := by
    rw [lowerHex_eq, digitsOf, List.map_map]
    refine (List.map_congr_left fun d hd => ?_).trans (List.map_id _)
    rw [Function.comp_apply, toDigit_digitChar d (paddedDigits_lt width n d hd)]
    rfl
  refine ⟨?_, ?_, ?_⟩
  · intro hnil
    have hlen := congrArg List.length hnil
    rw [lowerHex, List.length_append, List.length_map, List.length_nil] at hlen
    have := digits_length_pos 16 n
    omega
  · intro c hc
    rw [lowerHex_eq] at hc
    obtain ⟨d, hd, rfl⟩ := List.mem_map.mp hc
    rw [toDigit_digitChar d (paddedDigits_lt width n d hd)]
    rfl
  · rw [hdigits, paddedDigits, ofDigits_zeros, ofDigits_digits (by decide)]

end SnmpTrap.Rust
