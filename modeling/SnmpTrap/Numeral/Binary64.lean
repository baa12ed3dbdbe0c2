import SnmpTrap.Numeral.Nearest

/-! Lean's own `Float` rounds to the nearest number of binary64: the guard bits of its model, its
rounding, and from them products, quotients, decimal fractions and the cast to 64 bits. -/
namespace SnmpTrap.Numeral
open Float.Model (UnpackedFloat totalExponent)
open Float.Model.UnpackedFloat
set_option autoImplicit false
set_option maxHeartbeats 250000
set_option maxRecDepth 120000

def binary64 : Format := ⟨53, -1074, by decide⟩

/-! ## Guard bits -/

/-- What a mantissa with a round and a sticky bit tells of a number. -/
structure Holds (em : ExtendedMantissa) (y : ℚ) : Prop where
  lower : em.mantissa ≤ y
  upper : y < em.mantissa + 1
  roundBit : em.roundBit = true ↔ em.mantissa + 1 / 2 ≤ y
  stickyBit : em.stickyBit = true ↔ y ≠ em.mantissa ∧ y ≠ em.mantissa + 1 / 2

theorem Holds.nonneg {em : ExtendedMantissa} {y : ℚ} (h : Holds em y) : 0 ≤ y :=
  (Nat.cast_nonneg _).trans h.lower

theorem Holds.floor {em : ExtendedMantissa} {y : ℚ} (h : Holds em y) : ⌊y⌋₊ = em.mantissa :=
  (Nat.floor_eq_iff h.nonneg).mpr ⟨h.lower, h.upper⟩

theorem holds_exact (m : ℕ) : Holds (.ofMantissaAndAccuracy m .exact) m where
  lower := le_refl _
  upper := lt_add_one _
  roundBit := by
    refine iff_of_false Bool.false_ne_true ?_
    simp only [ExtendedMantissa.ofMantissaAndAccuracy]
    linarith
  stickyBit := iff_of_false Bool.false_ne_true fun h => h.1 rfl

theorem compare_half (num : ℕ) {den : ℕ} (hden : (0 : ℚ) < den) :
    compare ((num : ℚ) / den) (1 / 2) = compare (2 * num) den := by
  obtain hlt | heq | hgt := lt_trichotomy (2 * num) den
  · rw [compare_lt_iff_lt.mpr hlt, compare_lt_iff_lt, div_lt_div_iff₀ hden two_pos]
    exact_mod_cast (by omega : num * 2 < 1 * den)
  · rw [compare_eq_iff_eq.mpr heq, compare_eq_iff_eq, div_eq_div_iff hden.ne' two_ne_zero]
    exact_mod_cast (by omega : num * 2 = 1 * den)
  · rw [compare_gt_iff_gt.mpr hgt, compare_gt_iff_gt, div_lt_div_iff₀ two_pos hden]
    exact_mod_cast (by omega : 1 * den < num * 2)

/-- The rest of a division. -/
theorem holds_fraction (m : ℕ) {num den : ℕ} (h : num < den) :
    Holds (.ofMantissaAndAccuracy m (accuracyOfFraction num den)) (m + num / den) := by
  have hden : (0 : ℚ) < den := by exact_mod_cast (Nat.zero_le num).trans_lt h
  have hnum : (num : ℚ) / den < 1 := (div_lt_one hden).mpr (by exact_mod_cast h)
  have hhalf := compare_half num hden
  rw [accuracyOfFraction]
  by_cases hzero : num = 0
  · rw [if_pos hzero, hzero, Nat.cast_zero, zero_div, add_zero]
    exact holds_exact m
  · have hpos : (0 : ℚ) < num / den := div_pos (by exact_mod_cast Nat.pos_of_ne_zero hzero) hden
    rw [if_neg hzero]
    cases ho : compare (2 * num) den with
    | lt =>
      have hlt := compare_lt_iff_lt.mp (hhalf.trans ho)
      constructor <;> simp only [ExtendedMantissa.ofMantissaAndAccuracy]
      · linarith
      · linarith
      · exact iff_of_false Bool.false_ne_true (by linarith)
      · exact iff_of_true trivial ⟨by linarith, by linarith⟩
    | eq =>
      have heq := compare_eq_iff_eq.mp (hhalf.trans ho)
      constructor <;> simp only [ExtendedMantissa.ofMantissaAndAccuracy]
      · linarith
      · linarith
      · exact iff_of_true trivial (by linarith)
      · exact iff_of_false Bool.false_ne_true fun h => h.2 (by rw [heq])
    | gt =>
      have hgt := compare_gt_iff_gt.mp (hhalf.trans ho)
      constructor <;> simp only [ExtendedMantissa.ofMantissaAndAccuracy]
      · linarith
      · linarith
      · exact iff_of_true trivial (by linarith)
      · exact iff_of_true trivial ⟨by linarith, by linarith⟩

theorem Holds.shiftRightOne {em : ExtendedMantissa} {y : ℚ} (h : Holds em y) :
    Holds em.shiftRightOne (y / 2) := by
  obtain ⟨hlower, hupper, hround, hsticky⟩ := h
  have hsplit : (em.mantissa : ℚ) = 2 * (em.mantissa / 2 : ℕ) + (em.mantissa % 2 : ℕ) := by
    exact_mod_cast (Nat.div_add_mod em.mantissa 2).symm
  have hrest : (em.roundBit || em.stickyBit) = true ↔ y ≠ em.mantissa := by
    rw [Bool.or_eq_true, hround, hsticky]
    constructor
    · rintro (hge | hne)
      · linarith
      · exact hne.1
    · intro hne
      by_cases hhalf : y = em.mantissa + 1 / 2
      · exact Or.inl hhalf.ge
      · exact Or.inr ⟨hne, hhalf⟩
  obtain hbit | hbit := Nat.mod_two_eq_zero_or_one em.mantissa
  · rw [hbit, Nat.cast_zero, add_zero] at hsplit
    constructor <;> simp only [ExtendedMantissa.shiftRightOne, hbit, hrest]
    · linarith
    · linarith
    · exact iff_of_false (by decide) (by linarith)
    · constructor
      · intro hne
        refine ⟨fun heq => hne (by linarith), by linarith⟩
      · rintro ⟨hne, _⟩ heq
        exact hne (by linarith)
  · rw [hbit, Nat.cast_one] at hsplit
    constructor <;> simp only [ExtendedMantissa.shiftRightOne, hbit, hrest]
    · linarith
    · linarith
    · exact iff_of_true (by decide) (by linarith)
    · constructor
      · intro hne
        refine ⟨by linarith, fun heq => hne (by linarith)⟩
      · rintro ⟨_, hne⟩ heq
        exact hne (by linarith)

theorem Holds.shiftRight {em : ExtendedMantissa} {y : ℚ} (h : Holds em y) (k : ℕ) :
    Holds (em >>> k) (y / 2 ^ k) := by
  change Holds (k.repeat ExtendedMantissa.shiftRightOne em) (y / 2 ^ k)
  induction k with
  | zero =>
    rw [pow_zero, div_one]
    exact h
  | succ k ih =>
    rw [Nat.repeat, pow_succ, ← div_div]
    exact ih.shiftRightOne

/-- The two bits are enough to round by. -/
theorem Holds.roundedMantissa {em : ExtendedMantissa} {y : ℚ} (h : Holds em y) :
    em.roundedMantissa = roundHalfEven y := by
  rw [roundHalfEven, h.floor]
  obtain ⟨mantissa, roundBit, stickyBit⟩ := em
  obtain ⟨hlower, hupper, hround, hsticky⟩ := h
  simp only at hlower hupper hround hsticky ⊢
  cases roundBit with
  | false =>
    have hlt : y - mantissa < 1 / 2 := by
      have := not_le.mp fun hle => Bool.false_ne_true (hround.mpr hle)
      linarith
    rw [if_pos (Or.inl hlt)]
    cases stickyBit <;> rfl
  | true =>
    have hge : ¬ y - mantissa < 1 / 2 := by
      have := hround.mp rfl
      linarith
    cases stickyBit with
    | false =>
      have heq : y - mantissa = 1 / 2 := by
        by_contra hne
        exact Bool.false_ne_true (hsticky.mpr
          ⟨fun h => hge (by linarith), fun h => hne (by linarith)⟩)
      obtain heven | hodd := Nat.mod_two_eq_zero_or_one mantissa
      · rw [if_pos (Or.inr ⟨heq, heven⟩)]
        exact congrArg (mantissa + ·) heven
      · rw [if_neg (by rw [hodd]; exact fun h => h.elim hge fun h => absurd h.2 (by decide))]
        exact congrArg (mantissa + ·) hodd
    | true =>
      have hne : y - mantissa ≠ 1 / 2 := fun h => (hsticky.mp rfl).2 (by linarith)
      rw [if_neg (not_or.mpr ⟨hge, fun h => hne h.1⟩)]
      rfl

/-! ## Rounding -/

/-- A number of binary64 as it is packed, up to the largest exponent. -/
inductive Canonical : UnpackedFloat → Sign → ℚ → Prop
  | zero (s : Sign) : Canonical (.zero s) s 0
  | finite (s : Sign) {m : ℕ} {e : ℤ} (hpos : 0 < m) (hm : m < 2 ^ 53) (he : -1074 ≤ e)
      (hnormal : 2 ^ 52 ≤ m ∨ e = -1074) : Canonical (.finite s m e hpos) s (m * 2 ^ e)

theorem targetExponent_eq (m : ℕ) (e : ℤ) :
    Float.Model.Format.binary64.targetExponent (totalExponent m e) =
      max (m.log2 + e + 1 - 53) (-1074) := by
  have hbits : Float.Model.Format.binary64.mantissaBits = 53 := rfl
  have hmin : Float.Model.Format.binary64.minExponent = -1074 := rfl
  rw [Float.Model.Format.targetExponent, totalExponent, hbits, hmin]
  push_cast
  omega

theorem log_mul_two_zpow {m : ℕ} (hm : 0 < m) {y : ℚ} (hlower : m ≤ y) (hupper : y < m + 1)
    (e : ℤ) : Int.log 2 (y * 2 ^ e) = m.log2 + e := by
  have hy : (0 : ℚ) < y := (Nat.cast_pos.mpr hm).trans_le hlower
  have hx : (0 : ℚ) < y * 2 ^ e := mul_pos hy (Format.two_zpow_pos e)
  have hlo : (2 : ℚ) ^ (m.log2 + e : ℤ) ≤ y * 2 ^ e := by
    rw [zpow_add₀ two_ne_zero, zpow_natCast]
    refine mul_le_mul_of_nonneg_right (le_trans ?_ hlower) (Format.two_zpow_pos e).le
    exact_mod_cast Nat.log2_self_le hm.ne'
  have hhi : y * 2 ^ e < (2 : ℚ) ^ (m.log2 + e + 1 : ℤ) := by
    rw [add_right_comm, zpow_add₀ two_ne_zero, ← Nat.cast_add_one, zpow_natCast]
    refine mul_lt_mul_of_pos_right (hupper.trans_le ?_) (Format.two_zpow_pos e)
    exact_mod_cast Nat.lt_log2_self
  have hlo' := (Int.zpow_le_iff_le_log (b := 2) one_lt_two hx).mp (by rwa [Nat.cast_ofNat])
  have hhi' := (Int.lt_zpow_iff_log_lt (b := 2) one_lt_two hx).mp (by rwa [Nat.cast_ofNat])
  omega

/-- Where the target is not below the exponent, rounding starts from the place of the last bit. -/
theorem targetExponent_lastPlace {m : ℕ} {y : ℚ} (hlower : m ≤ y) (hupper : y < m + 1) {e : ℤ}
    (hx : 0 < y * 2 ^ e) (hm : 0 < m ∨ e ≤ -1074) :
    Float.Model.Format.binary64.targetExponent (totalExponent m e) =
      binary64.lastPlace (y * 2 ^ e) := by
  rw [targetExponent_eq, Format.lastPlace]
  obtain rfl | hpos := m.eq_zero_or_pos
  · have he : e ≤ -1074 := hm.resolve_left (lt_irrefl 0)
    rw [Nat.cast_zero, zero_add] at hupper
    have hlog : Int.log 2 (y * 2 ^ e) < e := by
      refine (Int.lt_zpow_iff_log_lt (b := 2) one_lt_two hx).mp ?_
      rw [Nat.cast_ofNat]
      exact mul_lt_of_lt_one_left (Format.two_zpow_pos e) hupper
    have hzero : Nat.log2 0 = 0 := by decide
    rw [hzero]
    simp only [binary64]
    omega
  · rw [log_mul_two_zpow hpos hlower hupper]
    rfl

theorem mantissa_ofMantissaAndAccuracy (m : ℕ) (acc : Accuracy) :
    (ExtendedMantissa.ofMantissaAndAccuracy m acc).mantissa = m := by
  unfold ExtendedMantissa.ofMantissaAndAccuracy
  split <;> rfl

theorem shiftToTargetExponent_of_lt {n : ℕ} (hn : n < 2 ^ 53) {t : ℤ} (ht : -1074 ≤ t) :
    shiftToTargetExponent .binary64 n t .exact = (.ofMantissaAndAccuracy n .exact, t) := by
  have hlog : n.log2 < 53 := by
    obtain rfl | hpos := n.eq_zero_or_pos
    · decide
    · exact (Nat.log2_lt hpos.ne').mpr hn
  have hshift : (max ((n.log2 : ℤ) + t + 1 - 53) (-1074) - t).toNat = 0 := by omega
  rw [shiftToTargetExponent, targetExponent_eq, shiftToExponent]
  simp only [hshift]
  rw [Nat.cast_zero, add_zero]
  rfl

/-- A significand that carried into one more bit gives it back. -/
theorem shiftToTargetExponent_carry {t : ℤ} (ht : -1074 ≤ t) :
    shiftToTargetExponent .binary64 (2 ^ 53) t .exact =
      (.ofMantissaAndAccuracy (2 ^ 52) .exact, t + 1) := by
  have hlog : (2 ^ 53 : ℕ).log2 = 53 := Nat.log2_two_pow
  have hshift : (max (((2 ^ 53 : ℕ).log2 : ℤ) + t + 1 - 53) (-1074) - t).toNat = 1 := by
    rw [hlog]
    omega
  rw [shiftToTargetExponent, targetExponent_eq, shiftToExponent]
  simp only [hshift]
  rfl

/-- The rounding of the model, from an exponent that leaves the last bit in place. -/
theorem canonical_roundWithAccuracy (s : Sign) {m : ℕ} {e : ℤ} {acc : Accuracy} {y : ℚ}
    (hy : Holds (.ofMantissaAndAccuracy m acc) y) (hx : 0 < y * 2 ^ e)
    (hm : 0 < m ∨ e ≤ -1074) (he : e ≤ binary64.lastPlace (y * 2 ^ e)) :
    Canonical (roundWithAccuracy .binary64 s m e acc) s (binary64.nearest (y * 2 ^ e)) := by
  have hlower : (m : ℚ) ≤ y := by
    have h := hy.lower
    rwa [mantissa_ofMantissaAndAccuracy] at h
  have hupper : y < m + 1 := by
    have h := hy.upper
    rwa [mantissa_ofMantissaAndAccuracy] at h
  have htarget := targetExponent_lastPlace hlower hupper hx hm
  generalize hplace : binary64.lastPlace (y * 2 ^ e) = t at he htarget
  have ht : -1074 ≤ t := by
    rw [← hplace]
    exact le_max_right _ _
  have hscaled : y * 2 ^ e / 2 ^ t = y / 2 ^ (t - e).toNat := by
    have hnat : (2 : ℚ) ^ (t - e).toNat = 2 ^ t / 2 ^ e := by
      rw [← zpow_natCast, Int.toNat_of_nonneg (by omega), zpow_sub₀ two_ne_zero]
    rw [hnat, div_div_eq_mul_div]
  have hround := (hy.shiftRight (t - e).toNat).roundedMantissa
  rw [← hscaled, ← hplace] at hround
  change _ = binary64.significand (y * 2 ^ e) at hround
  have hsecond : e + ((t - e).toNat : ℤ) = t := by omega
  have hnormal : 2 ^ 52 ≤ binary64.significand (y * 2 ^ e) ∨ t = -1074 := by
    obtain heq | hlt := ht.eq_or_lt
    · exact Or.inr heq.symm
    · left
      exact binary64.two_pow_le_significand hx (by rw [hplace]; exact hlt)
  have hmax : binary64.significand (y * 2 ^ e) ≤ 2 ^ 53 := binary64.significand_le _
  rw [Format.nearest, hplace]
  generalize binary64.significand (y * 2 ^ e) = n at hround hnormal hmax
  rw [hplace] at hround
  rw [roundWithAccuracy, shiftToTargetExponent, htarget, shiftToExponent]
  simp only [hround, hsecond]
  obtain hlt | rfl := hmax.lt_or_eq
  · simp only [shiftToTargetExponent_of_lt hlt ht, mantissa_ofMantissaAndAccuracy]
    split
    · rename_i hzero
      rw [hzero, Nat.cast_zero, zero_mul]
      exact .zero s
    · exact .finite s _ hlt ht hnormal
  · simp only [shiftToTargetExponent_carry ht, mantissa_ofMantissaAndAccuracy]
    have hvalue : ((2 ^ 53 : ℕ) : ℚ) * 2 ^ t = ((2 ^ 52 : ℕ) : ℚ) * 2 ^ (t + 1) := by
      rw [zpow_add_one₀ two_ne_zero]
      push_cast
      ring
    rw [hvalue, dif_neg (by decide)]
    exact .finite s _ (by decide) (by omega) (Or.inl (le_refl _))

/-! ## Products and quotients -/

/-- A product has bits enough, or it is below the normal numbers. -/
theorem canonical_mul {a b : UnpackedFloat} {s t : Sign} {x y : ℚ} (ha : Canonical a s x)
    (hb : Canonical b t y) : Canonical (mul .binary64 a b) (s * t) (binary64.nearest (x * y)) := by
  cases ha with
  | zero =>
    rw [zero_mul, Format.nearest_zero]
    cases hb <;> exact .zero _
  | @finite _ m e hpos hm he hnormal =>
    cases hb with
    | zero =>
      rw [mul_zero, Format.nearest_zero]
      exact .zero _
    | @finite _ n f hpos' hn hf hnormal' =>
      have hprod : (m : ℚ) * 2 ^ e * (n * 2 ^ f) = ((m * n : ℕ) : ℚ) * 2 ^ (e + f) := by
        rw [zpow_add₀ two_ne_zero, Nat.cast_mul]
        ring
      have hmn : 0 < m * n := Nat.mul_pos hpos hpos'
      have hx : (0 : ℚ) < ((m * n : ℕ) : ℚ) * 2 ^ (e + f) :=
        mul_pos (Nat.cast_pos.mpr hmn) (Format.two_zpow_pos _)
      have hlog := log_mul_two_zpow hmn (le_refl _) (lt_add_one _) (e + f)
      have hroom : e + f ≤ binary64.lastPlace (((m * n : ℕ) : ℚ) * 2 ^ (e + f)) := by
        rw [Format.lastPlace, hlog]
        by_cases hlarge : 2 ^ 52 ≤ m * n
        · have hbits : 52 ≤ (m * n).log2 := (Nat.le_log2 hmn.ne').mpr hlarge
          simp only [binary64]
          omega
        · have hsmall : e = -1074 ∧ f = -1074 := by
            refine ⟨hnormal.resolve_left fun h => hlarge (h.trans (Nat.le_mul_of_pos_right m hpos')),
              hnormal'.resolve_left fun h => hlarge (h.trans (Nat.le_mul_of_pos_left n hpos))⟩
          simp only [binary64]
          omega
      rw [hprod]
      exact canonical_roundWithAccuracy (s * t) (holds_exact (m * n)) hx (Or.inl hmn) hroom

theorem log_sub_le_log_div {a b : ℚ} (ha : 0 < a) (hb : 0 < b) :
    Int.log 2 a - Int.log 2 b - 1 ≤ Int.log 2 (a / b) := by
  have hlower := Int.zpow_log_le_self (b := 2) one_lt_two ha
  have hupper := Int.lt_zpow_succ_log_self (b := 2) one_lt_two b
  rw [Nat.cast_ofNat] at hlower hupper
  refine (Int.zpow_le_iff_le_log (b := 2) one_lt_two (div_pos ha hb)).mp ?_
  rw [Nat.cast_ofNat, sub_sub, zpow_sub₀ two_ne_zero]
  exact div_le_div₀ ha.le hlower hb hupper.le

/-- Shifted left far enough, a quotient of mantissas has its remainder behind the last bit. -/
theorem shifted_quotient {m n k : ℕ} (hn : 0 < n) {e f g : ℤ} (hg : g ≤ e - f)
    (hshifted : m <<< (e - f - g).toNat = k) : (m : ℚ) * 2 ^ e / (n * 2 ^ f) =
      ((k / n : ℕ) + (k % n : ℕ) / (n : ℚ)) * 2 ^ g := by
  have hnpos : (0 : ℚ) < n := Nat.cast_pos.mpr hn
  have hdivmod : (k : ℚ) = n * (k / n : ℕ) + (k % n : ℕ) := by
    exact_mod_cast (Nat.div_add_mod k n).symm
  have hk : (k : ℚ) = m * (2 ^ (e - f) / 2 ^ g) := by
    rw [← hshifted, Nat.shiftLeft_eq, Nat.cast_mul, Nat.cast_pow, Nat.cast_ofNat,
      ← zpow_natCast, Int.toNat_of_nonneg (by omega), zpow_sub₀ two_ne_zero]
  have hquotient : ((k / n : ℕ) + (k % n : ℕ) / (n : ℚ)) = k / n := by
    rw [eq_div_iff hnpos.ne', add_mul, div_mul_cancel₀ _ hnpos.ne', hdivmod]
    ring
  rw [hquotient, hk, zpow_sub₀ two_ne_zero]
  have he := (Format.two_zpow_pos (K := ℚ) e).ne'
  have hf := (Format.two_zpow_pos (K := ℚ) f).ne'
  have hg := (Format.two_zpow_pos (K := ℚ) g).ne'
  field_simp

theorem targetExponent_quotient (m n : ℕ) (e f : ℤ) :
    Float.Model.Format.binary64.targetExponent (totalExponent m e - totalExponent n f) =
      max ((m.log2 + e : ℤ) - (n.log2 + f) - 53) (-1074) := by
  have hmantissa : Float.Model.Format.binary64.mantissaBits = 53 := rfl
  have hmin : Float.Model.Format.binary64.minExponent = -1074 := rfl
  rw [Float.Model.Format.targetExponent, totalExponent, totalExponent, hmantissa, hmin]
  push_cast
  omega

theorem canonical_div (s t : Sign) {m n : ℕ} (hm : 0 < m) (hn : 0 < n) (e f : ℤ) :
    Canonical (div .binary64 (.finite s m e hm) (.finite t n f hn)) (s / t)
      (binary64.nearest (m * 2 ^ e / (n * 2 ^ f))) := by
  rw [div, divCore]
  generalize htarget : min (e - f) (Float.Model.Format.binary64.targetExponent
    (totalExponent m e - totalExponent n f)) = g
  simp only
  generalize hshifted : m <<< (e - f - g).toNat = k
  have hg : g ≤ e - f := by
    rw [← htarget]
    exact min_le_left _ _
  have hbits : g ≤ max ((m.log2 + e : ℤ) - (n.log2 + f) - 53) (-1074) := by
    rw [← htarget, targetExponent_quotient]
    exact min_le_right _ _
  have hvalue := shifted_quotient hn hg hshifted
  have hnum : (0 : ℚ) < m * 2 ^ e := mul_pos (Nat.cast_pos.mpr hm) (Format.two_zpow_pos e)
  have hden : (0 : ℚ) < n * 2 ^ f := mul_pos (Nat.cast_pos.mpr hn) (Format.two_zpow_pos f)
  have hx := div_pos hnum hden
  have hlog := log_sub_le_log_div hnum hden
  rw [log_mul_two_zpow hm (le_refl _) (lt_add_one _) e,
    log_mul_two_zpow hn (le_refl _) (lt_add_one _) f] at hlog
  have hquotient : 0 < k / n ∨ g ≤ -1074 := by
    obtain hzero | hpos := (k / n).eq_zero_or_pos
    · -- a quotient without a digit is below the normal numbers
      right
      have hlt : Int.log 2 ((m : ℚ) * 2 ^ e / (n * 2 ^ f)) < g := by
        refine (Int.lt_zpow_iff_log_lt (b := 2) one_lt_two hx).mp ?_
        rw [hvalue, hzero, Nat.cast_zero, zero_add, Nat.cast_ofNat]
        refine mul_lt_of_lt_one_left (Format.two_zpow_pos g)
          ((div_lt_one (Nat.cast_pos.mpr hn)).mpr ?_)
        exact_mod_cast Nat.mod_lt k hn
      omega
    · exact Or.inl hpos
  have hroom : g ≤ binary64.lastPlace ((m : ℚ) * 2 ^ e / (n * 2 ^ f)) := by
    rw [Format.lastPlace]
    simp only [binary64]
    omega
  rw [hvalue] at hx hroom ⊢
  exact canonical_roundWithAccuracy (s / t) (holds_fraction (k / n) (Nat.mod_lt k hn)) hx hquotient
    hroom

/-! ## Whole numbers -/

theorem canonical_ofNat (n : ℕ) :
    Canonical (ofNat .binary64 n) .positive (binary64.nearest n) := by
  rw [ofNat, ofInt, UnpackedFloat.normalize]
  obtain rfl | hn := n.eq_zero_or_pos
  · have hzero : ((0 : ℕ) : ℚ) = 0 := Nat.cast_zero
    rw [hzero, Format.nearest_zero]
    exact .zero _
  · have hcompare : compare (n : ℤ) 0 = .gt := compare_gt_iff_gt.mpr (by exact_mod_cast hn)
    rw [hcompare]
    simp only [Int.toNat_natCast]
    rw [UnpackedFloat.round, targetExponent_eq, decreaseExponent]
    generalize hshift : (0 - max ((n.log2 : ℤ) + 0 + 1 - 53) (-1074)).toNat = k
    simp only
    have hm : 0 < n <<< k := Nat.shiftLeft_pos_iff.mpr hn
    have hvalue : (n : ℚ) = (n <<< k : ℕ) * 2 ^ (0 - (k : ℤ)) := by
      rw [Nat.shiftLeft_eq, Nat.cast_mul, Nat.cast_pow, Nat.cast_ofNat, ← zpow_natCast, mul_assoc,
        ← zpow_add₀ two_ne_zero, zero_sub, add_neg_cancel, zpow_zero, mul_one]
    have hlog := log_mul_two_zpow hn (le_refl (n : ℚ)) (lt_add_one _) 0
    rw [zpow_zero, mul_one] at hlog
    have hroom : 0 - (k : ℤ) ≤ binary64.lastPlace (n : ℚ) := by
      rw [Format.lastPlace, hlog]
      simp only [binary64]
      omega
    rw [hvalue] at hroom ⊢
    exact canonical_roundWithAccuracy .positive (holds_exact _)
      (mul_pos (Nat.cast_pos.mpr hm) (Format.two_zpow_pos _)) (Or.inl hm) hroom

theorem toNat_ofNatClamp (n : ℕ) : (UInt64.ofNatClamp n).toNat = min n (2 ^ 64 - 1) := by
  unfold UInt64.ofNatClamp
  split
  · rename_i hlt
    rw [UInt64.toNat_ofNatLT]
    unfold UInt64.size at hlt
    omega
  · rename_i hge
    rw [UInt64.toNat_ofNatLT]
    unfold UInt64.size at hge ⊢
    omega

/-- The cast drops the digits behind the point and keeps to the range. -/
theorem toUInt64_canonical {u : UnpackedFloat} {x : ℚ} (h : Canonical u .positive x) :
    (toUInt64 u).toNat = min ⌊x⌋₊ (2 ^ 64 - 1) := by
  rw [toUInt64, toNat_ofNatClamp]
  congr 1
  cases h with
  | zero =>
    rw [Nat.floor_zero]
    rfl
  | @finite _ m e hpos hm he hnormal =>
    rw [toInt, roundToInt, decreaseExponent]
    simp only [shiftToExponent]
    generalize hk : (e - 0).toNat = k
    generalize hj : (0 - (e - (k : ℤ))).toNat = j
    have hvalue : ((m <<< k : ℕ) : ℚ) / 2 ^ j = m * 2 ^ e := by
      rw [Nat.shiftLeft_eq, Nat.cast_mul, Nat.cast_pow, Nat.cast_ofNat, mul_div_assoc,
        ← zpow_natCast, ← zpow_natCast, ← zpow_sub₀ two_ne_zero]
      congr 2
      omega
    have hfloor := ((holds_exact (m <<< k)).shiftRight j).floor
    rw [hvalue] at hfloor
    rw [hfloor]
    exact Int.toNat_natCast _

/-! ## Packing -/

section Packing
variable (s : Sign)

theorem ofBitVec_toBitVec : Sign.ofBitVec s.toBitVec = s := by
  cases s <;> rfl

theorem unpackSign_packComponents (e : BitVec 11) (m : BitVec 52) :
    @unpackSign .binary64 (packComponents .binary64 s e m) = s.toBitVec := by
  ext i hi
  obtain rfl : i = 0 := by omega
  simp only [unpackSign, packComponents, BitVec.getElem_cast, BitVec.getElem_extract]
  change (s.toBitVec ++ e ++ m).getLsbD 63 = _
  rw [BitVec.getLsbD_append, BitVec.getLsbD_append]
  rfl

theorem unpack_packedInfinity : unpack .binary64 (packedInfinity .binary64 s) = .infinity s := by
  rw [unpack, packedInfinity]
  simp only [unpackMantissa_packComponents, unpackExponent_packComponents]
  rw [if_pos trivial, if_pos (show (0 : BitVec 52) = 0#52 from rfl), unpackSign_packComponents,
    ofBitVec_toBitVec]

theorem unpack_packedZero : unpack .binary64 (packedZero .binary64 s) = .zero s := by
  rw [unpack, packedZero]
  simp only [unpackMantissa_packComponents, unpackExponent_packComponents]
  rw [if_neg (by decide), if_pos (show (0 : BitVec 11) = 0#11 from rfl),
    dif_pos (show (0 : BitVec 52) = 0#52 from rfl), unpackSign_packComponents, ofBitVec_toBitVec]

theorem biasedExponent_eq (e : ℤ) :
    (e + (Float.Model.Format.binary64.exponentBias : ℤ) + (52 : ℕ)).toNat = (e + 1075).toNat := by
  have hbias : Float.Model.Format.binary64.exponentBias = 1023 := rfl
  rw [hbias]
  push_cast
  omega

theorem unpack_pack_overflow {m : ℕ} {e : ℤ} (hpos : 0 < m) (he : 972 ≤ e) :
    unpack .binary64 (pack .binary64 (.finite s m e hpos)) = .infinity s := by
  have hbits : 2 ^ Float.Model.Format.binary64.exponentBits = 2048 := rfl
  rw [pack, biasedExponent_eq, hbits, if_pos (by omega)]
  exact unpack_packedInfinity s

/-- A full mantissa loses its first bit, and the exponent brings it back. -/
theorem unpack_pack_normal {m : ℕ} {e : ℤ} (hpos : 0 < m) (hm : m < 2 ^ 53) (he : -1074 ≤ e)
    (hlarge : 2 ^ 52 ≤ m) (hmax : e ≤ 971) :
    unpack .binary64 (pack .binary64 (.finite s m e hpos)) = .finite s m e hpos := by
  have hbits : 2 ^ Float.Model.Format.binary64.exponentBits = 2048 := rfl
  have hbias : Float.Model.Format.binary64.exponentBias = 1023 := rfl
  have hlog : m.log2 = 52 := (Nat.log2_eq_iff hpos.ne').mpr ⟨hlarge, hm⟩
  have hexponent : (BitVec.ofNat 11 (e + 1075).toNat).toNat = (e + 1075).toNat := by
    rw [BitVec.toNat_ofNat]
    omega
  have hmantissa : (1#1 ++ BitVec.ofNat 52 m).toNat = m := by
    rw [BitVec.toNat_append, ← Nat.shiftLeft_add_eq_or_of_lt (BitVec.isLt _), Nat.shiftLeft_eq,
      BitVec.toNat_ofNat, BitVec.toNat_ofNat]
    omega
  have hfinite : BitVec.ofNat 11 (e + 1075).toNat ≠ -1#11 := by
    intro h
    have htoNat := congrArg BitVec.toNat h
    rw [hexponent] at htoNat
    have hall : (-1#11).toNat = 2047 := rfl
    omega
  have hnonzero : BitVec.ofNat 11 (e + 1075).toNat ≠ 0#11 := by
    intro h
    have htoNat := congrArg BitVec.toNat h
    rw [hexponent] at htoNat
    have hzero : (0#11).toNat = 0 := rfl
    omega
  rw [pack, biasedExponent_eq, hbits, if_neg (by omega), if_pos (by rw [hlog]; rfl), unpack]
  simp only [unpackMantissa_packComponents, unpackExponent_packComponents]
  rw [if_neg hfinite, if_neg hnonzero]
  congr 1
  · rw [unpackSign_packComponents, ofBitVec_toBitVec]
  · rw [hexponent, hbias]
    push_cast
    omega

theorem unpack_pack_subnormal {m : ℕ} (hpos : 0 < m) (hsmall : m < 2 ^ 52) :
    unpack .binary64 (pack .binary64 (.finite s m (-1074) hpos)) = .finite s m (-1074) hpos := by
  have hbits : 2 ^ Float.Model.Format.binary64.exponentBits = 2048 := rfl
  have hlog : m.log2 < 52 := (Nat.log2_lt hpos.ne').mpr hsmall
  have hmantissa : (BitVec.ofNat 52 m).toNat = m := by
    rw [BitVec.toNat_ofNat]
    omega
  have hnonzero : BitVec.ofNat 52 m ≠ 0#52 := by
    intro h
    have htoNat := congrArg BitVec.toNat h
    rw [hmantissa] at htoNat
    exact hpos.ne' htoNat
  have hsubnormal : ¬ m.log2 + 1 = Float.Model.Format.binary64.mantissaBits := by
    have hwidth : Float.Model.Format.binary64.mantissaBits = 53 := rfl
    omega
  rw [pack, biasedExponent_eq, hbits, if_neg (by omega), if_neg hsubnormal, unpack]
  simp only [unpackMantissa_packComponents, unpackExponent_packComponents]
  rw [if_neg (by decide), if_pos trivial, dif_neg hnonzero]
  congr 1
  rw [unpackSign_packComponents, ofBitVec_toBitVec]

theorem unpack_pack_finite {m : ℕ} {e : ℤ} (hpos : 0 < m) (hm : m < 2 ^ 53) (he : -1074 ≤ e)
    (hnormal : 2 ^ 52 ≤ m ∨ e = -1074) (hmax : e ≤ 971) :
    unpack .binary64 (pack .binary64 (.finite s m e hpos)) = .finite s m e hpos := by
  by_cases hlarge : 2 ^ 52 ≤ m
  · exact unpack_pack_normal s hpos hm he hlarge hmax
  · obtain rfl := hnormal.resolve_left hlarge
    exact unpack_pack_subnormal s hpos (Nat.lt_of_not_le hlarge)

end Packing

/-! ## `Float` -/

/-- The float is this number with the sign, or infinity where the exponents end before it. -/
def Stands (x : Float) (s : Sign) (q : ℚ) : Prop :=
  if q < 2 ^ 1024 then Canonical x.toModel.unpack s q else x.toModel.unpack = .infinity s

theorem stands_pack {u : UnpackedFloat} {s : Sign} {q : ℚ} (h : Canonical u s q) :
    Stands (.ofModel (.pack u)) s q := by
  change if q < 2 ^ 1024 then Canonical (unpack .binary64 (pack .binary64 u)) s q
    else unpack .binary64 (pack .binary64 u) = .infinity s
  cases h with
  | zero =>
    rw [if_pos (by positivity)]
    change Canonical (unpack .binary64 (packedZero .binary64 s)) s 0
    rw [unpack_packedZero]
    exact .zero s
  | @finite _ m e hpos hm he hnormal =>
    obtain hmax | hmax := le_or_gt e 971
    · have hlt : (m : ℚ) * 2 ^ e < 2 ^ 1024 := by
        calc (m : ℚ) * 2 ^ e < 2 ^ 53 * 2 ^ e :=
              mul_lt_mul_of_pos_right (by exact_mod_cast hm) (Format.two_zpow_pos e)
          _ ≤ 2 ^ 53 * 2 ^ (971 : ℤ) :=
              mul_le_mul_of_nonneg_left (Format.two_zpow_le hmax) (by positivity)
          _ = 2 ^ 1024 := by
              rw [← zpow_natCast, ← zpow_natCast, ← zpow_add₀ two_ne_zero]
              rfl
      rw [if_pos hlt, unpack_pack_finite s hpos hm he hnormal hmax]
      exact .finite s hpos hm he hnormal
    · have hge : (2 : ℚ) ^ 1024 ≤ m * 2 ^ e := by
        calc (2 : ℚ) ^ 1024 = (2 : ℚ) ^ 52 * (2 : ℚ) ^ (972 : ℤ) := by
              rw [← zpow_natCast, ← zpow_natCast, ← zpow_add₀ two_ne_zero]
              rfl
          _ ≤ (m : ℚ) * 2 ^ e := by
              refine mul_le_mul ?_ (Format.two_zpow_le (by omega)) (by positivity) (by positivity)
              exact_mod_cast hnormal.resolve_right (by omega)
      rw [if_neg (not_lt.mpr hge), unpack_pack_overflow s hpos (by omega)]

theorem Canonical.nonneg {u : UnpackedFloat} {s : Sign} {q : ℚ} (h : Canonical u s q) : 0 ≤ q := by
  cases h with
  | zero => exact le_refl 0
  | finite => exact mul_nonneg (Nat.cast_nonneg _) (Format.two_zpow_pos _).le

/-- A number that is not 0 is packed with a significand that is not. -/
theorem Canonical.exists_finite {u : UnpackedFloat} {s : Sign} {q : ℚ} (h : Canonical u s q)
    (hq : 0 < q) : ∃ m e hpos, u = .finite s m e hpos ∧ q = m * 2 ^ e := by
  cases h with
  | zero => exact absurd hq (lt_irrefl 0)
  | @finite _ m e hpos hm he hnormal => exact ⟨m, e, hpos, rfl, rfl⟩

theorem representable_natCast {n : ℕ} (h : n < 2 ^ 53) : binary64.Representable (n : ℚ) :=
  ⟨n, 0, h, by decide, by rw [zpow_zero, mul_one]⟩

theorem representable_limit : binary64.Representable ((2 : ℚ) ^ 1024) := by
  rw [← zpow_natCast]
  exact binary64.representable_two_zpow (by decide)

theorem stands_mul {x y : Float} {s t : Sign} {q p : ℚ} (hx : Stands x s q)
    (hy : Canonical y.toModel.unpack t p) (hp : 1 ≤ p) :
    Stands (x * y) (s * t) (binary64.nearest (q * p)) := by
  by_cases hq : q < 2 ^ 1024
  · rw [Stands, if_pos hq] at hx
    exact stands_pack (canonical_mul hx hy)
  · rw [Stands, if_neg hq] at hx
    obtain ⟨m, e, hpos, hunpack, _⟩ := hy.exists_finite (one_pos.trans_le hp)
    have hlarge : (2 : ℚ) ^ 1024 ≤ q * p :=
      (not_lt.mp hq).trans
        (le_mul_of_one_le_right (le_trans (by positivity) (not_lt.mp hq)) hp)
    have hmono := binary64.nearest_mono (by positivity) hlarge
    rw [representable_limit.nearest_eq] at hmono
    rw [Stands, if_neg (not_lt.mpr hmono)]
    change unpack .binary64 (pack .binary64 (mul .binary64 x.toModel.unpack y.toModel.unpack)) = _
    rw [hx, hunpack]
    exact unpack_packedInfinity (s * t)

theorem toUInt64_stands {x : Float} {q : ℚ} (h : Stands x .positive q) :
    x.toUInt64.toNat = min ⌊q⌋₊ (2 ^ 64 - 1) := by
  change (toUInt64 x.toModel.unpack).toNat = _
  by_cases hq : q < 2 ^ 1024
  · rw [Stands, if_pos hq] at h
    exact toUInt64_canonical h
  · rw [Stands, if_neg hq] at h
    have hfloor : 2 ^ 64 ≤ ⌊q⌋₊ := by
      refine Nat.le_floor (le_trans ?_ (not_lt.mp hq))
      rw [Nat.cast_pow, Nat.cast_ofNat]
      exact pow_le_pow_right₀ one_le_two (by decide)
    have hmin : min ⌊q⌋₊ (2 ^ 64 - 1) = 2 ^ 64 - 1 := by omega
    rw [h, hmin]
    rfl

/-! ## Decimal fractions -/

theorem exactlyRepresentablePowersOfTen_eq :
    ∀ e : Fin Float.exactlyRepresentablePowersOfTen.size,
      Float.exactlyRepresentablePowersOfTen[e] = .ofModel (.ofNat (10 ^ e.val)) := by
  decide +kernel

theorem canonical_natFloat {n : ℕ} (h : binary64.Representable (n : ℚ)) (hlt : (n : ℚ) < 2 ^ 1024) :
    Canonical (Float.ofModel (.ofNat n)).toModel.unpack .positive n := by
  have hstands := stands_pack (canonical_ofNat n)
  rw [h.nearest_eq, Stands, if_pos hlt] at hstands
  exact hstands

theorem representable_ten_pow {e : ℕ} (he : e ≤ 22) :
    binary64.Representable ((10 ^ e : ℕ) : ℚ) := by
  refine ⟨5 ^ e, e, ?_, ?_, ?_⟩
  · exact (Nat.pow_le_pow_right (by decide) he).trans_lt (by decide)
  · simp only [binary64]
    omega
  · rw [zpow_natCast, Nat.cast_pow, Nat.cast_pow, ← mul_pow]
    norm_num

theorem div_ofModel (a b : Float.Model) :
    Float.ofModel a / Float.ofModel b =
      Float.ofModel (.pack (div .binary64 a.unpack b.unpack)) := rfl

theorem canonical_quotient {a b : UnpackedFloat} {s t : Sign} {q p : ℚ} (ha : Canonical a s q)
    (hb : Canonical b t p) (hp : 0 < p) :
    Canonical (div .binary64 a b) (s / t) (binary64.nearest (q / p)) := by
  obtain ⟨n, f, hn, rfl, rfl⟩ := hb.exists_finite hp
  cases ha with
  | zero =>
    rw [zero_div, Format.nearest_zero]
    exact .zero _
  | @finite _ m e hpos hm he hnormal => exact canonical_div s t hpos hn e f

theorem natCast_lt_limit {k : ℕ} (h : k ≤ 10 ^ 22) : (k : ℚ) < 2 ^ 1024 := by
  calc (k : ℚ) ≤ (10 ^ 22 : ℕ) := Nat.cast_le.mpr h
    _ < 2 ^ 74 := by norm_num
    _ ≤ 2 ^ 1024 := pow_le_pow_right₀ one_le_two (by decide)

/-- Both numbers are exact. -/
theorem stands_ofScientific_small {n e : ℕ} (hn : n < 2 ^ 53) (he : e ≤ 22) :
    Stands (Float.ofScientific n true e) .positive (binary64.nearest (n / (10 ^ e : ℕ))) := by
  have htenpos : (0 : ℚ) < (10 ^ e : ℕ) := by exact_mod_cast Nat.pow_pos (by decide)
  have hnum := canonical_natFloat (representable_natCast hn) (natCast_lt_limit (by omega))
  have hden := canonical_natFloat (representable_ten_pow he)
    (natCast_lt_limit (Nat.pow_le_pow_right (by decide) he))
  have hword : n.toUInt64.toFloat = .ofModel (.ofNat n) := by
    have htoNat : n.toUInt64.toNat = n :=
      UInt64.toNat_ofNat_of_lt' (by unfold UInt64.size; omega)
    change Float.ofModel (.ofNat n.toUInt64.toNat) = _
    rw [htoNat]
  have hquotient := stands_pack (canonical_quotient hnum hden htenpos)
  have htable := exactlyRepresentablePowersOfTen_eq ⟨e, show e < 23 by omega⟩
  have hfast : Float.ofScientific n true e =
      .ofModel (.pack (div .binary64 (Float.Model.ofNat n).unpack
        (Float.Model.ofNat (10 ^ e)).unpack)) := by
    rw [Float.ofScientific, dif_pos ⟨hn, he⟩]
    simp only [if_true, hword]
    rw [← div_ofModel]
    exact congrArg _ htable
  rw [hfast]
  exact hquotient

/-- The model divides mantissas of any length. -/
theorem stands_ofScientific_large {n e : ℕ} (hn : ¬ n < 2 ^ 53) (hpos : 0 < e) (he : e ≤ 22) :
    Stands (Float.ofScientific n true e) .positive (binary64.nearest (n / (10 ^ e : ℕ))) := by
  have hnpos : 0 < n := by omega
  have hneg : Int.negOfNat e = -(e : ℤ) := Int.negOfNat_eq
  rw [Float.ofScientific, dif_neg fun h => hn h.1]
  simp only [if_true]
  rw [hneg]
  change Stands (.ofModel (.pack (ofScientific .binary64 n (-(e : ℤ))))) _ _
  have hbits : (2 : ℤ) ^ Float.Model.Format.binary64.exponentBits = 2048 := rfl
  have hscale : (-(-(e : ℤ))).toNat = e := by omega
  rw [ofScientific, dif_neg hnpos.ne', hbits, if_neg (by omega), if_neg (by omega),
    if_neg (by omega)]
  simp only [hscale]
  have hquotient := canonical_div .positive .positive hnpos
    (show 0 < 10 ^ e from Nat.pow_pos (by decide)) 0 0
  rw [zpow_zero, mul_one, mul_one] at hquotient
  exact stands_pack hquotient

/-- A decimal fraction is read as the nearest number, by a division of exact numbers. -/
theorem stands_ofScientific (n : ℕ) {e : ℕ} (hpos : 0 < e) (he : e ≤ 22) :
    Stands (Float.ofScientific n true e) .positive (binary64.nearest (n / 10 ^ e)) := by
  have hten : (10 : ℚ) ^ e = (10 ^ e : ℕ) := by rw [Nat.cast_pow, Nat.cast_ofNat]
  rw [hten]
  by_cases hn : n < 2 ^ 53
  · exact stands_ofScientific_small hn he
  · exact stands_ofScientific_large hn hpos he

end SnmpTrap.Numeral
