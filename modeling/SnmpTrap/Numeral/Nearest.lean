import Mathlib

/-! Floating-point formats with binary exponents and gradual underflow: of the numbers of a format,
the one nearest to a given number, and of two as near the one with an even significand. -/
namespace SnmpTrap.Numeral
set_option autoImplicit false
set_option maxHeartbeats 250000
set_option maxRecDepth 120000

variable {K : Type} [Field K] [LinearOrder K] [FloorRing K]

/-! ## To whole numbers -/

def roundHalfEven (x : K) : ℕ :=
  if x - ⌊x⌋₊ < 1 / 2 ∨ x - ⌊x⌋₊ = 1 / 2 ∧ ⌊x⌋₊ % 2 = 0 then ⌊x⌋₊ else ⌊x⌋₊ + 1

theorem floor_le_roundHalfEven (x : K) : ⌊x⌋₊ ≤ roundHalfEven x := by
  unfold roundHalfEven
  split <;> omega

theorem roundHalfEven_le_floor_add_one (x : K) : roundHalfEven x ≤ ⌊x⌋₊ + 1 := by
  unfold roundHalfEven
  split <;> omega

theorem roundHalfEven_cases (x : K) :
    roundHalfEven x = ⌊x⌋₊ ∧ x - ⌊x⌋₊ ≤ 1 / 2 ∨
      roundHalfEven x = ⌊x⌋₊ + 1 ∧ 1 / 2 ≤ x - ⌊x⌋₊ := by
  unfold roundHalfEven
  split
  · rename_i hdown
    exact Or.inl ⟨rfl, hdown.elim le_of_lt fun heq => heq.1.le⟩
  · rename_i hup
    exact Or.inr ⟨rfl, not_lt.mp fun hlt => hup (Or.inl hlt)⟩

variable [IsStrictOrderedRing K]

theorem roundHalfEven_natCast (n : ℕ) : roundHalfEven (n : K) = n := by
  rw [roundHalfEven, Nat.floor_natCast, sub_self, if_pos (Or.inl (by norm_num))]

theorem abs_roundHalfEven_sub_le {x : K} (h : 0 ≤ x) : |(roundHalfEven x : K) - x| ≤ 1 / 2 := by
  have hlo := Nat.floor_le h
  have hhi := Nat.lt_floor_add_one x
  obtain ⟨hround, hhalf⟩ | ⟨hround, hhalf⟩ := roundHalfEven_cases x
  all_goals
    rw [hround, abs_le]
    push_cast
    constructor <;> linarith

/-- No whole number is nearer. -/
theorem abs_roundHalfEven_sub_le_abs {x : K} (h : 0 ≤ x) (n : ℕ) :
    |(roundHalfEven x : K) - x| ≤ |(n : K) - x| := by
  have hlo := Nat.floor_le h
  have hhi := Nat.lt_floor_add_one x
  have hside : (n : K) ≤ ⌊x⌋₊ ∨ (⌊x⌋₊ : K) + 1 ≤ n := by
    obtain hle | hge := Nat.lt_or_ge ⌊x⌋₊ n
    · exact Or.inr (by exact_mod_cast hle)
    · exact Or.inl (Nat.cast_le.mpr hge)
  obtain ⟨hround, hhalf⟩ | ⟨hround, hhalf⟩ := roundHalfEven_cases x
  · rw [hround, abs_sub_comm, abs_of_nonneg (sub_nonneg.mpr hlo), le_abs]
    obtain hle | hge := hside
    · exact Or.inr (by linarith)
    · exact Or.inl (by linarith)
  · rw [hround, Nat.cast_add_one, abs_of_nonneg (by linarith), le_abs]
    obtain hle | hge := hside
    · exact Or.inr (by linarith)
    · exact Or.inl (by linarith)

theorem roundHalfEven_mono {x y : K} (h : x ≤ y) : roundHalfEven x ≤ roundHalfEven y := by
  obtain hlt | heq := (Nat.floor_mono h).lt_or_eq
  · calc roundHalfEven x ≤ ⌊x⌋₊ + 1 := roundHalfEven_le_floor_add_one x
      _ ≤ ⌊y⌋₊ := hlt
      _ ≤ roundHalfEven y := floor_le_roundHalfEven y
  · by_cases hdown : y - ⌊y⌋₊ < 1 / 2 ∨ y - ⌊y⌋₊ = 1 / 2 ∧ ⌊y⌋₊ % 2 = 0
    · -- what takes `y` down to the common floor takes `x` down as well
      have hdown' : x - ⌊x⌋₊ < 1 / 2 ∨ x - ⌊x⌋₊ = 1 / 2 ∧ ⌊x⌋₊ % 2 = 0 := by
        rw [heq]
        obtain hlt | ⟨hhalf, heven⟩ := hdown
        · exact Or.inl (by linarith)
        · obtain hlt | hsame := h.lt_or_eq
          · exact Or.inl (by linarith)
          · exact Or.inr ⟨by rw [hsame, hhalf], heven⟩
      rw [roundHalfEven, roundHalfEven, if_pos hdown, if_pos hdown', heq]
    · rw [roundHalfEven.eq_def y, if_neg hdown, ← heq]
      exact roundHalfEven_le_floor_add_one x

/-! ## To a format -/

/-- Significands of `precision` bits, whose last bit counts `2 ^ minExp` or more. -/
structure Format where
  precision : ℕ
  minExp : ℤ
  pos : 0 < precision

namespace Format
variable (f : Format)

def Representable (x : K) : Prop :=
  ∃ (m : ℕ) (e : ℤ), m < 2 ^ f.precision ∧ f.minExp ≤ e ∧ x = m * 2 ^ e

/-- The exponent of the last bit. -/
def lastPlace (x : K) : ℤ := max (Int.log 2 x + 1 - f.precision) f.minExp

def significand (x : K) : ℕ := roundHalfEven (x / 2 ^ f.lastPlace x)

def nearest (x : K) : K := f.significand x * 2 ^ f.lastPlace x

theorem lastPlace_mono {x y : K} (hx : 0 < x) (h : x ≤ y) : f.lastPlace x ≤ f.lastPlace y := by
  have hlog := Int.log_mono_right (b := 2) hx h
  unfold lastPlace
  omega

theorem two_zpow_pos (e : ℤ) : (0 : K) < 2 ^ e := zpow_pos two_pos e

theorem two_zpow_le {d e : ℤ} (h : d ≤ e) : (2 : K) ^ d ≤ 2 ^ e :=
  zpow_le_zpow_right₀ one_le_two h

theorem lt_two_zpow (x : K) : x < 2 ^ (f.lastPlace x + f.precision) := by
  have hlog := Int.lt_zpow_succ_log_self (b := 2) one_lt_two x
  rw [Nat.cast_ofNat] at hlog
  refine hlog.trans_le (two_zpow_le ?_)
  unfold lastPlace
  omega

theorem two_zpow_le_of_minExp_lt {x : K} (hx : 0 < x) (h : f.minExp < f.lastPlace x) :
    2 ^ (f.lastPlace x + f.precision - 1) ≤ x := by
  have hlog := Int.zpow_log_le_self (b := 2) one_lt_two hx
  rw [Nat.cast_ofNat] at hlog
  refine (two_zpow_le ?_).trans hlog
  unfold lastPlace at h ⊢
  omega

/-! ## Multiples of the last place -/

theorem nearest_le_multiple {x : K} {m : ℕ} (h : x ≤ m * 2 ^ f.lastPlace x) :
    f.nearest x ≤ m * 2 ^ f.lastPlace x := by
  have hpos : (0 : K) < 2 ^ f.lastPlace x := two_zpow_pos _
  have hround := roundHalfEven_mono ((div_le_iff₀ hpos).mpr h)
  rw [roundHalfEven_natCast] at hround
  exact mul_le_mul_of_nonneg_right (Nat.cast_le.mpr hround) hpos.le

theorem multiple_le_nearest {x : K} {m : ℕ} (h : m * 2 ^ f.lastPlace x ≤ x) :
    m * 2 ^ f.lastPlace x ≤ f.nearest x := by
  have hpos : (0 : K) < 2 ^ f.lastPlace x := two_zpow_pos _
  have hround := roundHalfEven_mono ((le_div_iff₀ hpos).mpr h)
  rw [roundHalfEven_natCast] at hround
  exact mul_le_mul_of_nonneg_right (Nat.cast_le.mpr hround) hpos.le

omit [IsStrictOrderedRing K] in
/-- A power of two no smaller than the last place is a multiple of it. -/
theorem two_zpow_eq_multiple {d e : ℤ} (h : e ≤ d) :
    (2 : K) ^ d = ((2 ^ (d - e).toNat : ℕ) : K) * 2 ^ e := by
  rw [Nat.cast_pow, Nat.cast_ofNat, ← zpow_natCast, Int.toNat_of_nonneg (by omega),
    ← zpow_add₀ two_ne_zero, sub_add_cancel]

theorem nearest_le_two_zpow {x : K} {d : ℤ} (hd : f.lastPlace x ≤ d) (h : x ≤ 2 ^ d) :
    f.nearest x ≤ 2 ^ d := by
  rw [two_zpow_eq_multiple hd] at h ⊢
  exact f.nearest_le_multiple h

theorem two_zpow_le_nearest {x : K} {d : ℤ} (hd : f.lastPlace x ≤ d) (h : 2 ^ d ≤ x) :
    2 ^ d ≤ f.nearest x := by
  rw [two_zpow_eq_multiple hd] at h ⊢
  exact f.multiple_le_nearest h

/-! ## What rounding keeps -/

theorem nearest_zero : f.nearest (0 : K) = 0 := by
  have hround := roundHalfEven_natCast (K := K) 0
  rw [Nat.cast_zero] at hround
  rw [nearest, significand, zero_div, hround, Nat.cast_zero, zero_mul]

theorem nearest_nonneg (x : K) : 0 ≤ f.nearest x :=
  mul_nonneg (Nat.cast_nonneg _) (two_zpow_pos _).le

/-- Rounding keeps the order: within one binade the significands keep it, and a power of two stands
between two binades. -/
theorem nearest_mono {x y : K} (hx : 0 ≤ x) (h : x ≤ y) : f.nearest x ≤ f.nearest y := by
  obtain rfl | hx := hx.eq_or_lt
  · rw [nearest_zero]
    exact f.nearest_nonneg y
  obtain hplace | hplace := (f.lastPlace_mono hx h).eq_or_lt
  · have hpos : (0 : K) < 2 ^ f.lastPlace y := two_zpow_pos _
    rw [nearest, nearest, significand, significand, hplace]
    exact mul_le_mul_of_nonneg_right
      (Nat.cast_le.mpr (roundHalfEven_mono (div_le_div_of_nonneg_right h hpos.le))) hpos.le
  · have hp := f.pos
    have hmin : f.minExp < f.lastPlace y := (le_max_right _ _).trans_lt hplace
    calc f.nearest x ≤ 2 ^ (f.lastPlace x + f.precision) :=
          f.nearest_le_two_zpow (by omega) (f.lt_two_zpow x).le
      _ ≤ 2 ^ (f.lastPlace y + f.precision - 1) := two_zpow_le (by omega)
      _ ≤ f.nearest y :=
          f.two_zpow_le_nearest (by omega) (f.two_zpow_le_of_minExp_lt (hx.trans_le h) hmin)

theorem nearest_sub_eq (x : K) : f.nearest x - x =
    ((f.significand x : K) - x / 2 ^ f.lastPlace x) * 2 ^ f.lastPlace x := by
  rw [sub_mul, div_mul_cancel₀ _ (two_zpow_pos _).ne', nearest]

/-- Above the subnormal numbers, rounding changes a number by at most its `2 ^ precision`th part. -/
theorem abs_nearest_sub_le {x : K} (h : 2 ^ (f.minExp + f.precision - 1) ≤ x) :
    |f.nearest x - x| ≤ x / 2 ^ f.precision := by
  have hx : 0 < x := (two_zpow_pos _).trans_le h
  have hpos : (0 : K) < 2 ^ f.lastPlace x := two_zpow_pos _
  have hlog : f.minExp + f.precision - 1 ≤ Int.log 2 x :=
    (Int.zpow_le_iff_le_log one_lt_two hx).mp (by rwa [Nat.cast_ofNat])
  have hplace : f.lastPlace x = Int.log 2 x + 1 - f.precision := by
    unfold lastPlace
    omega
  have hhalf : 1 / 2 * (2 : K) ^ f.lastPlace x = 2 ^ Int.log 2 x / 2 ^ f.precision := by
    rw [hplace, zpow_sub₀ two_ne_zero, zpow_add_one₀ two_ne_zero, zpow_natCast]
    ring
  have hle := Int.zpow_log_le_self (b := 2) one_lt_two hx
  rw [Nat.cast_ofNat] at hle
  have hround := abs_roundHalfEven_sub_le (div_nonneg hx.le hpos.le)
  calc |f.nearest x - x|
      = |(f.significand x : K) - x / 2 ^ f.lastPlace x| * 2 ^ f.lastPlace x := by
        rw [f.nearest_sub_eq, abs_mul, abs_of_pos hpos]
    _ ≤ 1 / 2 * 2 ^ f.lastPlace x := mul_le_mul_of_nonneg_right hround hpos.le
    _ = 2 ^ Int.log 2 x / 2 ^ f.precision := hhalf
    _ ≤ x / 2 ^ f.precision := div_le_div_of_nonneg_right hle (by positivity)

/-! ## Representable numbers -/

theorem significand_le (x : K) : f.significand x ≤ 2 ^ f.precision := by
  have hlt := f.lt_two_zpow x
  have hround := roundHalfEven_mono (x := x / 2 ^ f.lastPlace x) (y := ((2 ^ f.precision : ℕ) : K))
    (by
      rw [div_le_iff₀ (two_zpow_pos _), Nat.cast_pow, Nat.cast_ofNat, ← zpow_natCast,
        ← zpow_add₀ two_ne_zero, add_comm]
      exact hlt.le)
  rwa [roundHalfEven_natCast] at hround

theorem two_pow_le_significand {x : K} (hx : 0 < x) (h : f.minExp < f.lastPlace x) :
    2 ^ (f.precision - 1) ≤ f.significand x := by
  have hp := f.pos
  have hbinade := f.two_zpow_le_of_minExp_lt hx h
  have hround := roundHalfEven_mono (x := ((2 ^ (f.precision - 1) : ℕ) : K))
    (y := x / 2 ^ f.lastPlace x) (by
      rw [le_div_iff₀ (two_zpow_pos _), Nat.cast_pow, Nat.cast_ofNat, ← zpow_natCast,
        ← zpow_add₀ two_ne_zero]
      refine le_of_eq_of_le ?_ hbinade
      congr 1
      omega)
  rwa [roundHalfEven_natCast] at hround

/-- No number of the format is nearer. One with a smaller last place is below the binade of `x`, and
the power of two in between is nearer. -/
theorem abs_nearest_sub_le_abs {x y : K} (hx : 0 ≤ x) (hy : f.Representable y) :
    |f.nearest x - x| ≤ |y - x| := by
  obtain rfl | hx := hx.eq_or_lt
  · rw [nearest_zero, sub_self, abs_zero]
    exact abs_nonneg _
  have hpos : (0 : K) < 2 ^ f.lastPlace x := two_zpow_pos _
  have hmultiple : ∀ n : ℕ, |f.nearest x - x| ≤ |(n : K) * 2 ^ f.lastPlace x - x| := by
    intro n
    have hround := abs_roundHalfEven_sub_le_abs (div_nonneg hx.le hpos.le) n
    have hscale : (n : K) * 2 ^ f.lastPlace x - x =
        ((n : K) - x / 2 ^ f.lastPlace x) * 2 ^ f.lastPlace x := by
      rw [sub_mul, div_mul_cancel₀ _ hpos.ne']
    rw [f.nearest_sub_eq, hscale, abs_mul, abs_mul]
    exact mul_le_mul_of_nonneg_right hround (abs_nonneg _)
  obtain ⟨m, e, hm, he, rfl⟩ := hy
  obtain hplace | hplace := le_or_gt (f.lastPlace x) e
  · rw [two_zpow_eq_multiple hplace, ← mul_assoc, ← Nat.cast_mul]
    exact hmultiple _
  · have hp := f.pos
    have hbinade := f.two_zpow_le_of_minExp_lt hx (he.trans_lt hplace)
    have hbelow : (m : K) * 2 ^ e ≤ 2 ^ (f.lastPlace x + f.precision - 1) := by
      calc (m : K) * 2 ^ e ≤ 2 ^ f.precision * 2 ^ e :=
            mul_le_mul_of_nonneg_right (by exact_mod_cast hm.le) (two_zpow_pos e).le
        _ = 2 ^ (f.precision + e : ℤ) := by rw [zpow_add₀ two_ne_zero, zpow_natCast]
        _ ≤ 2 ^ (f.lastPlace x + f.precision - 1) := two_zpow_le (by omega)
    refine (hmultiple (2 ^ (f.lastPlace x + f.precision - 1 - f.lastPlace x).toNat)).trans ?_
    rw [← two_zpow_eq_multiple (by omega), abs_sub_comm, abs_of_nonneg (sub_nonneg.mpr hbinade),
      abs_sub_comm, abs_of_nonneg (sub_nonneg.mpr (hbelow.trans hbinade))]
    linarith

/-- A number of the format stays as it is. -/
theorem Representable.nearest_eq {f : Format} {x : K} (h : f.Representable x) :
    f.nearest x = x := by
  have hx : 0 ≤ x := by
    obtain ⟨m, e, _, _, rfl⟩ := h
    exact mul_nonneg (Nat.cast_nonneg m) (two_zpow_pos e).le
  have hle := f.abs_nearest_sub_le_abs hx h
  rw [sub_self, abs_zero] at hle
  exact sub_eq_zero.mp (abs_nonpos_iff.mp hle)

/-! ## A quotient scaled back -/

/-- What is left of `n` after a division by `d` and a multiplication by it. -/
def scaledBack (n d : ℕ) : K := f.nearest (f.nearest ((n : K) / (d : K)) * (d : K))

theorem scaledBack_nonneg (n d : ℕ) : 0 ≤ f.scaledBack (K := K) n d := f.nearest_nonneg _

theorem scaledBack_mono {m n d : ℕ} (h : m ≤ n) :
    f.scaledBack (K := K) m d ≤ f.scaledBack n d := by
  have hd : (0 : K) ≤ d := Nat.cast_nonneg d
  have hquotient : (m : K) / d ≤ n / d := div_le_div_of_nonneg_right (Nat.cast_le.mpr h) hd
  have hinner := f.nearest_mono (div_nonneg (Nat.cast_nonneg m) hd) hquotient
  exact f.nearest_mono (mul_nonneg (f.nearest_nonneg _) hd) (mul_le_mul_of_nonneg_right hinner hd)

theorem scaledBack_eq {n d : ℕ} (hd : 0 < d) (hquotient : f.Representable ((n : K) / d))
    (hn : f.Representable (n : K)) : f.scaledBack (K := K) n d = n := by
  rw [scaledBack, hquotient.nearest_eq, div_mul_cancel₀ _ (Nat.cast_ne_zero.mpr hd.ne'),
    hn.nearest_eq]

omit [LinearOrder K] [FloorRing K] [IsStrictOrderedRing K] in
theorem representable_two_zpow {e : ℤ} (h : f.minExp ≤ e) : f.Representable ((2 : K) ^ e) :=
  ⟨1, e, Nat.one_lt_two_pow f.pos.ne', h, by rw [Nat.cast_one, one_mul]⟩

/-- The first rounding leaves at most twice `n` to the second. -/
theorem abs_scaledBack_sub_le {n d : ℕ} (hd : 0 < d)
    (h : (2 : K) ^ (f.minExp + f.precision - 1) ≤ n / d) :
    |f.scaledBack (K := K) n d - n| ≤ 3 * n / 2 ^ f.precision := by
  have hp := f.pos
  have hdone : (1 : K) ≤ d := by exact_mod_cast hd
  have hdpos : (0 : K) < d := by exact_mod_cast hd
  have hscaled : (n : K) / d * d = n := div_mul_cancel₀ _ hdpos.ne'
  have hfirst : |f.nearest ((n : K) / d) * d - n| ≤ n / 2 ^ f.precision := by
    calc |f.nearest ((n : K) / d) * d - n| = |f.nearest ((n : K) / d) - n / d| * d := by
          rw [← abs_of_pos hdpos, ← abs_mul, abs_of_pos hdpos, sub_mul, hscaled]
      _ ≤ n / d / 2 ^ f.precision * d :=
          mul_le_mul_of_nonneg_right (f.abs_nearest_sub_le h) hdpos.le
      _ = n / 2 ^ f.precision := by rw [div_right_comm, div_mul_cancel₀ _ hdpos.ne']
  have hnormal : (2 : K) ^ (f.minExp + f.precision - 1) ≤ f.nearest ((n : K) / d) * d := by
    have hkept := f.nearest_mono (two_zpow_pos _).le h
    rw [(f.representable_two_zpow (by omega)).nearest_eq] at hkept
    exact hkept.trans (le_mul_of_one_le_right (f.nearest_nonneg _) hdone)
  have hpart : (n : K) / 2 ^ f.precision ≤ n :=
    div_le_self (Nat.cast_nonneg n) (one_le_pow₀ one_le_two)
  have hdouble : f.nearest ((n : K) / d) * d ≤ 2 * n := by
    have hupper := (abs_le.mp hfirst).2
    linarith
  have hsecond := (f.abs_nearest_sub_le hnormal).trans
    (div_le_div_of_nonneg_right hdouble (by positivity))
  calc |f.scaledBack (K := K) n d - n|
      ≤ |f.scaledBack (K := K) n d - f.nearest ((n : K) / d) * d| +
          |f.nearest ((n : K) / d) * d - n| := abs_sub_le _ _ _
    _ ≤ 2 * n / 2 ^ f.precision + n / 2 ^ f.precision := add_le_add hsecond hfirst
    _ = 3 * n / 2 ^ f.precision := by ring

/-- As long as both roundings together stay below 1, at most 1 is lost and nothing is won. -/
theorem floor_scaledBack {n d : ℕ} (hd : 0 < d)
    (h : (2 : K) ^ (f.minExp + f.precision - 1) ≤ n / d) (hsmall : 3 * n < 2 ^ f.precision) :
    ⌊f.scaledBack (K := K) n d⌋₊ = n ∨ ⌊f.scaledBack (K := K) n d⌋₊ + 1 = n := by
  have herror := f.abs_scaledBack_sub_le hd h
  have hone : 3 * (n : K) / 2 ^ f.precision < 1 := by
    rw [div_lt_one (by positivity)]
    exact_mod_cast hsmall
  obtain ⟨hlower, hupper⟩ := abs_le.mp herror
  have hfloor : ⌊f.scaledBack (K := K) n d⌋₊ < n + 1 := by
    refine (Nat.floor_lt (f.scaledBack_nonneg n d)).mpr ?_
    push_cast
    linarith
  have hkept : n ≤ ⌊f.scaledBack (K := K) n d⌋₊ + 1 := by
    have hlt := Nat.lt_floor_add_one (f.scaledBack (K := K) n d)
    have hreal : (n : K) < ((⌊f.scaledBack (K := K) n d⌋₊ + 1 + 1 : ℕ) : K) := by
      push_cast
      linarith
    have := Nat.cast_lt.mp hreal
    omega
  omega

end Format
end SnmpTrap.Numeral
