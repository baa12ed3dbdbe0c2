import SnmpTrap.Rust.Numerals

/-! Decimal text of integers: what `Display` prints is read back by `from_str`, and it is the one
numeral without zeros in front. -/
namespace SnmpTrap.Rust
open Numeral
set_option autoImplicit false
set_option maxHeartbeats 250000
set_option maxRecDepth 120000

/-! ## The numeral of a number -/

theorem isDigit_digitChar : ∀ d < 10, IsDigit (Nat.digitChar d) := by
  unfold IsDigit
  decide

theorem isDecimal_concat {ds : List Char} {c : Char} {n : ℕ} (hds : IsDecimal ds n)
    (hc : IsDigit c) : IsDecimal (ds ++ [c]) (10 * n + (c.toNat - 48)) := by
  obtain ⟨_, hdigits, hvalue⟩ := hds
  refine ⟨by simp, ?_, ?_⟩
  · rw [List.forall_mem_append, List.forall_mem_singleton]
    exact ⟨hdigits, hc⟩
  · rw [List.map_append, List.map_singleton, ofDigits_concat, hvalue, Nat.mul_comm]

theorem isDecimal_singleton {c : Char} (hc : IsDigit c) : IsDecimal [c] (c.toNat - 48) := by
  refine ⟨by simp, ?_, ofDigits_singleton 10 _⟩
  rw [List.forall_mem_singleton]
  exact hc

theorem toNat_digitChar {d : ℕ} (h : d < 10) : (Nat.digitChar d).toNat - 48 = d :=
  Nat.toNat_digitChar_sub_48_of_lt_ten h

/-- `Display` prints a numeral of the number. -/
theorem isDecimal_repr (n : ℕ) : IsDecimal n.repr.toList n := by
  induction n using Nat.strong_induction_on with
  | _ n ih =>
    rw [Nat.toList_repr]
    obtain hlt | hge := Nat.lt_or_ge n 10
    · have hone := isDecimal_singleton (isDigit_digitChar n hlt)
      rw [toNat_digitChar hlt] at hone
      rwa [Nat.toDigits_of_lt_base hlt]
    · have hmod : n % 10 < 10 := Nat.mod_lt n (by decide)
      have hfront := ih (n / 10) (by omega)
      rw [Nat.toList_repr] at hfront
      have hall := isDecimal_concat hfront (isDigit_digitChar (n % 10) hmod)
      rw [toNat_digitChar hmod, Nat.div_add_mod] at hall
      rwa [Nat.toDigits_of_base_le (by decide) hge]

theorem repr_ne_nil (n : ℕ) : n.repr.toList ≠ [] := (isDecimal_repr n).1

theorem isDigit_of_mem_repr {n : ℕ} : ∀ c ∈ n.repr.toList, IsDigit c := (isDecimal_repr n).2.1

/-! ## No zeros in front -/

/-- A zero stands in front only where it is all there is. -/
def Canonical (cs : List Char) : Prop := cs.head? = some '0' → cs.length = 1

theorem digitChar_of_isDigit {c : Char} (h : IsDigit c) : Nat.digitChar (c.toNat - 48) = c := by
  unfold IsDigit at h
  have hall : ∀ d < 10, Nat.digitChar d = Char.ofNat (d + 48) := by decide
  rw [hall _ (by omega), Nat.sub_add_cancel h.1, Char.ofNat_toNat]

theorem Canonical.front {ds : List Char} {c : Char} (h : Canonical (ds ++ [c])) (hne : ds ≠ []) :
    ds.head? ≠ some '0' := by
  intro hzero
  have hone := h (by rw [List.head?_append_of_ne_nil _ hne, hzero])
  rw [List.length_append, List.length_singleton] at hone
  have := List.length_pos_iff.mpr hne
  omega

theorem pos_of_isDecimal {cs : List Char} {n : ℕ} (h : IsDecimal cs n)
    (hzero : cs.head? ≠ some '0') : 0 < n := by
  obtain ⟨hne, hdigits, rfl⟩ := h
  cases cs with
  | nil => exact absurd rfl hne
  | cons c cs =>
    have hc : IsDigit c := hdigits c (by simp)
    have hne48 : c.toNat ≠ 48 := by
      intro h48
      apply hzero
      rw [List.head?_cons, ← Char.ofNat_toNat c, h48]
    unfold IsDigit at hc
    rw [List.map_cons, ofDigits_cons]
    have := Nat.mul_pos (show 0 < c.toNat - 48 by omega)
      (Nat.pow_pos (n := (cs.map fun c => c.toNat - 48).length) (show 0 < 10 by decide))
    omega

/-- A numeral without zeros in front is the one that `Display` prints. -/
theorem eq_repr_of_canonical : ∀ {cs : List Char} {n : ℕ}, IsDecimal cs n → Canonical cs →
    cs = n.repr.toList := by
  intro cs
  induction cs using List.reverseRecOn with
  | nil => exact fun h _ => absurd rfl h.1
  | append_singleton ds c ih =>
    intro n h hcanonical
    obtain ⟨_, hdigits, rfl⟩ := h
    have hc : IsDigit c := hdigits c (by simp)
    have hvalue : c.toNat - 48 < 10 := by
      unfold IsDigit at hc
      omega
    rw [List.map_append, List.map_singleton, ofDigits_concat, Nat.toList_repr]
    by_cases hds : ds = []
    · subst hds
      rw [List.map_nil, ofDigits_nil, Nat.zero_mul, Nat.zero_add,
        Nat.toDigits_of_lt_base hvalue, digitChar_of_isDigit hc]
      rfl
    · have hfront : IsDecimal ds (ofDigits 10 (ds.map fun c => c.toNat - 48)) :=
        ⟨hds, fun d hd => hdigits d (by simp [hd]), rfl⟩
      have hhead := hcanonical.front hds
      have hpos := pos_of_isDecimal hfront hhead
      have hrepr := ih hfront fun hzero => absurd hzero hhead
      rw [Nat.toList_repr] at hrepr
      rw [Nat.mul_comm, ← Nat.toDigits_append_toDigits (by decide) hpos hvalue,
        Nat.toDigits_of_lt_base hvalue, digitChar_of_isDigit hc, ← hrepr]

theorem canonical_repr (n : ℕ) : Canonical n.repr.toList := by
  intro hzero
  obtain hlt | hge := Nat.lt_or_ge n 10
  · rw [Nat.toList_repr, Nat.toDigits_of_lt_base hlt]
    rfl
  · -- the digit in front of a longer numeral is that of a positive number
    have hfirst : ∀ m, 0 < m → (Nat.toDigits 10 m).head? ≠ some '0' := by
      intro m
      induction m using Nat.strong_induction_on with
      | _ m ih =>
        intro hm
        obtain hlt | hge := Nat.lt_or_ge m 10
        · rw [Nat.toDigits_of_lt_base hlt, List.head?_cons]
          have hall : ∀ d < 10, 0 < d → some (Nat.digitChar d) ≠ some '0' := by decide
          exact hall m hlt hm
        · rw [Nat.toDigits_of_base_le (by decide) hge,
            List.head?_append_of_ne_nil _ Nat.toDigits_ne_nil]
          exact ih (m / 10) (by omega) (by omega)
    rw [Nat.toList_repr] at hzero
    exact absurd hzero (hfirst n (by omega))

theorem IsDecimal.unique {cs : List Char} {m n : ℕ} (hm : IsDecimal cs m) (hn : IsDecimal cs n) :
    m = n := hm.2.2.symm.trans hn.2.2

/-! ## Parsing what was printed -/

def parseU16 (cs : List Char) : Except IntErrorKind UInt16 :=
  (parseUnsigned 10 (2 ^ 16 - 1) cs).map UInt16.ofNat

theorem parseU16_ok_iff {cs : List Char} {n : UInt16} :
    parseU16 cs = .ok n ↔
      IsDecimal cs n.toNat ∨ ∃ ds, cs = '+' :: ds ∧ IsDecimal ds n.toNat := by
  have hlt := n.toNat_lt
  have hmap : parseU16 cs = .ok n ↔ parseUnsigned 10 (2 ^ 16 - 1) cs = .ok n.toNat := by
    rw [parseU16]
    cases h : parseUnsigned 10 (2 ^ 16 - 1) cs with
    | error e => simp [Except.map]
    | ok m =>
      have hm := ((parseUnsigned_ok_iff (by decide)).mp h).2
      simp only [Except.map, Except.ok.injEq, ← UInt16.toNat_inj, UInt16.toNat_ofNat']
      omega
  rw [hmap, parseUnsigned_ok_iff (by decide)]
  simp only [denotes_ten_iff]
  exact and_iff_left (by omega)

theorem parseU16_toString (n : UInt16) : parseU16 (toString n).toList = .ok n :=
  parseU16_ok_iff.mpr (Or.inl (isDecimal_repr n.toNat))

end SnmpTrap.Rust
