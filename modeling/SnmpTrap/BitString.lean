import SnmpTrap.Numeral.Bits
import SnmpTrap.VarbindBounds

/-! BITS values: `parse_bits` returns the least bit string of the set of positions in its text. -/
namespace SnmpTrap
open Rust Numeral
set_option autoImplicit false
set_option maxHeartbeats 250000
set_option maxRecDepth 120000

/-! ## The loop over the positions -/

theorem setBit_bits {out out' : List UInt8} {p : UInt32} (h : setBit out p = .ok out') (k : ℕ) :
    bitAt out' k = (bitAt out k || decide (p.toNat = k)) := by
  obtain ⟨byte, hbyte, h⟩ := Outcome.bind_ok_iff.mp h
  cases h
  exact bitAt_set (Outcome.index_ok_iff.mp hbyte) k

def positionSet (positions : List UInt32) : Set ℕ := {k | ∃ p ∈ positions, p.toNat = k}

/-- The loop invariant: the bits so far and those of the positions to come. -/
theorem setBits_bits {out out' : List UInt8} {positions : List UInt32}
    (h : setBits out positions = .ok out') (k : ℕ) :
    bitAt out' k = true ↔ bitAt out k = true ∨ k ∈ positionSet positions := by
  induction positions generalizing out with
  | nil =>
    cases h
    simp [positionSet]
  | cons p positions ih =>
    obtain ⟨next, hnext, h⟩ := Outcome.bind_ok_iff.mp h
    rw [ih h, setBit_bits hnext, Bool.or_eq_true, decide_eq_true_iff, or_assoc]
    simp [positionSet]

theorem setBits_isLeastBits {out : List UInt8} {positions : List UInt32} {max : UInt32}
    (hmax : positions.max? = some max)
    (h : setBits (List.replicate (max.toNat / 8 + 1) 0) positions = .ok out) :
    IsLeastBits (positionSet positions) out := by
  have hlen : out.length = max.toNat / 8 + 1 := by rw [setBits_length h, List.length_replicate]
  have hbits : ∀ k, bitAt out k = true ↔ k ∈ positionSet positions := by
    intro k
    rw [setBits_bits h, bitAt_replicate_zero]
    simp
  refine ⟨hbits, ?_⟩
  rintro b hlast rfl
  -- the greatest position is in the last octet
  have hbit := (hbits max.toNat).mpr ⟨max, List.max?_mem hmax, rfl⟩
  rw [List.getLast?_eq_getElem?, hlen, Nat.add_sub_cancel] at hlast
  rw [bitAt, List.getD_eq_getElem?_getD, hlast, Option.getD_some, UInt8.toNat_zero,
    Nat.zero_testBit] at hbit
  cases hbit

/-! ## The text -/

/-- The nonempty pieces between commas and white space. -/
def bitTokens (raw : String) : List (List Char) :=
  (split (fun c => c == ',' || isWhitespace c) raw.toList).filter (· ≠ [])

/-- The tokens are read as these positions, in order. -/
def Positions (raw : String) (positions : List UInt32) : Prop :=
  List.Forall₂ (fun tok p => parseU32 tok = .ok p) (bitTokens raw) positions

theorem positions_iff_mapM {raw : String} {positions : List UInt32} :
    Positions raw positions ↔ (bitTokens raw).mapM parseU32 = .ok positions :=
  Outcome.mapM_ok_iff.symm

/-- A text that trims to nothing has no tokens. -/
theorem bitTokens_of_trim {raw : String} (h : trim raw.toList = []) : bitTokens raw = [] := by
  have hall := trim_eq_nil h
  rw [bitTokens, List.filter_eq_nil_iff]
  intro piece hpiece
  cases piece with
  | nil => simp
  | cons c cs =>
    have hsep := split_no_sep _ _ _ hpiece c (by simp)
    have hmem := split_subset _ _ _ hpiece c (by simp)
    rw [hall c hmem, Bool.or_true] at hsep
    cases hsep

theorem Positions.exists_of_mem {raw : String} {positions : List UInt32}
    (h : Positions raw positions) {tok : List Char} (htok : tok ∈ bitTokens raw) :
    ∃ p, parseU32 tok = .ok p := by
  obtain ⟨i, hi, rfl⟩ := List.mem_iff_getElem.mp htok
  have hi' : i < positions.length := by
    rw [← List.Forall₂.length_eq h]
    exact hi
  exact ⟨_, List.Forall₂.get h hi hi'⟩

/-- What `parse_bits` does with the positions it has read. -/
def setPositions (positions : List UInt32) : Outcome String (List UInt8) :=
  if positions = [] then .ok []
  else do
    let max ← Outcome.expect "called `Option::unwrap()` on a `None` value" positions.max?
    if maxBitPosition < max then
      Outcome.fail s!"BITS position {max} exceeds maximum {maxBitPosition}"
    else setBits (List.replicate (max.toNat / 8 + 1) 0) positions

theorem parseBits_of_positions {raw : String} {positions : List UInt32}
    (h : Positions raw positions) : parseBits raw = setPositions positions := by
  unfold parseBits
  by_cases htrim : trim raw.toList = []
  · rw [Positions, bitTokens_of_trim htrim, List.forall₂_nil_left_iff] at h
    rw [if_pos htrim, h]
    rfl
  · rw [if_neg htrim]
    simp only
    rw [← bitTokens, positions_iff_mapM.mp h]
    rfl

theorem exists_positions {raw : String} {out : List UInt8} (h : parseBits raw = .ok out) :
    ∃ positions, Positions raw positions := by
  unfold parseBits at h
  by_cases htrim : trim raw.toList = []
  · refine ⟨[], ?_⟩
    rw [Positions, bitTokens_of_trim htrim]
    exact .nil
  · rw [if_neg htrim] at h
    obtain ⟨positions, hpositions, _⟩ := Outcome.bind_ok_iff.mp h
    refine ⟨positions, positions_iff_mapM.mpr ?_⟩
    exact Outcome.ofExcept_ok_iff.mp (Outcome.mapErr_ok_iff.mp hpositions)

/-! ## The value -/

theorem max?_congr {ps qs : List UInt32} (h : ∀ p, p ∈ ps ↔ p ∈ qs) : ps.max? = qs.max? := by
  cases hmax : qs.max? with
  | none =>
    rw [List.max?_eq_none_iff] at hmax ⊢
    rw [List.eq_nil_iff_forall_not_mem] at hmax ⊢
    intro p
    rw [h]
    exact hmax p
  | some max =>
    rw [List.max?_eq_some_iff] at hmax ⊢
    exact ⟨(h max).mpr hmax.1, fun p hp => hmax.2 p ((h p).mp hp)⟩

theorem setPositions_eq {positions : List UInt32} {max : UInt32}
    (hmax : positions.max? = some max) :
    setPositions positions =
      if maxBitPosition < max then
        Outcome.fail s!"BITS position {max} exceeds maximum {maxBitPosition}"
      else setBits (List.replicate (max.toNat / 8 + 1) 0) positions := by
  have hne : positions ≠ [] := by
    rintro rfl
    cases hmax
  rw [setPositions, if_neg hne, hmax]
  rfl

theorem setPositions_fail {positions : List UInt32} {max : UInt32}
    (hmax : positions.max? = some max) (h : 65535 < max.toNat) :
    setPositions positions =
      Outcome.fail s!"BITS position {max} exceeds maximum {maxBitPosition}" := by
  have hcap : maxBitPosition < max := by
    rw [UInt32.lt_iff_toNat_lt]
    exact h
  rw [setPositions_eq hmax, if_pos hcap]

theorem le_max {positions : List UInt32} {max p : UInt32} (hmax : positions.max? = some max)
    (hp : p ∈ positions) : p.toNat ≤ max.toNat :=
  UInt32.le_iff_toNat_le.mp ((List.max?_eq_some_iff.mp hmax).2 p hp)

theorem setPositions_ok {positions : List UInt32} {max : UInt32}
    (hmax : positions.max? = some max) (h : max.toNat ≤ 65535) :
    ∃ out, setPositions positions = .ok out ∧ out.length = max.toNat / 8 + 1 ∧
      IsLeastBits (positionSet positions) out := by
  have hcap : ¬ maxBitPosition < max := by
    rw [UInt32.lt_iff_toNat_lt]
    exact Nat.not_lt.mpr h
  obtain ⟨out, hout⟩ := exists_setBits (List.replicate (max.toNat / 8 + 1) 0) positions (by
    intro p hp
    rw [List.length_replicate]
    have hle := le_max hmax hp
    omega)
  rw [setPositions_eq hmax, if_neg hcap]
  refine ⟨out, hout, ?_, setBits_isLeastBits hmax hout⟩
  rw [setBits_length hout, List.length_replicate]

theorem positionSet_inj {ps qs : List UInt32} (h : positionSet ps = positionSet qs) (p : UInt32) :
    p ∈ ps ↔ p ∈ qs := by
  have hmem : ∀ rs : List UInt32, p ∈ rs ↔ p.toNat ∈ positionSet rs := by
    intro rs
    simp [positionSet, UInt32.toNat_inj]
  rw [hmem ps, hmem qs, h]

/-- Only the set of positions counts, for the value and for the error. -/
theorem setPositions_congr {ps qs : List UInt32} (h : ∀ p, p ∈ ps ↔ p ∈ qs) :
    setPositions ps = setPositions qs := by
  have hmaxes := max?_congr h
  cases hmax : qs.max? with
  | none =>
    rw [hmax] at hmaxes
    rw [List.max?_eq_none_iff.mp hmaxes, List.max?_eq_none_iff.mp hmax]
  | some max =>
    rw [hmax] at hmaxes
    by_cases hcap : 65535 < max.toNat
    · rw [setPositions_fail hmaxes hcap, setPositions_fail hmax hcap]
    · obtain ⟨out, hout, _, hleast⟩ := setPositions_ok hmaxes (Nat.le_of_not_lt hcap)
      obtain ⟨out', hout', _, hleast'⟩ := setPositions_ok hmax (Nat.le_of_not_lt hcap)
      have hset : positionSet ps = positionSet qs := by simp only [positionSet, h]
      rw [hset] at hleast
      rw [hout, hout', hleast.unique hleast']

theorem isLeastBits_of_ok {positions : List UInt32} {out : List UInt8}
    (h : setPositions positions = .ok out) : IsLeastBits (positionSet positions) out := by
  cases hmax : positions.max? with
  | none =>
    rw [List.max?_eq_none_iff] at hmax
    subst hmax
    cases h
    exact ⟨fun k => by simp [positionSet, bitAt], by simp⟩
  | some max =>
    by_cases hcap : 65535 < max.toNat
    · rw [setPositions_fail hmax hcap] at h
      exact absurd h (Outcome.fail_ne_ok _ _)
    · obtain ⟨out', hout', _, hleast⟩ := setPositions_ok hmax (Nat.le_of_not_lt hcap)
      rw [hout'] at h
      cases h
      exact hleast

theorem setPositions_over {positions : List UInt32} (h : ∃ p ∈ positions, 65535 < p.toNat) :
    ∃ e, setPositions positions = Outcome.fail e := by
  obtain ⟨p, hp, hover⟩ := h
  cases hmax : positions.max? with
  | none =>
    rw [List.max?_eq_none_iff.mp hmax] at hp
    cases hp
  | some max => exact ⟨_, setPositions_fail hmax (hover.trans_le (le_max hmax hp))⟩

theorem setPositions_within {positions : List UInt32} (h : ∀ p ∈ positions, p.toNat ≤ 65535) :
    ∃ out, setPositions positions = .ok out ∧
      (∀ k < 8 * out.length, bitAt out k = true ↔ ∃ p ∈ positions, p.toNat = k) ∧
      (positions = [] → out = []) ∧
      (∀ max, positions.max? = some max → out.length = max.toNat / 8 + 1 ∧
        ∃ last, out.getLast? = some last ∧ last ≠ 0) ∧
      ∀ p ∈ positions, p.toNat / 8 < out.length ∧ p.toNat % 8 ≤ 7 ∧ 7 - p.toNat % 8 < 8 := by
  cases hmax : positions.max? with
  | none =>
    rw [List.max?_eq_none_iff] at hmax
    subst hmax
    exact ⟨[], rfl, by simp, fun _ => rfl, by simp, by simp⟩
  | some max =>
    obtain ⟨out, hout, hlen, hleast⟩ := setPositions_ok hmax (h max (List.max?_mem hmax))
    refine ⟨out, hout, fun k _ => hleast.bit k, ?_, ?_, ?_⟩
    · rintro rfl
      cases hmax
    · rintro max' hmax'
      cases hmax'
      have hne : out ≠ [] := List.ne_nil_of_length_pos (by omega)
      have hlast := List.getLast?_eq_some_getLast hne
      exact ⟨hlen, _, hlast, hleast.last _ hlast⟩
    · intro p hp
      have hle := le_max hmax hp
      omega

theorem parseBits_bad_token {raw : String}
    (h : ∃ tok ∈ bitTokens raw, ∀ p, parseU32 tok ≠ .ok p) :
    ∃ e, parseBits raw = Outcome.fail e := by
  obtain ⟨tok, htok, hbad⟩ := h
  obtain ⟨out, hout⟩ | hfail := (safe_parseBits raw).cases
  · obtain ⟨positions, hpositions⟩ := exists_positions hout
    obtain ⟨p, hp⟩ := hpositions.exists_of_mem htok
    exact absurd hp (hbad p)
  · exact hfail

/-- **`parse_bits` computes the characteristic bit string** of the positions in its text. -/
theorem parseBits_characteristic (raw : String) :
    (parseBits raw).Safe ∧
    ((∃ tok ∈ bitTokens raw, ∀ p, parseU32 tok ≠ .ok p) → ∃ e, parseBits raw = Outcome.fail e) ∧
    ∀ positions, Positions raw positions →
      ((∃ p ∈ positions, 65535 < p.toNat) → ∃ e, parseBits raw = Outcome.fail e) ∧
      ((∀ p ∈ positions, p.toNat ≤ 65535) → ∃ out, parseBits raw = .ok out ∧
        (∀ k < 8 * out.length, bitAt out k = true ↔ ∃ p ∈ positions, p.toNat = k) ∧
        (positions = [] → out = []) ∧
        (∀ max, positions.max? = some max → out.length = max.toNat / 8 + 1 ∧
          ∃ last, out.getLast? = some last ∧ last ≠ 0) ∧
        ∀ p ∈ positions, p.toNat / 8 < out.length ∧ p.toNat % 8 ≤ 7 ∧ 7 - p.toNat % 8 < 8) ∧
      ∀ raw' positions', Positions raw' positions' →
        ((∀ p, p ∈ positions ↔ p ∈ positions') → parseBits raw = parseBits raw') ∧
        ∀ out, parseBits raw = .ok out → parseBits raw' = .ok out →
          ∀ p, p ∈ positions ↔ p ∈ positions' := by
  refine ⟨safe_parseBits raw, parseBits_bad_token, ?_⟩
  intro positions hpositions
  rw [parseBits_of_positions hpositions]
  refine ⟨setPositions_over, setPositions_within, ?_⟩
  intro raw' positions' hpositions'
  rw [parseBits_of_positions hpositions']
  refine ⟨setPositions_congr, ?_⟩
  intro out hout hout'
  exact positionSet_inj ((isLeastBits_of_ok hout).injective (isLeastBits_of_ok hout'))

theorem parseBits_characteristic_repeated :
    ∃ out, parseBits "8, 0 1,8" = .ok out ∧ out.length = 2 ∧
      ∀ k < 8 * out.length, bitAt out k = true ↔ ∃ p ∈ [8, 0, 1, 8], UInt32.toNat p = k := by
  have hpositions : Positions "8, 0 1,8" [8, 0, 1, 8] :=
    positions_iff_mapM.mpr (by decide +kernel)
  obtain ⟨_, _, hread⟩ := parseBits_characteristic "8, 0 1,8"
  obtain ⟨_, hok, _⟩ := hread _ hpositions
  obtain ⟨out, hout, hbits, _, hlen, _⟩ := hok (by simp)
  exact ⟨out, hout, (hlen 8 rfl).1, hbits⟩

end SnmpTrap
