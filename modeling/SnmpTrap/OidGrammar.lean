import SnmpTrap.OidTrip
import SnmpTrap.Rust.Numerals

/-! The grammar of `parse_oid`. The arcs go through `u32::from_str`, which reads a `+` in front of
the digits as well. -/
namespace SnmpTrap
open Rust Numeral
set_option autoImplicit false
set_option maxHeartbeats 250000
set_option maxRecDepth 120000

/-! ## Arcs -/

/-- Digits for a number of 32 bits, leading zeros allowed. -/
def UnsignedArc (tok : List Char) (n : UInt32) : Prop := IsDecimal tok n.toNat

/-- The same, or behind one `+`. -/
def PlusArc (tok : List Char) (n : UInt32) : Prop :=
  UnsignedArc tok n ∨ ∃ ds, tok = '+' :: ds ∧ UnsignedArc ds n

theorem isArc_iff (tok : List Char) (n : UInt32) : IsArc tok n ↔ PlusArc tok n := by
  rw [IsArc, parseU32_ok_iff, PlusArc, UnsignedArc]
  simp only [denotes_ten_iff, UnsignedArc]
  refine and_iff_right_of_imp ?_
  rintro (h | ⟨ds, rfl, _⟩)
  · exact h.1
  · simp

theorem isDigit_ne_dot {c : Char} (h : IsDigit c) : (c == '.') = false := by
  rw [beq_eq_false_iff_ne]
  rintro rfl
  exact absurd h.1 (by decide)

theorem plusArc_no_dot {tok : List Char} {n : UInt32} (h : PlusArc tok n) :
    ∀ c ∈ tok, (c == '.') = false := by
  intro c hc
  obtain ⟨_, hdigits, _⟩ | ⟨ds, rfl, _, hdigits, _⟩ := h
  · exact isDigit_ne_dot (hdigits c hc)
  · obtain rfl | hc := List.mem_cons.mp hc
    · rfl
    · exact isDigit_ne_dot (hdigits c hc)

theorem forall₂_plusArc_no_dot {toks : List (List Char)} {arcs : List UInt32}
    (h : List.Forall₂ PlusArc toks arcs) : ∀ tok ∈ toks, ∀ c ∈ tok, (c == '.') = false := by
  induction h with
  | nil => simp
  | cons hhead _ ih =>
    rw [List.forall_mem_cons]
    exact ⟨plusArc_no_dot hhead, ih⟩

/-! ## The whole text -/

/-- Any number of dots, then two or more arcs with a dot between each two, in range. -/
def DottedOid (arc : List Char → UInt32 → Prop) (s : String) (arcs : List UInt32) : Prop :=
  ∃ dots toks, s.toList = List.replicate dots '.' ++ join '.' toks ∧
    List.Forall₂ arc toks arcs ∧ ArcsInRange arcs

/-- A text is its leading dots and its tokens, joined. -/
theorem toList_eq_dots (s : String) :
    ∃ dots, s.toList = List.replicate dots '.' ++ join '.' (oidTokens s) := by
  refine ⟨(s.toList.takeWhile (· == '.')).length, ?_⟩
  have hdots : s.toList.takeWhile (· == '.') =
      List.replicate (s.toList.takeWhile (· == '.')).length '.' := by
    apply List.eq_replicate_of_mem
    intro c hc
    have h := List.mem_takeWhile_imp hc
    simpa using h
  rw [oidTokens, join_split, ← hdots]
  exact List.takeWhile_append_dropWhile.symm

theorem isArc_eq_plusArc : IsArc = PlusArc := by
  funext tok n
  exact propext (isArc_iff tok n)

theorem oidTokens_of_plusArcs {s : String} {dots : ℕ} {toks : List (List Char)}
    {arcs : List UInt32} (hs : s.toList = List.replicate dots '.' ++ join '.' toks)
    (hall : List.Forall₂ PlusArc toks arcs) (hrange : ArcsInRange arcs) :
    s ≠ "" ∧ oidTokens s = toks := by
  have hne : toks ≠ [] := by
    rintro rfl
    cases hall
    exact hrange
  apply oidTokens_eq hs hne
  · rw [← isArc_eq_plusArc] at hall
    exact forall₂_isArc_ne_nil hall
  · exact forall₂_plusArc_no_dot hall

/-- **The texts that `parse_oid` accepts**, and the arcs it reads in them. -/
theorem parseOid_grammar (s : String) (arcs : List UInt32) :
    parseOid s = .ok arcs ↔ DottedOid PlusArc s arcs := by
  rw [parseOid_ok_iff, isArc_eq_plusArc]
  constructor
  · rintro ⟨_, hall, hrange⟩
    obtain ⟨dots, hs⟩ := toList_eq_dots s
    exact ⟨dots, oidTokens s, hs, hall, hrange⟩
  · rintro ⟨dots, toks, hs, hall, hrange⟩
    obtain ⟨hempty, htoks⟩ := oidTokens_of_plusArcs hs hall hrange
    rw [htoks]
    exact ⟨hempty, hall, hrange⟩

/-- `1.+3` is accepted, as 1.3. -/
theorem parseOid_accepts_plus :
    ¬ ∀ (s : String) (arcs : List UInt32), parseOid s = .ok arcs ↔
      DottedOid UnsignedArc s arcs := by
  intro hall
  have hparse : parseOid "1.+3" = .ok [1, 3] := by decide +kernel
  have htokens : oidTokens "1.+3" = [['1'], ['+', '3']] := by decide +kernel
  obtain ⟨dots, toks, hs, harcs, hrange⟩ := (hall "1.+3" [1, 3]).mp hparse
  have hplus : List.Forall₂ PlusArc toks [1, 3] := harcs.imp fun _ _ h => Or.inl h
  rw [← (oidTokens_of_plusArcs hs hplus hrange).2, htokens] at harcs
  obtain ⟨_, hdigits, _⟩ := (List.forall₂_cons.mp (List.forall₂_cons.mp harcs).2).1
  exact absurd (hdigits '+' (by simp)).1 (by decide)

end SnmpTrap
