import SnmpTrap.Ber.Encoder
import SnmpTrap.Varbind

/-! OIDs from text to wire: what `parse_oid` accepts, and which of it keeps its arcs when the
first sub-identifier is formed in 32 bits. -/
namespace SnmpTrap
open Rust Ber
set_option autoImplicit false
set_option maxHeartbeats 250000
set_option maxRecDepth 120000

/-! ## What is accepted -/

def IsArc (tok : List Char) (n : UInt32) : Prop := tok ≠ [] ∧ parseU32 tok = .ok n

theorem parseArcs_ok_iff (s : String) (toks : List (List Char)) (arcs : List UInt32) :
    parseArcs s toks = .ok arcs ↔ List.Forall₂ IsArc toks arcs := by
  induction toks generalizing arcs with
  | nil =>
    rw [parseArcs, List.forall₂_nil_left_iff]
    simp [eq_comm]
  | cons tok toks ih =>
    rw [parseArcs, List.forall₂_cons_left_iff]
    constructor
    · intro h
      split at h
      · exact absurd h (Outcome.fail_ne_ok _ _)
      · rename_i hne
        split at h
        · exact absurd h (Outcome.fail_ne_ok _ _)
        · rename_i n hn
          obtain ⟨parts, hparts, h⟩ := Outcome.bind_ok_iff.mp h
          cases h
          exact ⟨n, parts, ⟨hne, hn⟩, (ih parts).mp hparts, rfl⟩
    · rintro ⟨n, parts, ⟨hne, hn⟩, hparts, rfl⟩
      rw [if_neg hne, hn]
      exact Outcome.bind_ok_iff.mpr ⟨parts, (ih parts).mpr hparts, rfl⟩

/-- The arc-range guards of `parse_oid`. -/
def ArcsInRange : List UInt32 → Prop
  | a :: b :: _ => a.toNat ≤ 2 ∧ (a.toNat < 2 → b.toNat < 40)
  | _ => False

theorem ArcsInRange.exists_cons {arcs : List UInt32} (h : ArcsInRange arcs) :
    ∃ a b rest, arcs = a :: b :: rest ∧ a.toNat ≤ 2 ∧ (a.toNat < 2 → b.toNat < 40) := by
  cases arcs with
  | nil => exact absurd h id
  | cons a arcs =>
    cases arcs with
    | nil => exact absurd h id
    | cons b rest => exact ⟨a, b, rest, rfl, h⟩

theorem parseOid_ok_iff (s : String) (arcs : List UInt32) :
    parseOid s = .ok arcs ↔ s ≠ "" ∧ List.Forall₂ IsArc (oidTokens s) arcs ∧ ArcsInRange arcs := by
  unfold parseOid
  split
  · rename_i hs
    simp [hs, Outcome.fail]
  · rename_i hs
    rw [Outcome.bind_ok_iff]
    constructor
    · rintro ⟨parts, hparts, h⟩
      rw [parseArcs_ok_iff] at hparts
      split at h
      · exact absurd h (Outcome.fail_ne_ok _ _)
      · rename_i hlen
        obtain ⟨first, hfirst, h⟩ := Outcome.bind_ok_iff.mp h
        obtain ⟨second, hsecond, h⟩ := Outcome.bind_ok_iff.mp h
        rw [Outcome.index_ok_iff] at hfirst hsecond
        split at h
        · exact absurd h (Outcome.fail_ne_ok _ _)
        · rename_i htwo
          split at h
          · exact absurd h (Outcome.fail_ne_ok _ _)
          · rename_i hforty
            cases h
            obtain hshort | ⟨a, b, rest, rfl⟩ := length_lt_two_or_cons arcs
            · exact absurd hshort hlen
            · cases hfirst
              cases hsecond
              rw [UInt32.lt_iff_toNat_lt] at htwo
              rw [UInt32.lt_iff_toNat_lt, UInt32.le_iff_toNat_le] at hforty
              have h2 : (2 : UInt32).toNat = 2 := rfl
              have h40 : (40 : UInt32).toNat = 40 := rfl
              exact ⟨hs, hparts, by omega, by omega⟩
    · rintro ⟨_, hall, hrange⟩
      refine ⟨arcs, (parseArcs_ok_iff s _ _).mpr hall, ?_⟩
      obtain ⟨a, b, rest, rfl, ha, hb⟩ := hrange.exists_cons
      have h2 : (2 : UInt32).toNat = 2 := rfl
      have h40 : (40 : UInt32).toNat = 40 := rfl
      rw [if_neg (by simp), Outcome.index_eq_ok (by simp), Outcome.ok_bind,
        Outcome.index_eq_ok (by simp), Outcome.ok_bind]
      simp only [List.getElem_cons_zero, List.getElem_cons_succ]
      rw [if_neg, if_neg]
      · rw [UInt32.lt_iff_toNat_lt, UInt32.le_iff_toNat_le]
        omega
      · rw [UInt32.lt_iff_toNat_lt]
        omega

theorem forall₂_isArc_ne_nil {toks : List (List Char)} {arcs : List UInt32}
    (h : List.Forall₂ IsArc toks arcs) : ∀ tok ∈ toks, tok ≠ [] := by
  induction h with
  | nil => simp
  | cons hhead _ ih =>
    rw [List.forall_mem_cons]
    exact ⟨hhead.1, ih⟩

/-- Leading dots go, and the tokens between the others are the tokens joined. -/
theorem oidTokens_eq {s : String} {dots : ℕ} {toks : List (List Char)}
    (hs : s.toList = List.replicate dots '.' ++ join '.' toks) (hne : toks ≠ [])
    (hfilled : ∀ tok ∈ toks, tok ≠ [])
    (hdots : ∀ tok ∈ toks, ∀ c ∈ tok, (c == '.') = false) : s ≠ "" ∧ oidTokens s = toks := by
  cases toks with
  | nil => contradiction
  | cons tok rest =>
    cases tok with
    | nil => exact absurd rfl (hfilled [] (by simp))
    | cons c cs =>
      have hc : (c == '.') = false := hdots (c :: cs) (by simp) c (by simp)
      obtain ⟨tail, htail⟩ := join_cons_head '.' c cs rest
      constructor
      · rintro rfl
        rw [htail] at hs
        simp at hs
      · rw [oidTokens, hs, List.dropWhile_append_of_pos (by simp), htail,
          List.dropWhile_cons_of_neg (by simp [hc]), ← htail]
        exact split_join _ '.' rfl _ hne hdots

/-! ## The first sub-identifier -/

/-- The X.690 encoding with 32-bit sub-identifiers exists and gives the arcs back. -/
def Faithful (arcs : List UInt32) : Prop :=
  ∃ a b rest, arcs = a :: b :: rest ∧ 40 * a.toNat + b.toNat ≤ 2 ^ 32 - 1 ∧
    readOid (wrappingOidOctets arcs) = some arcs

theorem faithful_iff {a b : UInt32} {rest : List UInt32} (h : ArcsInRange (a :: b :: rest)) :
    Faithful (a :: b :: rest) ↔ 40 * a.toNat + b.toNat < 2 ^ 32 := by
  constructor
  · rintro ⟨a', b', rest', heq, hle, _⟩
    cases heq
    omega
  · intro hlt
    have hrep : Representable (a :: b :: rest) := ⟨h.1, h.2, hlt⟩
    exact ⟨a, b, rest, rfl, by omega, by
      rw [wrappingOidOctets_representable _ hrep, readOid_oidOctets _ hrep]⟩

/-! ## The texts that overflow it -/

/-- The first two tokens denote 2 and an arc past `2 ^ 32 - 81`. -/
def SecondArcOverflows (s : String) : Prop :=
  ∃ first second rest n, oidTokens s = first :: second :: rest ∧ parseU32 first = .ok 2 ∧
    parseU32 second = .ok n ∧ 4294967215 < n.toNat

theorem secondArcOverflows_iff {s : String} {a b : UInt32} {rest : List UInt32}
    (h : parseOid s = .ok (a :: b :: rest)) :
    SecondArcOverflows s ↔ a = 2 ∧ 4294967215 < b.toNat := by
  obtain ⟨_, hall, _⟩ := (parseOid_ok_iff s _).mp h
  rw [List.forall₂_cons_right_iff] at hall
  obtain ⟨first, toks, ⟨_, hfirst⟩, hall, htoks⟩ := hall
  rw [List.forall₂_cons_right_iff] at hall
  obtain ⟨second, toks, ⟨_, hsecond⟩, _, rfl⟩ := hall
  constructor
  · rintro ⟨first', second', rest', n, htoks', hfirst', hsecond', hn⟩
    rw [htoks] at htoks'
    cases htoks'
    rw [hfirst] at hfirst'
    rw [hsecond] at hsecond'
    cases hfirst'
    cases hsecond'
    exact ⟨rfl, hn⟩
  · rintro ⟨rfl, hb⟩
    exact ⟨first, second, toks, b, htoks, hfirst, hsecond, hb⟩

/-- An accepted text overflows exactly when the first sub-identifier does not fit. -/
theorem fits_iff {s : String} {a b : UInt32} {rest : List UInt32}
    (h : parseOid s = .ok (a :: b :: rest)) :
    40 * a.toNat + b.toNat < 2 ^ 32 ↔ ¬ SecondArcOverflows s := by
  obtain ⟨_, _, ha, hb⟩ := (parseOid_ok_iff s _).mp h
  rw [secondArcOverflows_iff h]
  have h2 : (2 : UInt32).toNat = 2 := rfl
  have ha2 : a = 2 ↔ a.toNat = 2 := by rw [← UInt32.toNat_inj, h2]
  rw [ha2]
  omega

theorem representable_of_fits {s : String} {arcs : List UInt32} (h : parseOid s = .ok arcs)
    (hfits : ¬ SecondArcOverflows s) : Representable arcs := by
  obtain ⟨_, _, hrange⟩ := (parseOid_ok_iff s _).mp h
  obtain ⟨a, b, rest, rfl, ha, hb⟩ := hrange.exists_cons
  exact ⟨ha, hb, (fits_iff h).mpr hfits⟩

/-! ## The text that an overflowing one is taken for -/

/-- A number below 40 in decimal, with a leading zero where it is short. -/
def twoDigits (n : ℕ) : List Char := [Nat.digitChar (n / 10), Nat.digitChar (n % 10)]

theorem parseU32_twoDigits : ∀ n < 40, parseU32 (twoDigits n) = .ok (UInt32.ofNat n) := by decide

theorem isArc_twoDigits {n : ℕ} (h : n < 40) : IsArc (twoDigits n) (UInt32.ofNat n) :=
  ⟨by simp [twoDigits], parseU32_twoDigits n h⟩

theorem digitChar_ne_dot : ∀ d < 10, (Nat.digitChar d == '.') = false := by decide

theorem twoDigits_no_dot {n : ℕ} (h : n < 40) : ∀ c ∈ twoDigits n, (c == '.') = false := by
  intro c hc
  rw [twoDigits, List.mem_cons, List.mem_singleton] at hc
  obtain rfl | rfl := hc
  · exact digitChar_ne_dot _ (by omega)
  · exact digitChar_ne_dot _ (by omega)

theorem parseOid_join {toks : List (List Char)} {arcs : List UInt32}
    (htoks : List.Forall₂ IsArc toks arcs)
    (hdots : ∀ tok ∈ toks, ∀ c ∈ tok, (c == '.') = false) (hrange : ArcsInRange arcs) :
    parseOid (String.ofList (join '.' toks)) = .ok arcs ∧
      oidTokens (String.ofList (join '.' toks)) = toks := by
  have hne : toks ≠ [] := by
    rintro rfl
    cases htoks
    exact hrange
  have htext : (String.ofList (join '.' toks)).toList = List.replicate 0 '.' ++ join '.' toks :=
    String.toList_ofList
  obtain ⟨hs, hoid⟩ := oidTokens_eq htext hne (forall₂_isArc_ne_nil htoks) hdots
  exact ⟨(parseOid_ok_iff _ _).mpr ⟨hs, by rw [hoid]; exact htoks, hrange⟩, hoid⟩

/-- Every text that overflows shares its octets with one that does not, for other arcs. -/
theorem exists_alias {s : String} {arcs : List UInt32} (h : parseOid s = .ok arcs)
    (hover : SecondArcOverflows s) :
    ∃ s' arcs', parseOid s' = .ok arcs' ∧ ¬ SecondArcOverflows s' ∧ arcs' ≠ arcs ∧
      wrappingOidOctets arcs' = wrappingOidOctets arcs := by
  obtain ⟨_, hall, hrange⟩ := (parseOid_ok_iff s _).mp h
  obtain ⟨a, b, rest, rfl, _⟩ := hrange.exists_cons
  obtain ⟨rfl, hb⟩ := (secondArcOverflows_iff h).mp hover
  rw [List.forall₂_cons_right_iff] at hall
  obtain ⟨first, toks, _, hall, htoks⟩ := hall
  rw [List.forall₂_cons_right_iff] at hall
  obtain ⟨second, toks, _, hrest, rfl⟩ := hall
  have hlt := b.toNat_lt
  -- the sum wraps to less than 80, which is split under a first arc of 0 or 1
  obtain ⟨k, hk, hk80⟩ : ∃ k, b.toNat = 4294967216 + k ∧ k < 80 :=
    ⟨b.toNat - 4294967216, by omega, by omega⟩
  have hwrap : (40 * 2 + b).toNat = k := by
    rw [UInt32.toNat_add, UInt32.toNat_mul]
    simp only [UInt32.reduceToNat]
    omega
  obtain ⟨i, j, hi, hj, hij⟩ : ∃ i j, i < 2 ∧ j < 40 ∧ 40 * i + j = k :=
    ⟨k / 40, k % 40, by omega, by omega, by omega⟩
  have hdots : ∀ tok ∈ toks, ∀ c ∈ tok, (c == '.') = false := by
    intro tok htok
    have hmem : tok ∈ oidTokens s := by
      rw [htoks]
      simp [htok]
    exact split_no_sep _ _ tok hmem
  have hiN : (UInt32.ofNat i).toNat = i := by
    rw [UInt32.toNat_ofNat']
    omega
  have hjN : (UInt32.ofNat j).toNat = j := by
    rw [UInt32.toNat_ofNat']
    omega
  have hrange' : ArcsInRange (UInt32.ofNat i :: UInt32.ofNat j :: rest) :=
    ⟨by omega, fun _ => by omega⟩
  have hi40 : i < 40 := by omega
  have halias : ∀ tok ∈ twoDigits i :: twoDigits j :: toks, ∀ c ∈ tok, (c == '.') = false := by
    intro tok htok
    obtain rfl | htok := List.mem_cons.mp htok
    · exact twoDigits_no_dot hi40
    · obtain rfl | htok := List.mem_cons.mp htok
      · exact twoDigits_no_dot hj
      · exact hdots tok htok
  obtain ⟨hparse, _⟩ :=
    parseOid_join (.cons (isArc_twoDigits hi40) (.cons (isArc_twoDigits hj) hrest)) halias hrange'
  have hfits : 40 * (UInt32.ofNat i).toNat + (UInt32.ofNat j).toNat < 2 ^ 32 := by omega
  have hrep : Representable (UInt32.ofNat i :: UInt32.ofNat j :: rest) :=
    ⟨hrange'.1, hrange'.2, hfits⟩
  refine ⟨_, _, hparse, (fits_iff hparse).mp hfits, ?_, ?_⟩
  · intro heq
    have ha : UInt32.ofNat i = 2 := (List.cons.inj heq).1
    have h2 : (2 : UInt32).toNat = 2 := rfl
    rw [← UInt32.toNat_inj, hiN, h2] at ha
    omega
  · rw [wrappingOidOctets_representable _ hrep, oidOctets, wrappingOidOctets, hwrap, hiN, hjN,
      hij]

/-! ## What survives the wire -/

/-- **Where accepted OIDs survive the wire.** An accepted text has a faithful encoding exactly when
its first two tokens are not 2 and an arc past `2 ^ 32 - 81`. A pair of accepted texts takes the
condition on both: a text that meets it shares its octets with no other arcs of a text that meets
it, and a text that does not shares them with the arcs of one that does. -/
theorem parseOid_faithful_iff (s : String) (arcs : List UInt32) (h : parseOid s = .ok arcs) :
    (Faithful arcs ↔ ¬ SecondArcOverflows s) ∧
    ((∀ s' arcs', parseOid s' = .ok arcs' → ¬ SecondArcOverflows s' →
        wrappingOidOctets arcs' = wrappingOidOctets arcs → arcs' = arcs) ↔
      ¬ SecondArcOverflows s) := by
  constructor
  · obtain ⟨_, _, hrange⟩ := (parseOid_ok_iff s _).mp h
    obtain ⟨a, b, rest, rfl, _⟩ := hrange.exists_cons
    rw [faithful_iff hrange, fits_iff h]
  · constructor
    · intro hall hover
      obtain ⟨s', arcs', hparse, hfits, hne, heq⟩ := exists_alias h hover
      exact hne (hall s' arcs' hparse hfits heq)
    · intro hfits s' arcs' hparse' hfits' heq
      have hrep := representable_of_fits h hfits
      have hrep' := representable_of_fits hparse' hfits'
      rw [wrappingOidOctets_representable _ hrep, wrappingOidOctets_representable _ hrep'] at heq
      exact oidOctets_injective hrep' hrep heq

theorem parseOid_faithful_iff_enterprise :
    parseOid "1.3.6.1.4.1" = .ok [1, 3, 6, 1, 4, 1] ∧ Faithful [1, 3, 6, 1, 4, 1] ∧
      ∀ s' arcs', parseOid s' = .ok arcs' → ¬ SecondArcOverflows s' →
        wrappingOidOctets arcs' = wrappingOidOctets [1, 3, 6, 1, 4, 1] →
          arcs' = [1, 3, 6, 1, 4, 1] := by
  have h : parseOid "1.3.6.1.4.1" = .ok [1, 3, 6, 1, 4, 1] := by decide +kernel
  have hfits : ¬ SecondArcOverflows "1.3.6.1.4.1" := (fits_iff h).mp (by decide)
  obtain ⟨hfaithful, hpair⟩ := parseOid_faithful_iff _ _ h
  exact ⟨h, hfaithful.mpr hfits, hpair.mpr hfits⟩

/-- `2.4294967295` is accepted, and goes out with the octets of `1.39`. -/
theorem parseOid_not_faithful :
    ¬ ∀ (s : String) (arcs : List UInt32), parseOid s = .ok arcs →
      Faithful arcs ∧ ∀ s' arcs', parseOid s' = .ok arcs' →
        wrappingOidOctets arcs' = wrappingOidOctets arcs → arcs' = arcs := by
  intro hall
  have h : parseOid "2.4294967295" = .ok [2, 4294967295] := by decide +kernel
  have h' : parseOid "1.39" = .ok [1, 39] := by decide +kernel
  have heq := (hall _ _ h).2 _ _ h' (by decide +kernel)
  exact absurd heq (by decide)

end SnmpTrap
