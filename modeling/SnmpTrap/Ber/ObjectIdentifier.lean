import SnmpTrap.Ber.Contents

/-! OBJECT IDENTIFIER contents: the first two arcs share the sub-identifier `40 * a + b`, each
further arc has its own, and a sub-identifier is a base-128 numeral whose octets all but the
last carry the continuation bit. Arcs and sub-identifiers are 32 bits wide. -/
namespace SnmpTrap.Ber
open Numeral
set_option autoImplicit false
set_option maxHeartbeats 250000
set_option maxRecDepth 120000

/-! ## Sub-identifiers -/

/-- Base-128 digits with the continuation bit on all but the last. -/
def continued : List ℕ → List UInt8
  | [] => []
  | [d] => [UInt8.ofNat d]
  | d :: e :: ds => UInt8.ofNat (128 + d) :: continued (e :: ds)

def subidentifier (n : ℕ) : List UInt8 := continued (digits 128 n)

/-- Splits octets into sub-identifiers; the first argument is the value begun, if any. -/
def readSubidentifiers : Option ℕ → List UInt8 → Option (List ℕ)
  | none, [] => some []
  | some _, [] => none
  | begun, b :: bs =>
    let acc := begun.getD 0 * 128 + b.toNat % 128
    if b.toNat < 128 then (readSubidentifiers none bs).map (acc :: ·)
    else readSubidentifiers (some acc) bs

theorem readSubidentifiers_last (begun : Option ℕ) (d : ℕ) (hd : d < 128) (rest : List UInt8) :
    readSubidentifiers begun (UInt8.ofNat d :: rest) =
      (readSubidentifiers none rest).map ((begun.getD 0 * 128 + d) :: ·) := by
  have hb : (UInt8.ofNat d).toNat = d := by
    rw [UInt8.toNat_ofNat']
    omega
  rw [readSubidentifiers]
  simp only [hb, if_pos hd, Nat.mod_eq_of_lt hd]

theorem readSubidentifiers_more (begun : Option ℕ) (d : ℕ) (hd : d < 128) (rest : List UInt8) :
    readSubidentifiers begun (UInt8.ofNat (128 + d) :: rest) =
      readSubidentifiers (some (begun.getD 0 * 128 + d)) rest := by
  have hb : (UInt8.ofNat (128 + d)).toNat = 128 + d := by
    rw [UInt8.toNat_ofNat']
    omega
  have hm : (128 + d) % 128 = d := by omega
  rw [readSubidentifiers]
  simp only [hb, if_neg (show ¬ 128 + d < 128 by omega), hm]

/-- Reading a numeral's octets folds its digits into the value begun. -/
theorem readSubidentifiers_continued (ds : List ℕ) (hne : ds ≠ []) (hlt : ∀ d ∈ ds, d < 128)
    (begun : Option ℕ) (rest : List UInt8) :
    readSubidentifiers begun (continued ds ++ rest) =
      (readSubidentifiers none rest).map
        ((begun.getD 0 * 128 ^ ds.length + ofDigits 128 ds) :: ·) := by
  induction ds generalizing begun with
  | nil => contradiction
  | cons d ds ih =>
    have hd : d < 128 := hlt d (by simp)
    cases ds with
    | nil =>
      rw [continued, List.singleton_append, readSubidentifiers_last begun d hd rest,
        ofDigits_singleton, List.length_singleton, pow_one]
    | cons e ds =>
      rw [continued, List.cons_append, readSubidentifiers_more begun d hd,
        ih (by simp) (fun x hx => hlt x (by simp [hx])) (some (begun.getD 0 * 128 + d))]
      have hval : (some (begun.getD 0 * 128 + d)).getD 0 * 128 ^ (e :: ds).length +
          ofDigits 128 (e :: ds) =
          begun.getD 0 * 128 ^ (d :: e :: ds).length + ofDigits 128 (d :: e :: ds) := by
        rw [ofDigits_cons 128 d (e :: ds), List.length_cons (a := d), pow_succ, Option.getD_some]
        ring
      rw [hval]

theorem readSubidentifiers_subidentifier (n : ℕ) (rest : List UInt8) :
    readSubidentifiers none (subidentifier n ++ rest) =
      (readSubidentifiers none rest).map (n :: ·) := by
  have hne : digits 128 n ≠ [] := List.ne_nil_of_length_pos (digits_length_pos 128 n)
  have h := readSubidentifiers_continued (digits 128 n) hne (digits_lt (by decide) n) none rest
  rw [ofDigits_digits (by decide)] at h
  simpa [subidentifier] using h

theorem readSubidentifiers_flatMap (ns : List ℕ) :
    readSubidentifiers none (ns.flatMap subidentifier) = some ns := by
  induction ns with
  | nil => rfl
  | cons n ns ih => rw [List.flatMap_cons, readSubidentifiers_subidentifier, ih, Option.map_some]

/-! ## Arcs -/

/-- At least two arcs, the first at most 2, the second below 40 under 0 and 1, and their common
sub-identifier within 32 bits. -/
def Representable : List UInt32 → Prop
  | a :: b :: _ => a.toNat ≤ 2 ∧ (a.toNat < 2 → b.toNat < 40) ∧ 40 * a.toNat + b.toNat < 2 ^ 32
  | _ => False

instance : DecidablePred Representable := fun arcs =>
  match arcs with
  | [] => inferInstanceAs (Decidable False)
  | [_] => inferInstanceAs (Decidable False)
  | a :: b :: _ => inferInstanceAs
      (Decidable (a.toNat ≤ 2 ∧ (a.toNat < 2 → b.toNat < 40) ∧ 40 * a.toNat + b.toNat < 2 ^ 32))

/-- The contents octets of X.690 8.19; fewer than two arcs have none. -/
def oidOctets : List UInt32 → List UInt8
  | a :: b :: rest =>
    subidentifier (40 * a.toNat + b.toNat) ++ (rest.map UInt32.toNat).flatMap subidentifier
  | _ => []

/-- The first two arcs of a first sub-identifier, split at 40 and 80. -/
def splitFirst (n : ℕ) : UInt32 × UInt32 :=
  if n < 40 then (0, UInt32.ofNat n)
  else if n < 80 then (1, UInt32.ofNat (n - 40))
  else (2, UInt32.ofNat (n - 80))

/-- Arcs from contents octets; sub-identifiers past 32 bits are refused. -/
def readOid (bs : List UInt8) : Option (List UInt32) :=
  match readSubidentifiers none bs with
  | some (n :: ns) =>
    if (n :: ns).all (· < 2 ^ 32) then
      some ((splitFirst n).1 :: (splitFirst n).2 :: ns.map UInt32.ofNat)
    else none
  | _ => none

theorem readSubidentifiers_oid (n : ℕ) (rest : List UInt32) :
    readSubidentifiers none (subidentifier n ++ (rest.map UInt32.toNat).flatMap subidentifier) =
      some (n :: rest.map UInt32.toNat) := by
  rw [readSubidentifiers_subidentifier, readSubidentifiers_flatMap, Option.map_some]

theorem readOid_subidentifiers (n : ℕ) (hn : n < 2 ^ 32) (rest : List UInt32) :
    readOid (subidentifier n ++ (rest.map UInt32.toNat).flatMap subidentifier) =
      some ((splitFirst n).1 :: (splitFirst n).2 :: rest) := by
  have hall : (n :: rest.map UInt32.toNat).all (· < 2 ^ 32) = true := by
    rw [List.all_eq_true]
    intro m hm
    obtain rfl | hm := List.mem_cons.mp hm
    · exact decide_eq_true hn
    · obtain ⟨a, _, rfl⟩ := List.mem_map.mp hm
      exact decide_eq_true a.toNat_lt
  have hmap : (rest.map UInt32.toNat).map UInt32.ofNat = rest := by
    simp [List.map_map, Function.comp_def]
  unfold readOid
  rw [readSubidentifiers_oid]
  simp only [hall, if_true, hmap]

theorem splitFirst_representable (a b : UInt32) (rest : List UInt32)
    (h : Representable (a :: b :: rest)) : splitFirst (40 * a.toNat + b.toNat) = (a, b) := by
  obtain ⟨ha, hb, hn⟩ := h
  have hb' := b.toNat_lt
  have hcases : a.toNat = 0 ∨ a.toNat = 1 ∨ a.toNat = 2 := by omega
  unfold splitFirst
  obtain ha' | ha' | ha' := hcases
  · have h0 : a = 0 := UInt32.toNat_inj.mp (by rw [ha']; rfl)
    rw [if_pos (by omega), ha', h0]
    simp
  · have h1 : a = 1 := UInt32.toNat_inj.mp (by rw [ha']; rfl)
    rw [if_neg (by omega), if_pos (by omega), ha', h1]
    simp
  · have h2 : a = 2 := UInt32.toNat_inj.mp (by rw [ha']; rfl)
    rw [if_neg (by omega), if_neg (by omega), ha', h2]
    simp

theorem readOid_oidOctets (arcs : List UInt32) (h : Representable arcs) :
    readOid (oidOctets arcs) = some arcs := by
  match arcs, h with
  | a :: b :: rest, h =>
    rw [oidOctets, readOid_subidentifiers _ h.2.2, splitFirst_representable a b rest h]

theorem oidOctets_injective {arcs arcs' : List UInt32} (h : Representable arcs)
    (h' : Representable arcs') (he : oidOctets arcs = oidOctets arcs') : arcs = arcs' := by
  have hr := readOid_oidOctets arcs h
  rw [he, readOid_oidOctets arcs' h'] at hr
  exact (Option.some.inj hr).symm

end SnmpTrap.Ber
