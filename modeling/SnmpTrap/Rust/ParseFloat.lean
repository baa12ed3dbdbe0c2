import SnmpTrap.Rust.Ipv4Text

/-! `f64::from_str` with its error texts. The number itself is made by `Float.ofScientific`, which
rounds a decimal fraction as the standard library does. -/
namespace SnmpTrap.Rust
open Numeral
set_option autoImplicit false
set_option maxHeartbeats 250000
set_option maxRecDepth 120000

inductive FloatErrorKind where
  | empty
  | invalid
deriving DecidableEq, Repr

/-- `Display` of a `ParseFloatError`. -/
def FloatErrorKind.text : FloatErrorKind → String
  | .empty => "cannot parse float from empty string"
  | .invalid => "invalid float literal"

def leadingDigits (cs : List Char) : List Char × List Char :=
  (cs.takeWhile fun c => (toDigit 10 c).isSome, cs.dropWhile fun c => (toDigit 10 c).isSome)

/-- Digits are left out once the exponent is out of every range. -/
def exponentValue (ds : List Char) : ℕ :=
  ds.foldl (fun acc c => if acc < 0x10000 then acc * 10 + (toDigit 10 c).getD 0 else acc) 0

/-- `parse_scientific`, up to the end of the text. -/
def parseScientific (cs : List Char) : Option ℤ :=
  let negative := cs.head? = some '-'
  let (ds, rest) := leadingDigits (if negative ∨ cs.head? = some '+' then cs.tail else cs)
  if ds = [] ∨ rest ≠ [] then none
  else some (if negative then -exponentValue ds else exponentValue ds)

def decimalFloat (mantissa : ℕ) (exponent : ℤ) : Float :=
  Float.ofScientific mantissa (decide (exponent < 0)) exponent.natAbs

/-- `parse_number`: digits around an optional point, at least one, and an optional exponent. -/
def parseDecimalNumber (cs : List Char) : Option Float :=
  let (whole, cs) := leadingDigits cs
  let (fraction, cs) := if cs.head? = some '.' then leadingDigits cs.tail else ([], cs)
  if whole = [] ∧ fraction = [] then none
  else
    let exponent : Option ℤ :=
      match cs with
      | [] => some 0
      | c :: cs => if c = 'e' ∨ c = 'E' then parseScientific cs else none
    exponent.map fun e => decimalFloat (digitsValue 10 (whole ++ fraction)) (e - fraction.length)

/-- `parse_inf_nan`. -/
def parseInfNan (cs : List Char) : Option Float :=
  let word := cs.map Char.toLower
  if word = "nan".toList then some (Float.ofBits 0x7FF8000000000000)
  else if word = "inf".toList ∨ word = "infinity".toList then
    some (Float.ofBits 0x7FF0000000000000)
  else none

def parseF64 (cs : List Char) : Except FloatErrorKind Float :=
  if cs = [] then .error .empty
  else
    let negative := cs.head? = some '-'
    let body := if negative ∨ cs.head? = some '+' then cs.tail else cs
    match (parseDecimalNumber body).or (parseInfNan body) with
    | none => .error .invalid
    | some x => .ok (if negative then -x else x)

/-! ## Digits around a point -/

theorem leadingDigits_append {ds rest : List Char} (hds : ∀ c ∈ ds, IsDigit c)
    (hrest : NoDigit rest) : leadingDigits (ds ++ rest) = (ds, rest) := by
  obtain ⟨htake, hdrop⟩ := takeWhile_digits hds hrest
  rw [leadingDigits, htake, hdrop]

theorem parseDecimalNumber_point {ds fs : List Char} (hds : ∀ c ∈ ds, IsDigit c)
    (hfs : ∀ c ∈ fs, IsDigit c) (hne : fs ≠ []) : parseDecimalNumber (ds ++ '.' :: fs) =
      some (Float.ofScientific (digitsValue 10 (ds ++ fs)) true fs.length) := by
  have hdot : ¬ IsDigit '.' := by unfold IsDigit; decide
  have hfraction := leadingDigits_append hfs noDigit_nil
  rw [List.append_nil] at hfraction
  have hpos := List.length_pos_iff.mpr hne
  have hneg : decide ((0 : ℤ) - fs.length < 0) = true := decide_eq_true (by omega)
  have habs : ((0 : ℤ) - fs.length).natAbs = fs.length := by omega
  rw [parseDecimalNumber, leadingDigits_append hds (noDigit_cons hdot)]
  simp only [List.head?_cons, if_true, List.tail_cons, hfraction]
  rw [if_neg fun h => hne h.2, Option.map_some, decimalFloat, hneg, habs]

/-- An unsigned number with a point is read as the decimal fraction that it writes. -/
theorem parseF64_point {ds fs : List Char} (hds : ∀ c ∈ ds, IsDigit c) (hne : ds ≠ [])
    (hfs : ∀ c ∈ fs, IsDigit c) (hfsne : fs ≠ []) : parseF64 (ds ++ '.' :: fs) =
      .ok (Float.ofScientific (digitsValue 10 (ds ++ fs)) true fs.length) := by
  obtain ⟨d, ds', rfl⟩ := List.exists_cons_of_ne_nil hne
  have hdigit : IsDigit d := hds d List.mem_cons_self
  have hminus : d ≠ '-' := by
    rintro rfl
    revert hdigit
    unfold IsDigit
    decide
  have hplus : d ≠ '+' := by
    rintro rfl
    revert hdigit
    unfold IsDigit
    decide
  have hnumber := parseDecimalNumber_point hds hfs hfsne
  rw [List.cons_append] at hnumber
  rw [List.cons_append, parseF64, if_neg (List.cons_ne_nil _ _)]
  simp only [List.head?_cons, Option.some.injEq, hminus, hplus, or_self, if_false, hnumber,
    Option.some_or]

end SnmpTrap.Rust
