import SnmpTrap.Rust.Numerals
import SnmpTrap.VarbindBounds

/-! Hex strings: the texts that `parse_hex_string` accepts are the spellings of octets as pairs of
hex digits, high nibble first, with separators anywhere and at most one prefix. -/
namespace SnmpTrap
open Rust Numeral
set_option autoImplicit false
set_option maxHeartbeats 250000
set_option maxRecDepth 120000

/-! ## Nibbles -/

/-- The octets as base-16 digits, high nibble first. -/
def nibbles (bs : List UInt8) : List ℕ := bs.flatMap fun b => [b.toNat / 16, b.toNat % 16]

theorem nibbles_cons (b : UInt8) (bs : List UInt8) :
    nibbles (b :: bs) = b.toNat / 16 :: b.toNat % 16 :: nibbles bs := rfl

theorem nibbles_length (bs : List UInt8) : (nibbles bs).length = 2 * bs.length := by
  induction bs with
  | nil => rfl
  | cons b bs ih =>
    rw [nibbles_cons, List.length_cons, List.length_cons, List.length_cons, ih]
    omega

theorem nibbles_injective {as bs : List UInt8} (h : nibbles as = nibbles bs) : as = bs := by
  induction as generalizing bs with
  | nil =>
    cases bs with
    | nil => rfl
    | cons b bs => cases h
  | cons a as ih =>
    cases bs with
    | nil => cases h
    | cons b bs =>
      rw [nibbles_cons, nibbles_cons, List.cons.injEq, List.cons.injEq] at h
      obtain ⟨hhigh, hlow, htail⟩ := h
      have hab : a = b := by
        apply UInt8.toNat_inj.mp
        omega
      rw [hab, ih htail]

/-- The octets of digits taken in pairs. -/
def ofNibbles : List ℕ → List UInt8
  | high :: low :: ds => UInt8.ofNat (16 * high + low) :: ofNibbles ds
  | _ => []

theorem nibbles_ofNibbles : ∀ ds : List ℕ, (∀ d ∈ ds, d < 16) → ds.length % 2 = 0 →
    nibbles (ofNibbles ds) = ds
  | [], _, _ => rfl
  | [_], _, h => by
    rw [List.length_singleton] at h
    omega
  | high :: low :: ds, hlt, heven => by
    have hhigh := hlt high (by simp)
    have hlow := hlt low (by simp)
    have htail : ds.length % 2 = 0 := by
      rw [List.length_cons, List.length_cons] at heven
      omega
    rw [ofNibbles, nibbles_cons, nibbles_ofNibbles ds (fun d hd => hlt d (by simp [hd])) htail,
      UInt8.toNat_ofNat']
    congr 1
    · omega
    · congr 1
      omega

/-! ## Hex digits -/

theorem digitsOf_cons {radix d : ℕ} {c : Char} (h : toDigit radix c = some d) (cs : List Char) :
    digitsOf radix (c :: cs) = d :: digitsOf radix cs := by
  rw [digitsOf, List.map_cons, h, Option.getD_some, digitsOf]

theorem digitsOf_lt {cs : List Char} (h : AllDigits 16 cs) : ∀ d ∈ digitsOf 16 cs, d < 16 := by
  intro d hd
  obtain ⟨c, hc, rfl⟩ := List.mem_map.mp hd
  obtain ⟨v, hv⟩ := Option.isSome_iff_exists.mp (h c hc)
  rw [hv, Option.getD_some]
  exact toDigit_lt hv

theorem lt_of_toDigit {c : Char} {d : ℕ} (h : toDigit 16 c = some d) : c.toNat < 128 := by
  rw [toDigit_eq_some_iff] at h
  omega

/-- Induction over digits taken two at a time. -/
theorem digitPairs_induction {motive : List Char → Prop} (nil : motive [])
    (pair : ∀ (c d : Char) (high low : ℕ) (cs : List Char), toDigit 16 c = some high →
      toDigit 16 d = some low → motive cs → motive (c :: d :: cs)) :
    ∀ cs : List Char, AllDigits 16 cs → cs.length % 2 = 0 → motive cs
  | [], _, _ => nil
  | [_], _, heven => by
    rw [List.length_singleton] at heven
    omega
  | c :: d :: cs, hall, heven => by
    obtain ⟨high, hc⟩ := Option.isSome_iff_exists.mp (hall c (by simp))
    obtain ⟨low, hd⟩ := Option.isSome_iff_exists.mp (hall d (by simp))
    rw [List.length_cons, List.length_cons] at heven
    exact pair c d high low cs hc hd
      (digitPairs_induction nil pair cs (fun e he => hall e (by simp [he])) (by omega))

/-- Hex digits that spell the octets. -/
def Spells (cs : List Char) (bs : List UInt8) : Prop :=
  AllDigits 16 cs ∧ digitsOf 16 cs = nibbles bs

theorem Spells.even {cs : List Char} {bs : List UInt8} (h : Spells cs bs) :
    cs.length = 2 * bs.length := by
  rw [← nibbles_length, ← h.2, digitsOf, List.length_map]

theorem spells_iff {cs : List Char} (h : AllDigits 16 cs) (heven : cs.length % 2 = 0)
    {bs : List UInt8} : Spells cs bs ↔ ofNibbles (digitsOf 16 cs) = bs := by
  have hlen : (digitsOf 16 cs).length % 2 = 0 := by rwa [digitsOf, List.length_map]
  have hback := nibbles_ofNibbles _ (digitsOf_lt h) hlen
  constructor
  · rintro ⟨_, hds⟩
    apply nibbles_injective
    rw [hback, hds]
  · rintro rfl
    exact ⟨h, hback.symm⟩

/-! ## Octets of the digits -/

theorem encodeUtf8_cons_ascii {c : Char} (h : c.toNat < 128) (cs : List Char) :
    encodeUtf8 (c :: cs) = UInt8.ofNat c.toNat :: encodeUtf8 cs := by
  rw [encodeUtf8, List.flatMap_cons, utf8EncodeChar_ascii h]
  rfl

theorem fromUtf8_encodeUtf8_ascii {cs : List Char} (h : ∀ c ∈ cs, c.toNat < 128) :
    fromUtf8 (encodeUtf8 cs) = some cs := by
  induction cs with
  | nil => rfl
  | cons c cs ih =>
    have hc : c.toNat < 128 := h c (by simp)
    have hb : (UInt8.ofNat c.toNat).toNat = c.toNat := by
      rw [UInt8.toNat_ofNat']
      omega
    have hlt : UInt8.ofNat c.toNat < 0x80 := by
      rw [UInt8.lt_iff_toNat_lt, hb]
      exact hc
    rw [encodeUtf8_cons_ascii hc, fromUtf8.eq_def]
    simp only [hlt, if_true]
    rw [ih fun d hd => h d (by simp [hd]), hb, Char.ofNat_toNat]
    rfl

theorem chunks_two {α : Type} (x y : α) (xs : List α) :
    chunks 2 (x :: y :: xs) = [x, y] :: chunks 2 xs :=
  chunks_cons 2 (by decide) _ (by simp)

theorem parseU8Hex_pair {c d : Char} {high low : ℕ} (hc : toDigit 16 c = some high)
    (hd : toDigit 16 d = some low) : parseU8Hex [c, d] = .ok (UInt8.ofNat (16 * high + low)) := by
  have hhigh := toDigit_lt hc
  have hlow := toDigit_lt hd
  have hdenotes : Denotes 16 [c, d] (16 * high + low) := by
    refine ⟨by simp, by simp [AllDigits, hc, hd], ?_⟩
    simp [digitsOf, hc, hd, ofDigits]
    omega
  rw [parseU8Hex, (parseUnsigned_ok_iff (by decide)).mpr ⟨Or.inl hdenotes, by omega⟩]
  rfl

theorem hexBytes_eq (raw : String) (cs : List Char) (hall : AllDigits 16 cs)
    (heven : cs.length % 2 = 0) :
    hexBytes raw (chunks 2 (encodeUtf8 cs)) = .ok (ofNibbles (digitsOf 16 cs)) := by
  refine digitPairs_induction (motive := fun cs =>
    hexBytes raw (chunks 2 (encodeUtf8 cs)) = .ok (ofNibbles (digitsOf 16 cs))) rfl ?_ cs hall heven
  intro c d high low cs hc hd ih
  have hc128 := lt_of_toDigit hc
  have hd128 := lt_of_toDigit hd
  have hpair : fromUtf8 [UInt8.ofNat c.toNat, UInt8.ofNat d.toNat] = some [c, d] := by
    have hback : fromUtf8 (encodeUtf8 [c, d]) = some [c, d] :=
      fromUtf8_encodeUtf8_ascii (by simp [hc128, hd128])
    rwa [encodeUtf8_cons_ascii hc128, encodeUtf8_cons_ascii hd128] at hback
  rw [encodeUtf8_cons_ascii hc128, encodeUtf8_cons_ascii hd128, chunks_two, hexBytes, hpair,
    Outcome.expect, Outcome.ok_bind, parseU8Hex_pair hc hd, Outcome.ofExcept, Outcome.mapErr,
    Outcome.ok_bind, ih, Outcome.ok_bind, digitsOf_cons hc, digitsOf_cons hd, ofNibbles]

/-- What is left of the text before its digits are read. -/
def hexCleaned (raw : String) : List Char :=
  (stripHexPrefix (trim raw.toList)).filter fun c => !isWhitespace c && c != ':'

theorem encodeUtf8_length_ascii {cs : List Char} (h : ∀ c ∈ cs, c.toNat < 128) :
    (encodeUtf8 cs).length = cs.length := by
  induction cs with
  | nil => rfl
  | cons c cs ih =>
    rw [encodeUtf8_cons_ascii (h c (by simp)), List.length_cons, List.length_cons,
      ih fun d hd => h d (by simp [hd])]

theorem parseHexString_ok_iff {raw : String} {bs : List UInt8} :
    parseHexString raw = .ok bs ↔ Spells (hexCleaned raw) bs := by
  unfold parseHexString
  simp only
  rw [← hexCleaned]
  by_cases hempty : hexCleaned raw = []
  · rw [if_pos hempty, hempty]
    have hspells : Spells [] bs ↔ [] = bs := spells_iff (by simp [AllDigits]) rfl
    rw [hspells, Except.ok.injEq]
  · rw [if_neg hempty]
    cases hfind : (hexCleaned raw).find? fun c => !isAsciiHexdigit c with
    | some c =>
      -- a character that is not a digit is reported, and is none of a spelling's
      have hc := List.find?_some hfind
      have hmem := List.mem_of_find?_eq_some hfind
      simp only [Outcome.fail, reduceCtorEq, false_iff]
      rintro ⟨hall, _⟩
      have hdigit : isAsciiHexdigit c = true := hall c hmem
      rw [hdigit] at hc
      cases hc
    | none =>
      have hall : AllDigits 16 (hexCleaned raw) := by
        intro c hc
        have hnot := List.find?_eq_none.mp hfind c hc
        simpa [isAsciiHexdigit, Option.isSome_iff_ne_none] using hnot
      have hlen := encodeUtf8_length_ascii fun c hc => lt_of_isAsciiHexdigit (hall c hc)
      simp only
      rw [hlen]
      by_cases heven : (hexCleaned raw).length % 2 = 0
      · rw [if_neg (by simp [heven]), hexBytes_eq raw _ hall heven, spells_iff hall heven,
          Except.ok.injEq]
      · rw [if_pos heven]
        simp only [Outcome.fail, reduceCtorEq, false_iff]
        intro hspells
        have := hspells.even
        omega

/-! ## The format -/

/-- `0` to `9`, `a` to `f` and `A` to `F`. -/
def IsHexDigit (c : Char) : Prop :=
  (48 ≤ c.toNat ∧ c.toNat ≤ 57) ∨ (97 ≤ c.toNat ∧ c.toNat ≤ 102) ∨
    (65 ≤ c.toNat ∧ c.toNat ≤ 70)

instance IsHexDigit.decidable : DecidablePred IsHexDigit := fun _ =>
  inferInstanceAs (Decidable (_ ∨ _ ∨ _))

def hexValue (c : Char) : ℕ :=
  if c.toNat ≤ 57 then c.toNat - 48 else if c.toNat ≤ 70 then c.toNat - 55 else c.toNat - 87

def IsSeparator (c : Char) : Prop := c = ':' ∨ isWhitespace c = true

theorem toDigit_hex {c : Char} (h : IsHexDigit c) : toDigit 16 c = some (hexValue c) := by
  unfold IsHexDigit at h
  unfold hexValue
  rw [toDigit_eq_some_iff]
  by_cases hdecimal : c.toNat ≤ 57
  · rw [if_pos hdecimal]
    omega
  · by_cases hupper : c.toNat ≤ 70
    · rw [if_neg hdecimal, if_pos hupper]
      omega
    · rw [if_neg hdecimal, if_neg hupper]
      omega

theorem isAsciiHexdigit_iff {c : Char} : isAsciiHexdigit c = true ↔ IsHexDigit c := by
  constructor
  · intro h
    obtain ⟨d, hd⟩ := Option.isSome_iff_exists.mp h
    rw [toDigit_eq_some_iff] at hd
    unfold IsHexDigit
    omega
  · intro h
    rw [isAsciiHexdigit, toDigit_hex h]
    rfl

theorem IsHexDigit.not_separator {c : Char} (h : IsHexDigit c) : ¬ IsSeparator c := by
  unfold IsHexDigit at h
  rintro (rfl | hspace)
  · exact absurd h (by decide)
  · simp only [isWhitespace, Bool.or_eq_true, Bool.and_eq_true, decide_eq_true_eq, beq_iff_eq]
      at hspace
    omega

/-- Only digits and separators, and digits in pairs that are the octets, high nibble first. -/
structure HexFormat (body : List Char) (bs : List UInt8) : Prop where
  allowed : ∀ c ∈ body, IsHexDigit c ∨ IsSeparator c
  count : (body.filter (IsHexDigit ·)).length = 2 * bs.length
  values : (body.filter (IsHexDigit ·)).map hexValue = nibbles bs

theorem separator_filter_iff {c : Char} :
    (!isWhitespace c && c != ':') = true ↔ ¬ IsSeparator c := by
  simp [IsSeparator, and_comm]

theorem digitsOf_hex {cs : List Char} (h : ∀ c ∈ cs, IsHexDigit c) :
    digitsOf 16 cs = cs.map hexValue := by
  apply List.map_congr_left
  intro c hc
  rw [toDigit_hex (h c hc), Option.getD_some]

theorem filter_digits {body : List Char} (h : ∀ c ∈ body, IsHexDigit c ∨ IsSeparator c) :
    body.filter (fun c => !isWhitespace c && c != ':') = body.filter (IsHexDigit ·) := by
  apply List.filter_congr
  intro c hc
  rw [Bool.eq_iff_iff, separator_filter_iff, decide_eq_true_iff]
  exact ⟨fun hnot => (h c hc).resolve_right hnot, IsHexDigit.not_separator⟩

theorem hexFormat_iff {body : List Char} {bs : List UInt8} :
    HexFormat body bs ↔ Spells (body.filter fun c => !isWhitespace c && c != ':') bs := by
  constructor
  · rintro ⟨hallowed, _, hvalues⟩
    rw [filter_digits hallowed]
    have hdigits : ∀ c ∈ body.filter (IsHexDigit ·), IsHexDigit c := by
      intro c hc
      simpa using (List.mem_filter.mp hc).2
    refine ⟨fun c hc => isAsciiHexdigit_iff.mpr (hdigits c hc), ?_⟩
    rw [digitsOf_hex hdigits, hvalues]
  · intro h
    have hallowed : ∀ c ∈ body, IsHexDigit c ∨ IsSeparator c := by
      intro c hc
      by_cases hsep : IsSeparator c
      · exact Or.inr hsep
      · have hkept : c ∈ body.filter fun c => !isWhitespace c && c != ':' :=
          List.mem_filter.mpr ⟨hc, separator_filter_iff.mpr hsep⟩
        exact Or.inl (isAsciiHexdigit_iff.mp (h.1 c hkept))
    have hcount := h.even
    have hvalues := h.2
    rw [filter_digits hallowed] at hcount hvalues
    refine ⟨hallowed, hcount, ?_⟩
    rw [← hvalues, digitsOf_hex]
    intro c hc
    simpa using (List.mem_filter.mp hc).2

/-- The text without at most one prefix. -/
def WithoutPrefix (text body : List Char) : Prop :=
  text = body ∨ text = '0' :: 'x' :: body ∨ text = '0' :: 'X' :: body

theorem stripHexPrefix_of_allowed {body : List Char}
    (h : ∀ c ∈ body, IsHexDigit c ∨ IsSeparator c) : stripHexPrefix body = body := by
  have hnot : ∀ c, ¬ (IsHexDigit c ∨ IsSeparator c) → c ∉ body := fun c hc hmem => hc (h c hmem)
  obtain hsame | hlower | hupper := stripHexPrefix_cases body
  · exact hsame.symm
  · have hx : 'x' ∈ body := by
      rw [hlower]
      simp
    exact absurd hx (hnot 'x' (by simp [IsHexDigit, IsSeparator, isWhitespace]))
  · have hx : 'X' ∈ body := by
      rw [hupper]
      simp
    exact absurd hx (hnot 'X' (by simp [IsHexDigit, IsSeparator, isWhitespace]))

theorem stripHexPrefix_of_withoutPrefix {text body : List Char} {bs : List UInt8}
    (h : WithoutPrefix text body) (hformat : HexFormat body bs) : stripHexPrefix text = body := by
  obtain rfl | rfl | rfl := h
  · exact stripHexPrefix_of_allowed hformat.allowed
  · rfl
  · rfl

theorem parseHexString_iff_format {raw : String} {bs : List UInt8} :
    parseHexString raw = .ok bs ↔
      ∃ body, WithoutPrefix (trim raw.toList) body ∧ HexFormat body bs := by
  rw [parseHexString_ok_iff, hexCleaned, ← hexFormat_iff]
  constructor
  · intro h
    exact ⟨_, stripHexPrefix_cases _, h⟩
  · rintro ⟨body, htext, hformat⟩
    rw [stripHexPrefix_of_withoutPrefix htext hformat]
    exact hformat

/-! ## Renderings -/

/-- Digits of either case, one for each nibble, with separators anywhere. -/
inductive HexBody : List ℕ → List Char → Prop where
  | nil : HexBody [] []
  | separator {c : Char} {ds : List ℕ} {cs : List Char} (hc : IsSeparator c)
      (hcs : HexBody ds cs) : HexBody ds (c :: cs)
  | digit {c : Char} {ds : List ℕ} {cs : List Char} (hc : IsHexDigit c) (hcs : HexBody ds cs) :
      HexBody (hexValue c :: ds) (c :: cs)

/-- White space, then no prefix or one, then the digits. -/
def HexRendering (bs : List UInt8) (text : List Char) : Prop :=
  ∃ lead mark body, text = lead ++ (mark ++ body) ∧ (∀ c ∈ lead, isWhitespace c = true) ∧
    (mark = [] ∨ mark = ['0', 'x'] ∨ mark = ['0', 'X']) ∧ HexBody (nibbles bs) body

theorem HexBody.parts {ds : List ℕ} {body : List Char} (h : HexBody ds body) :
    (∀ c ∈ body, IsHexDigit c ∨ IsSeparator c) ∧
      (body.filter (IsHexDigit ·)).map hexValue = ds := by
  induction h with
  | nil => exact ⟨by simp, rfl⟩
  | separator hc _ ih =>
    have hnot : ¬ IsHexDigit _ := fun hdigit => hdigit.not_separator hc
    rw [List.forall_mem_cons, List.filter_cons_of_neg (by simpa using hnot)]
    exact ⟨⟨Or.inr hc, ih.1⟩, ih.2⟩
  | digit hc _ ih =>
    rw [List.forall_mem_cons, List.filter_cons_of_pos (by simpa using hc), List.map_cons, ih.2]
    exact ⟨⟨Or.inl hc, ih.1⟩, rfl⟩

theorem HexBody.format {bs : List UInt8} {body : List Char} (h : HexBody (nibbles bs) body) :
    HexFormat body bs := by
  obtain ⟨hallowed, hvalues⟩ := h.parts
  refine ⟨hallowed, ?_, hvalues⟩
  rw [← nibbles_length, ← hvalues, List.length_map]

theorem filter_spaces {cs : List Char} (h : ∀ c ∈ cs, isWhitespace c = true) :
    cs.filter (IsHexDigit ·) = [] := by
  rw [List.filter_eq_nil_iff]
  intro c hc hdigit
  exact (of_decide_eq_true hdigit).not_separator (Or.inr (h c hc))

/-- White space on both sides does not count. -/
theorem hexFormat_spaces {lead body trail : List Char} {bs : List UInt8}
    (hlead : ∀ c ∈ lead, isWhitespace c = true) (htrail : ∀ c ∈ trail, isWhitespace c = true) :
    HexFormat (lead ++ (body ++ trail)) bs ↔ HexFormat body bs := by
  have hfilter : (lead ++ (body ++ trail)).filter (IsHexDigit ·) = body.filter (IsHexDigit ·) := by
    rw [List.filter_append, List.filter_append, filter_spaces hlead, filter_spaces htrail,
      List.append_nil, List.nil_append]
  constructor
  · rintro ⟨hallowed, hcount, hvalues⟩
    rw [hfilter] at hcount hvalues
    exact ⟨fun c hc => hallowed c (by simp [hc]), hcount, hvalues⟩
  · rintro ⟨hallowed, hcount, hvalues⟩
    rw [← hfilter] at hcount hvalues
    refine ⟨?_, hcount, hvalues⟩
    intro c hc
    rw [List.mem_append, List.mem_append] at hc
    obtain hc | hc | hc := hc
    · exact Or.inr (Or.inr (hlead c hc))
    · exact hallowed c hc
    · exact Or.inr (Or.inr (htrail c hc))

theorem trim_marked {lead : List Char} (hlead : ∀ c ∈ lead, isWhitespace c = true)
    (body : List Char) {x : Char} (hx : isWhitespace x = false) :
    ∃ rest trail, trim (lead ++ '0' :: x :: body) = '0' :: x :: rest ∧ body = rest ++ trail ∧
      ∀ c ∈ trail, isWhitespace c = true := by
  obtain ⟨rest, trail, htrim, hparts, htrail⟩ :=
    trim_lead_cons hlead (c := '0') (by decide) (x :: body)
  cases rest with
  | nil =>
    have hspace := htrail x (by rw [← List.nil_append trail, ← hparts]; exact List.mem_cons_self)
    rw [hx] at hspace
    cases hspace
  | cons y rest =>
    rw [List.cons_append, List.cons.injEq] at hparts
    obtain ⟨rfl, hparts⟩ := hparts
    exact ⟨rest, trail, htrim, hparts, htrail⟩

theorem HexRendering.format {bs : List UInt8} {text : List Char} (h : HexRendering bs text) :
    ∃ body, WithoutPrefix (trim text) body ∧ HexFormat body bs := by
  obtain ⟨lead, mark, body, rfl, hlead, hmark, hbody⟩ := h
  have hnone : ∀ c ∈ ([] : List Char), isWhitespace c = true := by simp
  obtain rfl | rfl | rfl := hmark
  · obtain ⟨lead', trail, hparts, hlead', htrail⟩ := trim_parts (lead ++ ([] ++ body))
    refine ⟨_, Or.inl rfl, (hexFormat_spaces hlead' htrail).mp ?_⟩
    rw [← hparts, List.nil_append, ← List.append_nil body]
    exact (hexFormat_spaces hlead hnone).mpr hbody.format
  · obtain ⟨rest, trail, htrim, rfl, htrail⟩ := trim_marked hlead body (x := 'x') (by decide)
    exact ⟨rest, Or.inr (Or.inl htrim), (hexFormat_spaces hnone htrail).mp hbody.format⟩
  · obtain ⟨rest, trail, htrim, rfl, htrail⟩ := trim_marked hlead body (x := 'X') (by decide)
    exact ⟨rest, Or.inr (Or.inr htrim), (hexFormat_spaces hnone htrail).mp hbody.format⟩

/-- **The texts that `parse_hex_string` accepts**: its format, every rendering of every octet
string, and no text that makes it panic. -/
theorem parseHexString_format (raw : String) (bs : List UInt8) :
    (parseHexString raw = .ok bs ↔
      ∃ body, WithoutPrefix (trim raw.toList) body ∧ HexFormat body bs) ∧
    (HexRendering bs raw.toList → parseHexString raw = .ok bs) ∧ (parseHexString raw).Safe :=
  ⟨parseHexString_iff_format, fun h => parseHexString_iff_format.mpr h.format,
    safe_parseHexString raw⟩

theorem parseHexString_format_mixed :
    HexRendering [0xde, 0xad] " 0xD e:Ad ".toList ∧
      parseHexString " 0xD e:Ad " = .ok [0xde, 0xad] := by
  have hbody : HexBody (nibbles [0xde, 0xad]) ['D', ' ', 'e', ':', 'A', 'd', ' '] :=
    .digit (c := 'D') (by decide) <| .separator (Or.inr rfl) <| .digit (c := 'e') (by decide) <|
      .separator (Or.inl rfl) <| .digit (c := 'A') (by decide) <|
      .digit (c := 'd') (by decide) <| .separator (Or.inr rfl) .nil
  have hrendering : HexRendering [0xde, 0xad] " 0xD e:Ad ".toList :=
    ⟨[' '], ['0', 'x'], _, by decide, by simp [isWhitespace], Or.inr (Or.inl rfl), hbody⟩
  exact ⟨hrendering, (parseHexString_format _ _).2.1 hrendering⟩

end SnmpTrap
