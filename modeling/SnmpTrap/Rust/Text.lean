import SnmpTrap.Rust.Outcome

/-! What the code uses of `str` and `char`: UTF-8 bytes, white space, trimming, splitting, and
the integer parsers with their error texts. -/
namespace SnmpTrap.Rust
set_option autoImplicit false
set_option maxHeartbeats 250000
set_option maxRecDepth 120000

def encodeUtf8 (cs : List Char) : List UInt8 := cs.flatMap String.utf8EncodeChar

/-- `str::as_bytes`; `str::len` is its length. -/
def asBytes (s : String) : List UInt8 := encodeUtf8 s.toList

def isContinuation (b : UInt8) : Bool := 0x80 ≤ b && b < 0xC0

/-- `std::str::from_utf8`: no overlong forms, no surrogates, nothing past U+10FFFF. -/
def fromUtf8 : List UInt8 → Option (List Char)
  | [] => some []
  | b₀ :: bs =>
    if b₀ < 0x80 then (fromUtf8 bs).map (Char.ofNat b₀.toNat :: ·)
    else match bs with
      | [] => none
      | b₁ :: bs =>
        if 0xC2 ≤ b₀ && b₀ < 0xE0 && isContinuation b₁ then
          (fromUtf8 bs).map (Char.ofNat ((b₀.toNat - 0xC0) * 64 + (b₁.toNat - 0x80)) :: ·)
        else match bs with
          | [] => none
          | b₂ :: bs =>
            let code := (b₀.toNat - 0xE0) * 4096 + (b₁.toNat - 0x80) * 64 + (b₂.toNat - 0x80)
            if 0xE0 ≤ b₀ && b₀ < 0xF0 && isContinuation b₁ && isContinuation b₂ &&
                0x800 ≤ code && !(0xD800 ≤ code && code ≤ 0xDFFF) then
              (fromUtf8 bs).map (Char.ofNat code :: ·)
            else match bs with
              | [] => none
              | b₃ :: bs =>
                let code := (b₀.toNat - 0xF0) * 262144 + (b₁.toNat - 0x80) * 4096 +
                  (b₂.toNat - 0x80) * 64 + (b₃.toNat - 0x80)
                if 0xF0 ≤ b₀ && b₀ < 0xF5 && isContinuation b₁ && isContinuation b₂ &&
                    isContinuation b₃ && 0x10000 ≤ code && code ≤ 0x10FFFF then
                  (fromUtf8 bs).map (Char.ofNat code :: ·)
                else none

/-! ## White space -/

/-- `char::is_whitespace`: the Unicode property White_Space. -/
def isWhitespace (c : Char) : Bool :=
  (9 ≤ c.toNat && c.toNat ≤ 13) || c.toNat == 0x20 || c.toNat == 0x85 || c.toNat == 0xA0 ||
    c.toNat == 0x1680 || (0x2000 ≤ c.toNat && c.toNat ≤ 0x200A) || c.toNat == 0x2028 ||
    c.toNat == 0x2029 || c.toNat == 0x202F || c.toNat == 0x205F || c.toNat == 0x3000

/-- `char::is_ascii_whitespace`: space, tab, line feed, form feed, carriage return. -/
def isAsciiWhitespace (c : Char) : Bool :=
  c.toNat == 0x20 || c.toNat == 9 || c.toNat == 10 || c.toNat == 12 || c.toNat == 13

def trim (cs : List Char) : List Char :=
  ((cs.dropWhile isWhitespace).reverse.dropWhile isWhitespace).reverse

def stripPrefix : List Char → List Char → Option (List Char)
  | [], cs => some cs
  | _ :: _, [] => none
  | p :: ps, c :: cs => if p = c then stripPrefix ps cs else none

/-- `str::starts_with`. -/
def startsWith (s ps : String) : Bool := ps.toList.isPrefixOf s.toList

theorem startsWith_iff {s ps : String} : startsWith s ps = true ↔ ps.toList <+: s.toList :=
  List.isPrefixOf_iff_prefix

theorem trimEnd_parts (cs : List Char) :
    ∃ trail, cs = (cs.reverse.dropWhile isWhitespace).reverse ++ trail ∧
      ∀ c ∈ trail, isWhitespace c = true := by
  refine ⟨(cs.reverse.takeWhile isWhitespace).reverse, ?_, ?_⟩
  · rw [← List.reverse_append, List.takeWhile_append_dropWhile, List.reverse_reverse]
  · intro c hc
    exact List.mem_takeWhile_imp (List.mem_reverse.mp hc)

/-- What is trimmed is white space on both sides. -/
theorem trim_parts (cs : List Char) :
    ∃ lead trail, cs = lead ++ (trim cs ++ trail) ∧ (∀ c ∈ lead, isWhitespace c = true) ∧
      ∀ c ∈ trail, isWhitespace c = true := by
  obtain ⟨trail, hparts, htrail⟩ := trimEnd_parts (cs.dropWhile isWhitespace)
  refine ⟨cs.takeWhile isWhitespace, trail, ?_, fun c hc => List.mem_takeWhile_imp hc, htrail⟩
  rw [trim, ← hparts, List.takeWhile_append_dropWhile]

/-- The first other character stays, and what follows it loses only white space. -/
theorem trim_lead_cons {lead : List Char} (hlead : ∀ c ∈ lead, isWhitespace c = true) {c : Char}
    (hc : isWhitespace c = false) (cs : List Char) :
    ∃ rest trail, trim (lead ++ c :: cs) = c :: rest ∧ cs = rest ++ trail ∧
      ∀ c ∈ trail, isWhitespace c = true := by
  obtain ⟨trail, hparts, htrail⟩ := trimEnd_parts (c :: cs)
  rw [trim, List.dropWhile_append_of_pos hlead, List.dropWhile_cons_of_neg (by simp [hc])]
  cases hkept : ((c :: cs).reverse.dropWhile isWhitespace).reverse with
  | nil =>
    rw [hkept, List.nil_append] at hparts
    have hspace := htrail c (by rw [← hparts]; exact List.mem_cons_self)
    rw [hc] at hspace
    cases hspace
  | cons d rest =>
    rw [hkept, List.cons_append, List.cons.injEq] at hparts
    exact ⟨rest, trail, by rw [hparts.1], hparts.2, htrail⟩

theorem trim_sublist (cs : List Char) : (trim cs).Sublist cs := by
  obtain ⟨lead, trail, hparts, _⟩ := trim_parts cs
  conv_rhs => rw [hparts]
  exact (List.sublist_append_left _ trail).trans (List.sublist_append_right lead _)

theorem trim_eq_nil {cs : List Char} (h : trim cs = []) : ∀ c ∈ cs, isWhitespace c = true := by
  obtain ⟨lead, trail, hparts, hlead, htrail⟩ := trim_parts cs
  rw [h, List.nil_append] at hparts
  intro c hc
  rw [hparts, List.mem_append] at hc
  exact hc.elim (hlead c) (htrail c)

theorem stripPrefix_eq_some_iff {ps cs rest : List Char} :
    stripPrefix ps cs = some rest ↔ cs = ps ++ rest := by
  induction ps generalizing cs with
  | nil => simp [stripPrefix]
  | cons p ps ih =>
    cases cs with
    | nil => simp [stripPrefix]
    | cons c cs =>
      rw [stripPrefix, List.cons_append, List.cons.injEq]
      by_cases hp : p = c
      · rw [if_pos hp, ih]
        exact ⟨fun h => ⟨hp.symm, h⟩, fun h => h.2⟩
      · rw [if_neg hp]
        simp [Ne.symm hp]

/-- `str::split` by a predicate: the pieces between separators, always at least one. -/
def split (sep : Char → Bool) : List Char → List (List Char)
  | [] => [[]]
  | c :: cs =>
    if sep c then [] :: split sep cs
    else match split sep cs with
      | [] => [[c]]
      | piece :: pieces => (c :: piece) :: pieces

theorem split_ne_nil (sep : Char → Bool) (cs : List Char) : split sep cs ≠ [] := by
  cases cs with
  | nil => simp [split]
  | cons c cs =>
    rw [split]
    split
    · simp
    · split <;> simp

theorem split_of_no_sep (sep : Char → Bool) (cs : List Char) (h : ∀ c ∈ cs, sep c = false) :
    split sep cs = [cs] := by
  induction cs with
  | nil => rfl
  | cons c cs ih =>
    rw [split, ih (fun d hd => h d (by simp [hd])), h c (by simp)]
    simp

theorem split_append_sep (sep : Char → Bool) (cs : List Char) (h : ∀ c ∈ cs, sep c = false)
    (s : Char) (hs : sep s = true) (rest : List Char) :
    split sep (cs ++ s :: rest) = cs :: split sep rest := by
  induction cs with
  | nil => simp [split, hs]
  | cons c cs ih =>
    rw [List.cons_append, split, ih (fun d hd => h d (by simp [hd])), h c (by simp)]
    simp

theorem split_no_sep (sep : Char → Bool) (cs : List Char) :
    ∀ piece ∈ split sep cs, ∀ c ∈ piece, sep c = false := by
  induction cs with
  | nil =>
    intro piece hp c hc
    rw [split, List.mem_singleton] at hp
    subst hp
    cases hc
  | cons d cs ih =>
    intro piece hp c hc
    rw [split] at hp
    split at hp
    · obtain rfl | hp := List.mem_cons.mp hp
      · cases hc
      · exact ih piece hp c hc
    · rename_i hd
      split at hp
      · rename_i hnil
        exact absurd hnil (split_ne_nil sep cs)
      · rename_i first pieces hfirst
        rw [hfirst] at ih
        obtain rfl | hp := List.mem_cons.mp hp
        · obtain rfl | hc := List.mem_cons.mp hc
          · simpa using hd
          · exact ih first (by simp) c hc
        · exact ih piece (by simp [hp]) c hc

theorem split_subset (sep : Char → Bool) (cs : List Char) :
    ∀ piece ∈ split sep cs, ∀ c ∈ piece, c ∈ cs := by
  induction cs with
  | nil =>
    intro piece hp c hc
    rw [split, List.mem_singleton] at hp
    rw [hp] at hc
    exact hc
  | cons d cs ih =>
    intro piece hp c hc
    rw [split] at hp
    cases hsplit : split sep cs with
    | nil => exact absurd hsplit (split_ne_nil sep cs)
    | cons first pieces =>
      rw [hsplit] at hp ih
      by_cases hd : sep d = true
      · rw [if_pos hd, List.mem_cons] at hp
        cases hp with
        | inl hp =>
          rw [hp] at hc
          cases hc
        | inr hp => exact List.mem_cons_of_mem d (ih piece hp c hc)
      · rw [if_neg hd, List.mem_cons] at hp
        cases hp with
        | inl hp =>
          rw [hp, List.mem_cons] at hc
          exact List.mem_cons.mpr (hc.imp_right (ih first (by simp) c))
        | inr hp => exact List.mem_cons_of_mem d (ih piece (by simp [hp]) c hc)

/-- Pieces with one separator between each two. -/
def join (s : Char) : List (List Char) → List Char
  | [] => []
  | [piece] => piece
  | piece :: next :: pieces => piece ++ s :: join s (next :: pieces)

/-- Splitting undoes joining. -/
theorem split_join (sep : Char → Bool) (s : Char) (hs : sep s = true) :
    ∀ pieces : List (List Char), pieces ≠ [] → (∀ piece ∈ pieces, ∀ c ∈ piece, sep c = false) →
      split sep (join s pieces) = pieces
  | [], h, _ => absurd rfl h
  | [piece], _, h => split_of_no_sep sep piece (h piece (by simp))
  | piece :: next :: pieces, _, h => by
    rw [join, split_append_sep sep piece (h piece (by simp)) s hs,
      split_join sep s hs (next :: pieces) (by simp) fun p hp => h p (by simp [hp])]

/-- And joining undoes splitting. -/
theorem join_split (s : Char) (cs : List Char) : join s (split (· == s) cs) = cs := by
  induction cs with
  | nil => rfl
  | cons c cs ih =>
    rw [split]
    cases hsplit : split (· == s) cs with
    | nil => exact absurd hsplit (split_ne_nil _ cs)
    | cons piece pieces =>
      rw [hsplit] at ih
      by_cases hc : c = s
      · subst hc
        rw [if_pos (by simp), join, ih, List.nil_append]
      · rw [if_neg (by simp [hc])]
        cases pieces with
        | nil =>
          simp only [join] at ih ⊢
          rw [ih]
        | cons next pieces =>
          simp only [join] at ih ⊢
          rw [List.cons_append, ih]

theorem join_cons_head (s : Char) (c : Char) (cs : List Char) (pieces : List (List Char)) :
    ∃ rest, join s ((c :: cs) :: pieces) = c :: rest := by
  cases pieces with
  | nil => exact ⟨cs, rfl⟩
  | cons piece pieces => exact ⟨_, rfl⟩

theorem split_length_le (sep : Char → Bool) (cs : List Char) :
    (split sep cs).length ≤ cs.length + 1 := by
  induction cs with
  | nil => simp [split]
  | cons c cs ih =>
    rw [split, List.length_cons]
    split
    · rw [List.length_cons]
      omega
    · split
      · simp
      · rename_i piece pieces he
        rw [he, List.length_cons] at ih
        rw [List.length_cons]
        omega

theorem length_le_asBytes (s : String) : s.toList.length ≤ (asBytes s).length := by
  unfold asBytes encodeUtf8
  induction s.toList with
  | nil => simp
  | cons c cs ih =>
    have hc := c.utf8Size_pos
    rw [List.flatMap_cons, List.length_append, String.length_utf8EncodeChar, List.length_cons]
    omega

/-! ## Integers -/

/-- `std::num::IntErrorKind`, with the text of `ParseIntError`. -/
inductive IntErrorKind where
  | empty
  | invalidDigit
  | posOverflow
  | negOverflow
deriving DecidableEq, Repr

def IntErrorKind.text : IntErrorKind → String
  | .empty => "cannot parse integer from empty string"
  | .invalidDigit => "invalid digit found in string"
  | .posOverflow => "number too large to fit in target type"
  | .negOverflow => "number too small to fit in target type"

def toDigit (radix : ℕ) (c : Char) : Option ℕ :=
  let d :=
    if 48 ≤ c.toNat ∧ c.toNat ≤ 57 then c.toNat - 48
    else if 97 ≤ c.toNat ∧ c.toNat ≤ 122 then c.toNat - 97 + 10
    else if 65 ≤ c.toNat ∧ c.toNat ≤ 90 then c.toNat - 65 + 10
    else radix
  if d < radix then some d else none

theorem toDigit_eq_some_iff {radix d : ℕ} {c : Char} :
    toDigit radix c = some d ↔ d < radix ∧
      ((48 ≤ c.toNat ∧ c.toNat ≤ 57 ∧ d = c.toNat - 48) ∨
        (97 ≤ c.toNat ∧ c.toNat ≤ 122 ∧ d = c.toNat - 87) ∨
        (65 ≤ c.toNat ∧ c.toNat ≤ 90 ∧ d = c.toNat - 55)) := by
  unfold toDigit
  simp only [Option.ite_none_right_eq_some, Option.some.injEq]
  by_cases hdecimal : 48 ≤ c.toNat ∧ c.toNat ≤ 57
  · rw [if_pos hdecimal]
    omega
  · by_cases hlower : 97 ≤ c.toNat ∧ c.toNat ≤ 122
    · rw [if_neg hdecimal, if_pos hlower]
      omega
    · by_cases hupper : 65 ≤ c.toNat ∧ c.toNat ≤ 90
      · rw [if_neg hdecimal, if_neg hlower, if_pos hupper]
        omega
      · rw [if_neg hdecimal, if_neg hlower, if_neg hupper]
        omega

theorem toDigit_lt {radix d : ℕ} {c : Char} (h : toDigit radix c = some d) : d < radix :=
  (toDigit_eq_some_iff.mp h).1

/-- Digits left to right onto `acc`; the first bad digit or overflow past `max` decides. -/
def accumulate (radix max : ℕ) (overflow : IntErrorKind) :
    ℕ → List Char → Except IntErrorKind ℕ
  | acc, [] => .ok acc
  | acc, c :: cs =>
    match toDigit radix c with
    | none => .error .invalidDigit
    | some d =>
      if max < acc * radix + d then .error overflow
      else accumulate radix max overflow (acc * radix + d) cs

/-- `from_str_radix` of an unsigned type; a leading `+` is allowed, a `-` is a bad digit. -/
def parseUnsigned (radix max : ℕ) : List Char → Except IntErrorKind ℕ
  | [] => .error .empty
  | ['+'] => .error .invalidDigit
  | ['-'] => .error .invalidDigit
  | '+' :: rest => accumulate radix max .posOverflow 0 rest
  | cs => accumulate radix max .posOverflow 0 cs

/-- `from_str` of a signed type with values from `-(max + 1)` to `max`. -/
def parseSigned (max : ℕ) : List Char → Except IntErrorKind ℤ
  | [] => .error .empty
  | ['+'] => .error .invalidDigit
  | ['-'] => .error .invalidDigit
  | '+' :: rest => (accumulate 10 max .posOverflow 0 rest).map Int.ofNat
  | '-' :: rest => (accumulate 10 (max + 1) .negOverflow 0 rest).map fun n => -(n : ℤ)
  | cs => (accumulate 10 max .posOverflow 0 cs).map Int.ofNat

def parseU8Hex (cs : List Char) : Except IntErrorKind UInt8 :=
  (parseUnsigned 16 (2 ^ 8 - 1) cs).map UInt8.ofNat

def parseU32 (cs : List Char) : Except IntErrorKind UInt32 :=
  (parseUnsigned 10 (2 ^ 32 - 1) cs).map UInt32.ofNat

def parseU64 (cs : List Char) : Except IntErrorKind UInt64 :=
  (parseUnsigned 10 (2 ^ 64 - 1) cs).map UInt64.ofNat

def parseI32 (cs : List Char) : Except IntErrorKind Int32 :=
  (parseSigned (2 ^ 31 - 1) cs).map Int32.ofInt

example : parseU32 "+007".toList = .ok 7 := by decide
example : parseU32 "4294967296".toList = .error .posOverflow := by decide
example : parseI32 "-2147483648".toList = .ok (-2147483648) := by decide

end SnmpTrap.Rust
