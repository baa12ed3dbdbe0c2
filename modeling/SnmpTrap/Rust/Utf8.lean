import SnmpTrap.Rust.Text

/-! UTF-8 both ways: what `from_utf8` accepts is what `as_bytes` gives, and of no other text. -/
namespace SnmpTrap.Rust
set_option autoImplicit false
set_option maxHeartbeats 250000
set_option maxRecDepth 120000

/-! ## One character -/

theorem toNat_ofNat_char {n : ℕ} (h : n < 0xD800 ∨ 0xDFFF < n ∧ n < 0x110000) :
    (Char.ofNat n).toNat = n := by
  have hvalid : n.isValidChar := h
  rw [Char.ofNat, dif_pos hvalid]
  rfl

theorem isContinuation_iff {b : UInt8} :
    isContinuation b = true ↔ 0x80 ≤ b.toNat ∧ b.toNat < 0xC0 := by
  rw [isContinuation, Bool.and_eq_true, decide_eq_true_iff, decide_eq_true_iff,
    UInt8.le_iff_toNat_le, UInt8.lt_iff_toNat_lt]
  rfl

theorem octet_eq {n : ℕ} {b : UInt8} (h : n = b.toNat) : UInt8.ofNat n = b := by
  rw [h, UInt8.ofNat_toNat]

/-- A code point of one to four octets, the octets as `from_utf8` tests them. -/
inductive Spelt : List UInt8 → ℕ → Prop where
  | one {b₀ : UInt8} {code : ℕ} (hcode : code = b₀.toNat) (h₀ : b₀.toNat < 0x80) :
    Spelt [b₀] code
  | two {b₀ b₁ : UInt8} {code : ℕ} (hcode : code = (b₀.toNat - 0xC0) * 64 + (b₁.toNat - 0x80))
      (h₀ : 0xC2 ≤ b₀.toNat ∧ b₀.toNat < 0xE0) (h₁ : 0x80 ≤ b₁.toNat ∧ b₁.toNat < 0xC0) :
      Spelt [b₀, b₁] code
  | three {b₀ b₁ b₂ : UInt8} {code : ℕ}
      (hcode : code = (b₀.toNat - 0xE0) * 4096 + (b₁.toNat - 0x80) * 64 + (b₂.toNat - 0x80))
      (h₀ : 0xE0 ≤ b₀.toNat ∧ b₀.toNat < 0xF0) (h₁ : 0x80 ≤ b₁.toNat ∧ b₁.toNat < 0xC0)
      (h₂ : 0x80 ≤ b₂.toNat ∧ b₂.toNat < 0xC0) (hlong : 0x800 ≤ code)
      (hsurrogate : ¬ (0xD800 ≤ code ∧ code ≤ 0xDFFF)) : Spelt [b₀, b₁, b₂] code
  | four {b₀ b₁ b₂ b₃ : UInt8} {code : ℕ}
      (hcode : code = (b₀.toNat - 0xF0) * 262144 + (b₁.toNat - 0x80) * 4096 +
        (b₂.toNat - 0x80) * 64 + (b₃.toNat - 0x80))
      (h₀ : 0xF0 ≤ b₀.toNat ∧ b₀.toNat < 0xF5) (h₁ : 0x80 ≤ b₁.toNat ∧ b₁.toNat < 0xC0)
      (h₂ : 0x80 ≤ b₂.toNat ∧ b₂.toNat < 0xC0) (h₃ : 0x80 ≤ b₃.toNat ∧ b₃.toNat < 0xC0)
      (hrange : 0x10000 ≤ code ∧ code ≤ 0x10FFFF) : Spelt [b₀, b₁, b₂, b₃] code

theorem Spelt.valid {bs : List UInt8} {code : ℕ} (h : Spelt bs code) :
    code < 0xD800 ∨ 0xDFFF < code ∧ code < 0x110000 := by
  cases h <;> omega

theorem octet_toNat {n : ℕ} (h : n < 256) : (UInt8.ofNat n).toNat = n := by
  rw [UInt8.toNat_ofNat']
  omega

/-- The octets of a character spell its code. -/
theorem spelt_utf8EncodeChar (c : Char) : Spelt (String.utf8EncodeChar c) c.toNat := by
  have hvalid : c.toNat < 0xD800 ∨ 0xDFFF < c.toNat ∧ c.toNat < 0x110000 := c.valid
  have hcode : c.val.toNat = c.toNat := rfl
  have hlast := octet_toNat (n := c.toNat % 0x40 + 0x80) (by omega)
  have hsecond := octet_toNat (n := c.toNat / 64 % 0x40 + 0x80) (by omega)
  have hthird := octet_toNat (n := c.toNat / 4096 % 0x40 + 0x80) (by omega)
  unfold String.utf8EncodeChar
  simp only [hcode]
  split
  · have hfirst := octet_toNat (n := c.toNat) (by omega)
    exact .one (by omega) (by omega)
  · split
    · have hfirst := octet_toNat (n := c.toNat / 64 % 0x20 + 0xc0) (by omega)
      exact .two (by omega) (by omega) (by omega)
    · split
      · have hfirst := octet_toNat (n := c.toNat / 4096 % 0x10 + 0xe0) (by omega)
        exact .three (by omega) (by omega) (by omega) (by omega) (by omega) (by omega)
      · have hfirst := octet_toNat (n := c.toNat / 262144 % 0x08 + 0xf0) (by omega)
        exact .four (by omega) (by omega) (by omega) (by omega) (by omega) (by omega)

/-- And only those octets do. -/
theorem Spelt.utf8EncodeChar {bs : List UInt8} {code : ℕ} (h : Spelt bs code) :
    String.utf8EncodeChar (Char.ofNat code) = bs := by
  have hcode : (Char.ofNat code).val.toNat = code := toNat_ofNat_char h.valid
  unfold String.utf8EncodeChar
  simp only [hcode]
  cases h with
  | one hcode h₀ => rw [if_pos (by omega), octet_eq hcode]
  | two hcode h₀ h₁ =>
    rw [if_neg (by omega), if_pos (by omega)]
    simp only [List.cons.injEq, and_true]
    exact ⟨octet_eq (by omega), octet_eq (by omega)⟩
  | three hcode h₀ h₁ h₂ hlong hsurrogate =>
    rw [if_neg (by omega), if_neg (by omega), if_pos (by omega)]
    simp only [List.cons.injEq, and_true]
    exact ⟨octet_eq (by omega), octet_eq (by omega), octet_eq (by omega)⟩
  | four hcode h₀ h₁ h₂ h₃ hrange =>
    rw [if_neg (by omega), if_neg (by omega), if_neg (by omega)]
    simp only [List.cons.injEq, and_true]
    exact ⟨octet_eq (by omega), octet_eq (by omega), octet_eq (by omega), octet_eq (by omega)⟩

/-! ## Texts -/

/-- The decoder takes one character off the front. -/
theorem fromUtf8_spelt {bs : List UInt8} {code : ℕ} (h : Spelt bs code) (rest : List UInt8) :
    fromUtf8 (bs ++ rest) = (fromUtf8 rest).map (Char.ofNat code :: ·) := by
  cases h with
  | one hcode h₀ =>
    rw [List.cons_append, List.nil_append, fromUtf8.eq_def]
    simp only [UInt8.lt_iff_toNat_lt, UInt8.reduceToNat]
    rw [if_pos h₀, hcode]
  | two hcode h₀ h₁ =>
    rw [List.cons_append, List.cons_append, List.nil_append, fromUtf8.eq_def]
    simp only [UInt8.lt_iff_toNat_lt, UInt8.le_iff_toNat_le, UInt8.reduceToNat, Bool.and_eq_true,
      decide_eq_true_eq, isContinuation_iff]
    rw [if_neg (by omega), if_pos (by omega), hcode]
  | three hcode h₀ h₁ h₂ hlong hsurrogate =>
    rw [List.cons_append, List.cons_append, List.cons_append, List.nil_append, fromUtf8.eq_def]
    simp only [UInt8.lt_iff_toNat_lt, UInt8.le_iff_toNat_le, UInt8.reduceToNat, Bool.and_eq_true,
      decide_eq_true_eq, isContinuation_iff, Bool.not_eq_true', Bool.and_eq_false_iff,
      decide_eq_false_iff_not]
    rw [if_neg (by omega), if_neg (by omega), if_pos (by omega), hcode]
  | four hcode h₀ h₁ h₂ h₃ hrange =>
    rw [List.cons_append, List.cons_append, List.cons_append, List.cons_append, List.nil_append,
      fromUtf8.eq_def]
    simp only [UInt8.lt_iff_toNat_lt, UInt8.le_iff_toNat_le, UInt8.reduceToNat, Bool.and_eq_true,
      decide_eq_true_eq, isContinuation_iff]
    rw [if_neg (by omega), if_neg (by omega), if_neg (by omega), if_pos (by omega), hcode]

theorem fromUtf8_encodeUtf8 (cs : List Char) : fromUtf8 (encodeUtf8 cs) = some cs := by
  induction cs with
  | nil => rfl
  | cons c cs ih =>
    rw [encodeUtf8, List.flatMap_cons, fromUtf8_spelt (spelt_utf8EncodeChar c), ← encodeUtf8, ih,
      Char.ofNat_toNat]
    rfl

/-- What the decoder accepts starts with the octets of one character. -/
theorem exists_spelt {b₀ : UInt8} {bs : List UInt8} {cs : List Char}
    (h : fromUtf8 (b₀ :: bs) = some cs) :
    ∃ front rest code, b₀ :: bs = front ++ rest ∧ Spelt front code := by
  rw [fromUtf8.eq_def] at h
  simp only [UInt8.lt_iff_toNat_lt, UInt8.le_iff_toNat_le, UInt8.reduceToNat, Bool.and_eq_true,
    decide_eq_true_eq, isContinuation_iff, Bool.not_eq_true', Bool.and_eq_false_iff,
    decide_eq_false_iff_not] at h
  split at h
  · rename_i h₀
    exact ⟨[b₀], bs, _, rfl, .one rfl h₀⟩
  · split at h
    · cases h
    · rename_i b₁ bs
      split at h
      · rename_i h₀₁
        exact ⟨[b₀, b₁], bs, _, rfl, .two rfl h₀₁.1 h₀₁.2⟩
      · split at h
        · cases h
        · rename_i b₂ bs
          split at h
          · rename_i hthree
            obtain ⟨⟨⟨⟨h₀, h₁⟩, h₂⟩, hlong⟩, hsurrogate⟩ := hthree
            exact ⟨[b₀, b₁, b₂], bs, _, rfl, .three rfl h₀ h₁ h₂ hlong (by omega)⟩
          · split at h
            · cases h
            · rename_i b₃ bs
              split at h
              · rename_i hfour
                obtain ⟨⟨⟨⟨⟨h₀, h₁⟩, h₂⟩, h₃⟩, hlo⟩, hhi⟩ := hfour
                exact ⟨[b₀, b₁, b₂, b₃], bs, _, rfl, .four rfl h₀ h₁ h₂ h₃ ⟨hlo, hhi⟩⟩
              · cases h

theorem Spelt.length_pos {bs : List UInt8} {code : ℕ} (h : Spelt bs code) : 0 < bs.length := by
  cases h <;> exact Nat.succ_pos _

/-- `from_utf8` reads the text that `as_bytes` makes the octets of. -/
theorem fromUtf8_eq_some_iff {bs : List UInt8} {cs : List Char} :
    fromUtf8 bs = some cs ↔ encodeUtf8 cs = bs := by
  constructor
  · intro h
    induction hn : bs.length using Nat.strong_induction_on generalizing bs cs with
    | _ n ih =>
      cases bs with
      | nil =>
        cases h
        rfl
      | cons b₀ bs =>
        obtain ⟨front, rest, code, hparts, hspelt⟩ := exists_spelt h
        rw [hparts, fromUtf8_spelt hspelt] at h
        obtain ⟨ds, hds, rfl⟩ := Option.map_eq_some_iff.mp h
        have hlen := congrArg List.length hparts
        rw [hn, List.length_append] at hlen
        have hpos := hspelt.length_pos
        rw [encodeUtf8, List.flatMap_cons, hspelt.utf8EncodeChar, ← encodeUtf8,
          ih rest.length (by omega) hds rfl, hparts]
  · rintro rfl
    exact fromUtf8_encodeUtf8 cs

theorem encodeUtf8_injective {cs ds : List Char} (h : encodeUtf8 cs = encodeUtf8 ds) : cs = ds := by
  have hback := fromUtf8_encodeUtf8 cs
  rw [h, fromUtf8_encodeUtf8] at hback
  exact (Option.some.inj hback).symm

end SnmpTrap.Rust
