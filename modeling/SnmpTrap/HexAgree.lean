import SnmpTrap.Engine
import SnmpTrap.HexGrammar

/-! Two hex readers: the engine-ID parser accepts the texts of the var-bind parser with 5 to 32
octets, and reads the same octets in them. -/
namespace SnmpTrap
open Rust Numeral
set_option autoImplicit false
set_option maxHeartbeats 250000
set_option maxRecDepth 120000

/-! ## One nibble -/

theorem decodeHexNibble_ascii : ∀ n < 128, ∀ d < 16, toDigit 16 (Char.ofNat n) = some d →
    decodeHexNibble (UInt8.ofNat n) = .ok (UInt8.ofNat d) := by decide +kernel

theorem decodeHexNibble_of_digit {c : Char} {d : ℕ} (h : toDigit 16 c = some d) :
    decodeHexNibble (UInt8.ofNat c.toNat) = .ok (UInt8.ofNat d) := by
  apply decodeHexNibble_ascii c.toNat (lt_of_toDigit h) d (toDigit_lt h)
  rw [Char.ofNat_toNat]
  exact h

theorem decodeHexNibble_ok {b v : UInt8} (h : decodeHexNibble b = .ok v) :
    (48 ≤ b.toNat ∧ b.toNat ≤ 57) ∨ (97 ≤ b.toNat ∧ b.toNat ≤ 102) ∨
      (65 ≤ b.toNat ∧ b.toNat ≤ 70) := by
  unfold decodeHexNibble at h
  simp only [UInt8.le_iff_toNat_le, UInt8.reduceToNat] at h
  by_cases hdecimal : 48 ≤ b.toNat ∧ b.toNat ≤ 57
  · exact Or.inl hdecimal
  · by_cases hlower : 97 ≤ b.toNat ∧ b.toNat ≤ 102
    · exact Or.inr (Or.inl hlower)
    · by_cases hupper : 65 ≤ b.toNat ∧ b.toNat ≤ 70
      · exact Or.inr (Or.inr hupper)
      · rw [if_neg hdecimal, if_neg hlower, if_neg hupper] at h
        exact absurd h (Outcome.fail_ne_ok _ _)

theorem shift_or_nibbles : ∀ high < 16, ∀ low < 16,
    UInt8.ofNat high <<< 4 ||| UInt8.ofNat low = UInt8.ofNat (16 * high + low) := by decide +kernel

/-! ## All nibbles -/

theorem nibblePairs_eq (cs : List Char) (hall : AllDigits 16 cs) (heven : cs.length % 2 = 0) :
    nibblePairs (chunks 2 (encodeUtf8 cs)) = .ok (ofNibbles (digitsOf 16 cs)) := by
  refine digitPairs_induction (motive := fun cs =>
    nibblePairs (chunks 2 (encodeUtf8 cs)) = .ok (ofNibbles (digitsOf 16 cs))) rfl ?_ cs hall heven
  intro c d high low cs hc hd ih
  rw [encodeUtf8_cons_ascii (lt_of_toDigit hc), encodeUtf8_cons_ascii (lt_of_toDigit hd),
    chunks_two, nibblePairs, Outcome.index_eq_ok (by simp), Outcome.ok_bind,
    List.getElem_cons_zero, decodeHexNibble_of_digit hc, Outcome.ok_bind,
    Outcome.index_eq_ok (by simp), Outcome.ok_bind, List.getElem_cons_succ,
    List.getElem_cons_zero, decodeHexNibble_of_digit hd, Outcome.ok_bind, ih, Outcome.ok_bind,
    digitsOf_cons hc, digitsOf_cons hd, ofNibbles,
    shift_or_nibbles high (toDigit_lt hc) low (toDigit_lt hd)]

/-- Where the decoder succeeds, every octet is a digit and each pair gives one. -/
theorem nibblePairs_ok : ∀ (bs : List UInt8) {out : List UInt8}, bs.length % 2 = 0 →
    nibblePairs (chunks 2 bs) = .ok out →
    (∀ b ∈ bs, ∃ v, decodeHexNibble b = .ok v) ∧ 2 * out.length = bs.length
  | [], _, _, h => by
    cases h
    exact ⟨by simp, rfl⟩
  | [_], _, heven, _ => by
    rw [List.length_singleton] at heven
    omega
  | b₀ :: b₁ :: bs, _, heven, h => by
    rw [chunks_two] at h
    obtain ⟨_, hzero, h⟩ := Outcome.bind_ok_iff.mp h
    obtain ⟨hi, hhi, h⟩ := Outcome.bind_ok_iff.mp h
    obtain ⟨_, hone, h⟩ := Outcome.bind_ok_iff.mp h
    obtain ⟨lo, hlo, h⟩ := Outcome.bind_ok_iff.mp h
    obtain ⟨rest, hrest, h⟩ := Outcome.bind_ok_iff.mp h
    cases h
    cases Outcome.index_ok_iff.mp hzero
    cases Outcome.index_ok_iff.mp hone
    rw [List.length_cons, List.length_cons] at heven
    obtain ⟨hall, hlen⟩ := nibblePairs_ok bs (by omega) hrest
    rw [List.forall_mem_cons, List.forall_mem_cons, List.length_cons, List.length_cons,
      List.length_cons]
    exact ⟨⟨⟨hi, hhi⟩, ⟨lo, hlo⟩, hall⟩, by omega⟩

/-- A character outside ASCII has an octet that is not a digit. -/
theorem exists_large_octet {c : Char} (h : 128 ≤ c.toNat) :
    ∃ b ∈ String.utf8EncodeChar c, 128 ≤ b.toNat := by
  refine ⟨UInt8.ofNat (c.val.toNat % 0x40 + 0x80), ?_, ?_⟩
  · have hval : ¬ c.val.toNat ≤ 0x7f := Nat.not_le.mpr h
    simp only [String.utf8EncodeChar]
    rw [if_neg hval]
    split
    · simp
    · split
      · simp
      · simp
  · rw [UInt8.toNat_ofNat']
    omega

theorem allDigits_of_octets {cs : List Char}
    (h : ∀ b ∈ encodeUtf8 cs, ∃ v, decodeHexNibble b = .ok v) : AllDigits 16 cs := by
  intro c hc
  have hchar : ∀ b ∈ String.utf8EncodeChar c, ∃ v, decodeHexNibble b = .ok v :=
    fun b hb => h b (List.mem_flatMap.mpr ⟨c, hc, hb⟩)
  by_cases hascii : c.toNat < 128
  · obtain ⟨v, hv⟩ := hchar (UInt8.ofNat c.toNat) (by simp [utf8EncodeChar_ascii hascii])
    have hdigit := decodeHexNibble_ok hv
    have hb : (UInt8.ofNat c.toNat).toNat = c.toNat := by
      rw [UInt8.toNat_ofNat']
      omega
    rw [hb] at hdigit
    exact isAsciiHexdigit_iff.mpr hdigit
  · obtain ⟨b, hb, hlarge⟩ := exists_large_octet (Nat.le_of_not_lt hascii)
    obtain ⟨v, hv⟩ := hchar b hb
    have hdigit := decodeHexNibble_ok hv
    omega

/-! ## The engine-ID parser -/

theorem isWhitespace_of_ascii {c : Char} (h : isAsciiWhitespace c = true) :
    isWhitespace c = true := by
  simp only [isAsciiWhitespace, isWhitespace, Bool.or_eq_true, Bool.and_eq_true, beq_iff_eq,
    decide_eq_true_eq] at h ⊢
  omega

/-- What is left of the text before its octets are decoded. -/
def engineIdCleaned (s : String) : List Char :=
  (stripHexPrefix (trim s.toList)).filter fun c => !isAsciiWhitespace c && c != ':'

theorem spells_of_accepted {s : String} {e : EngineId} (h : EngineId.parseUserInput s = .ok e) :
    Spells (engineIdCleaned s) e.bytes := by
  unfold EngineId.parseUserInput at h
  simp only at h
  rw [← engineIdCleaned] at h
  split at h
  · exact absurd h (Outcome.fail_ne_ok _ _)
  · split at h
    · exact absurd h (Outcome.fail_ne_ok _ _)
    · split at h
      · exact absurd h (Outcome.fail_ne_ok _ _)
      · rename_i heven
        have heven : (encodeUtf8 (engineIdCleaned s)).length % 2 = 0 := not_not.mp heven
        obtain ⟨bytes, hbytes, h⟩ := Outcome.bind_ok_iff.mp h
        have hall := allDigits_of_octets (nibblePairs_ok _ heven hbytes).1
        rw [encodeUtf8_length_ascii fun c hc => lt_of_isAsciiHexdigit (hall c hc)] at heven
        rw [nibblePairs_eq _ hall heven] at hbytes
        cases hbytes
        split at h
        · exact absurd h (Outcome.fail_ne_ok _ _)
        · split at h
          · exact absurd h (Outcome.fail_ne_ok _ _)
          · cases h
            exact (spells_iff hall heven).mpr rfl

theorem accepted_of_spells {s : String} {e : EngineId} (h : Spells (engineIdCleaned s) e.bytes) :
    EngineId.parseUserInput s = .ok e := by
  have hmin : 5 ≤ e.bytes.length := e.min_le
  have hmax : e.bytes.length ≤ 32 := e.le_max
  have hcount := h.even
  have hlen := encodeUtf8_length_ascii fun c hc => lt_of_isAsciiHexdigit (h.1 c hc)
  have heven : (engineIdCleaned s).length % 2 = 0 := by omega
  have hne : encodeUtf8 (engineIdCleaned s) ≠ [] := List.ne_nil_of_length_pos (by omega)
  unfold EngineId.parseUserInput
  simp only
  rw [← engineIdCleaned, if_neg hne, if_neg (by rw [hlen, maxEngineId]; omega), hlen,
    if_neg (not_not.mpr heven), nibblePairs_eq _ h.1 heven, (spells_iff h.1 heven).mp h,
    Outcome.ok_bind, dif_neg (Nat.not_lt.mpr e.min_le), dif_neg (Nat.not_lt.mpr e.le_max)]

theorem parseUserInput_ok_iff {s : String} {e : EngineId} :
    EngineId.parseUserInput s = .ok e ↔ Spells (engineIdCleaned s) e.bytes :=
  ⟨spells_of_accepted, accepted_of_spells⟩

/-- The two notions of white space agree on the text that is left after trimming. -/
theorem engineIdCleaned_eq {s : String}
    (h : ∀ c ∈ trim s.toList, isWhitespace c = true → isAsciiWhitespace c = true) :
    engineIdCleaned s = hexCleaned s := by
  apply List.filter_congr
  intro c hc
  have hspace : isAsciiWhitespace c = isWhitespace c := by
    rw [Bool.eq_iff_iff]
    exact ⟨isWhitespace_of_ascii, h c ((stripHexPrefix_sublist _).subset hc)⟩
  rw [hspace]

/-- **Two parsers, one reader**: an engine ID is accepted where the var-bind parser reads the same
octets and there are 5 to 32 of them, and what is decoded is never too long. -/
theorem parseUserInput_agrees (s : String)
    (hspace : ∀ c ∈ trim s.toList, isWhitespace c = true → isAsciiWhitespace c = true) :
    (∀ bs : List UInt8, (∃ e, EngineId.parseUserInput s = .ok e ∧ e.bytes = bs) ↔
      parseHexString s = .ok bs ∧ 5 ≤ bs.length ∧ bs.length ≤ 32) ∧
    (EngineId.parseUserInput s).Safe ∧ (parseHexString s).Safe ∧
    ∀ bytes, (encodeUtf8 (engineIdCleaned s)).length ≤ maxEngineId * 2 →
      (encodeUtf8 (engineIdCleaned s)).length % 2 = 0 →
      nibblePairs (chunks 2 (encodeUtf8 (engineIdCleaned s))) = .ok bytes →
      ¬ maxEngineId < bytes.length := by
  refine ⟨?_, EngineId.safe_parseUserInput s, safe_parseHexString s, ?_⟩
  · intro bs
    rw [parseHexString_ok_iff, ← engineIdCleaned_eq hspace]
    constructor
    · rintro ⟨e, he, rfl⟩
      exact ⟨parseUserInput_ok_iff.mp he, e.min_le, e.le_max⟩
    · rintro ⟨hspells, hmin, hmax⟩
      exact ⟨⟨bs, hmin, hmax⟩, parseUserInput_ok_iff.mpr hspells, rfl⟩
  · intro bytes hfits heven hbytes
    have hlen := (nibblePairs_ok _ heven hbytes).2
    omega

theorem parseUserInput_agrees_prefixed :
    ∃ e, EngineId.parseUserInput " 0x80:00 F0\t45 01" = .ok e ∧
      e.bytes = [0x80, 0x00, 0xF0, 0x45, 0x01] := by
  have hall : (trim " 0x80:00 F0\t45 01".toList).all
      (fun c => !isWhitespace c || isAsciiWhitespace c) = true := by decide +kernel
  have hspace : ∀ c ∈ trim " 0x80:00 F0\t45 01".toList,
      isWhitespace c = true → isAsciiWhitespace c = true := by
    intro c hc hwhite
    have hc := List.all_eq_true.mp hall c hc
    rw [hwhite] at hc
    exact hc
  have hparse : parseHexString " 0x80:00 F0\t45 01" = .ok [0x80, 0x00, 0xF0, 0x45, 0x01] := by
    decide +kernel
  exact ((parseUserInput_agrees _ hspace).1 _).mpr ⟨hparse, by decide, by decide⟩

end SnmpTrap
