import SnmpTrap.Rust.Decimal
import SnmpTrap.Rust.Net

/-! The text of IPv4 addresses: the parser takes exactly what `Display` prints, and so do a port
behind a colon and the parser of socket addresses made of the two. -/
namespace SnmpTrap.Rust
open Numeral
set_option autoImplicit false
set_option maxHeartbeats 250000
set_option maxRecDepth 120000

/-! ## Where a number ends -/

/-- No digit comes first. -/
def NoDigit (rest : List Char) : Prop := ∀ c ∈ rest.head?, ¬ IsDigit c

theorem noDigit_nil : NoDigit [] := by
  intro c hc
  cases hc

theorem noDigit_cons {c : Char} {rest : List Char} (h : ¬ IsDigit c) : NoDigit (c :: rest) := by
  intro d hd
  cases hd
  exact h

theorem toDigit_decimal_isSome (c : Char) : (toDigit 10 c).isSome = true ↔ IsDigit c :=
  toDigit_decimal_isSome_iff

theorem takeWhile_digits {ds rest : List Char} (hds : ∀ c ∈ ds, IsDigit c) (hrest : NoDigit rest) :
    (ds ++ rest).takeWhile (fun c => (toDigit 10 c).isSome) = ds ∧
      (ds ++ rest).dropWhile (fun c => (toDigit 10 c).isSome) = rest := by
  have hall : ∀ c ∈ ds, (toDigit 10 c).isSome = true := fun c hc =>
    (toDigit_decimal_isSome c).mpr (hds c hc)
  rw [List.takeWhile_append_of_pos hall, List.dropWhile_append_of_pos hall]
  cases rest with
  | nil => simp
  | cons c rest =>
    have hc : ¬ (toDigit 10 c).isSome = true := fun h =>
      hrest c rfl ((toDigit_decimal_isSome c).mp h)
    rw [List.takeWhile_cons_of_neg (p := fun c => (toDigit 10 c).isSome) hc,
      List.dropWhile_cons_of_neg (p := fun c => (toDigit 10 c).isSome) hc, List.append_nil]
    exact ⟨rfl, rfl⟩

theorem digitsValue_of_isDecimal {cs : List Char} {n : ℕ} (h : IsDecimal cs n) :
    digitsValue 10 cs = n := by
  obtain ⟨_, _, hvalue⟩ := denotes_ten_iff.mpr h
  rw [← hvalue, digitsValue, ofDigits, digitsOf, List.foldl_map]

theorem isDecimal_digitsValue {cs : List Char} (hne : cs ≠ []) (h : ∀ c ∈ cs, IsDigit c) :
    IsDecimal cs (digitsValue 10 cs) := by
  have hdecimal : IsDecimal cs (ofDigits 10 (cs.map fun c => c.toNat - 48)) := ⟨hne, h, rfl⟩
  rwa [digitsValue_of_isDecimal hdecimal]

theorem span_digits (cs : List Char) : ∃ ds rest, cs = ds ++ rest ∧ (∀ c ∈ ds, IsDigit c) ∧
    NoDigit rest := by
  refine ⟨_, _, (List.takeWhile_append_dropWhile
    (p := fun c => (toDigit 10 c).isSome) (l := cs)).symm, ?_, ?_⟩
  · intro c hc
    exact (toDigit_decimal_isSome c).mp
      (List.mem_takeWhile_imp (p := fun c => (toDigit 10 c).isSome) hc)
  · intro c hc hdigit
    have hnot := List.head?_dropWhile_not (fun c => (toDigit 10 c).isSome) cs
    rw [Option.mem_def.mp hc] at hnot
    have hsome := (toDigit_decimal_isSome c).mpr hdigit
    simp only [hsome] at hnot
    cases hnot

/-! ## Octets -/

theorem repr_length_le {n k : ℕ} (hk : 0 < k) (h : n < 10 ^ k) : n.repr.toList.length ≤ k := by
  rw [Nat.toList_repr]
  exact (Nat.length_toDigits_le_iff (by decide) hk).mpr h

/-- A group is what `Display` prints of an octet, up to where its digits end. -/
theorem readOctet_iff {cs rest : List Char} {b : UInt8} :
    readOctet cs = some (b, rest) ↔ cs = (toString b).toList ++ rest ∧ NoDigit rest := by
  have hprinted : (toString b).toList = b.toNat.repr.toList := rfl
  rw [hprinted]
  constructor
  · intro h
    obtain ⟨ds, rest', rfl, hds, hrest⟩ := span_digits cs
    obtain ⟨htake, hdrop⟩ := takeWhile_digits hds hrest
    rw [readOctet, readNumber, htake, hdrop] at h
    simp only at h
    split at h
    · cases h
    · rename_i hlen
      split at h
      · cases h
      · rename_i hzero
        split at h
        · cases h
        · rename_i hlimit
          simp only [Option.map_some, Option.some.injEq, Prod.mk.injEq] at h
          obtain ⟨rfl, rfl⟩ := h
          have hne : ds ≠ [] := by
            rintro rfl
            exact hlen (Or.inl rfl)
          have hcanonical : Canonical ds := by
            intro hhead
            have hlong : ¬ 1 < ds.length := fun hlong => hzero ⟨trivial, hhead, hlong⟩
            have := List.length_pos_iff.mpr hne
            omega
          have hvalue := eq_repr_of_canonical (isDecimal_digitsValue hne hds) hcanonical
          refine ⟨?_, hrest⟩
          rw [UInt8.toNat_ofNat', Nat.mod_eq_of_lt (by omega), ← hvalue]
  · rintro ⟨rfl, hrest⟩
    have hb := b.toNat_lt
    obtain ⟨htake, hdrop⟩ := takeWhile_digits (isDigit_of_mem_repr (n := b.toNat)) hrest
    have hpos := List.length_pos_iff.mpr (repr_ne_nil b.toNat)
    have hlen := repr_length_le (n := b.toNat) (k := 3) (by decide) (by omega)
    have hvalue := digitsValue_of_isDecimal (isDecimal_repr b.toNat)
    have hcanonical := canonical_repr b.toNat
    rw [readOctet, readNumber, htake, hdrop]
    simp only
    rw [if_neg (by omega), if_neg, if_neg (by omega), hvalue]
    · rw [Option.map_some, UInt8.ofNat_toNat]
    · rintro ⟨_, hzero, hlong⟩
      have := hcanonical hzero
      omega

theorem readGivenChar_iff {c : Char} {cs rest : List Char} :
    readGivenChar c cs = some rest ↔ cs = c :: rest := by
  cases cs with
  | nil => simp [readGivenChar]
  | cons d cs =>
    rw [readGivenChar, List.cons.injEq, Option.ite_none_right_eq_some, Option.some.injEq]

theorem readDotOctet_iff {cs rest : List Char} {b : UInt8} :
    (readGivenChar '.' cs).bind readOctet = some (b, rest) ↔
      cs = '.' :: (toString b).toList ++ rest ∧ NoDigit rest := by
  rw [Option.bind_eq_some_iff]
  simp only [readGivenChar_iff, readOctet_iff]
  constructor
  · rintro ⟨_, rfl, rfl, hrest⟩
    exact ⟨rfl, hrest⟩
  · rintro ⟨rfl, hrest⟩
    exact ⟨_, rfl, rfl, hrest⟩

/-! ## Addresses -/

theorem toList_display (ip : Ipv4Addr) : ip.display.toList = (toString ip.a).toList ++
    ('.' :: (toString ip.b).toList ++ ('.' :: (toString ip.c).toList ++
      ('.' :: (toString ip.d).toList))) := by
  have hdisplay : ip.display = toString ip.a ++ "." ++ toString ip.b ++ "." ++ toString ip.c ++
      "." ++ toString ip.d := rfl
  have hdot : ".".toList = ['.'] := rfl
  simp only [hdisplay, String.toList_append, hdot, List.append_assoc, List.cons_append,
    List.nil_append]

theorem readIpv4Addr_iff {cs rest : List Char} {ip : Ipv4Addr} :
    readIpv4Addr cs = some (ip, rest) ↔ cs = ip.display.toList ++ rest ∧ NoDigit rest := by
  have hdot : ¬ IsDigit '.' := by unfold IsDigit; decide
  rw [readIpv4Addr, toList_display]
  simp only [Option.bind_eq_bind, Option.bind_eq_some_iff (x := readOctet _),
    Option.bind_eq_some_iff (x := (readGivenChar _ _).bind _), Prod.exists, readOctet_iff,
    readDotOctet_iff, Option.some.injEq, Prod.mk.injEq]
  constructor
  · rintro ⟨a, _, ⟨rfl, _⟩, b, _, ⟨rfl, _⟩, c, _, ⟨rfl, _⟩, d, _, ⟨rfl, hrest⟩, rfl, rfl⟩
    exact ⟨by simp only [List.append_assoc, List.cons_append], hrest⟩
  · rintro ⟨rfl, hrest⟩
    simp only [List.append_assoc, List.cons_append]
    exact ⟨ip.a, _, ⟨rfl, noDigit_cons hdot⟩, ip.b, _, ⟨rfl, noDigit_cons hdot⟩, ip.c, _,
      ⟨rfl, noDigit_cons hdot⟩, ip.d, _, ⟨rfl, hrest⟩, rfl, rfl⟩

/-- `Ipv4Addr::from_str` takes exactly what `Display` prints: four groups, none with a zero in
front. -/
theorem parseIpv4Addr_iff {s : String} {ip : Ipv4Addr} :
    parseIpv4Addr s = some ip ↔ s = ip.display := by
  rw [← String.toList_inj, parseIpv4Addr]
  constructor
  · intro h
    split at h
    · rename_i ip' hread
      cases h
      obtain ⟨htext, _⟩ := readIpv4Addr_iff.mp hread
      rwa [List.append_nil] at htext
    · cases h
  · intro h
    have hread : readIpv4Addr s.toList = some (ip, []) := by
      rw [readIpv4Addr_iff, List.append_nil]
      exact ⟨h, noDigit_nil⟩
    rw [hread]

theorem Ipv4Addr.display_injective {ip ip' : Ipv4Addr} (h : ip.display = ip'.display) :
    ip = ip' := by
  have hparse : parseIpv4Addr ip.display = some ip' := parseIpv4Addr_iff.mpr h
  rw [parseIpv4Addr_iff.mpr rfl] at hparse
  exact Option.some.inj hparse

/-- The characters of an address. -/
theorem mem_display {ip : Ipv4Addr} {c : Char} (h : c ∈ ip.display.toList) :
    c = '.' ∨ IsDigit c := by
  have hgroup : ∀ (b : UInt8), c ∈ (toString b).toList → IsDigit c := fun b hb =>
    isDigit_of_mem_repr (n := b.toNat) c hb
  rw [toList_display] at h
  simp only [List.mem_append, List.mem_cons] at h
  obtain h | (h | h) | (h | h) | h | h := h
  · exact Or.inr (hgroup _ h)
  · exact Or.inl h
  · exact Or.inr (hgroup _ h)
  · exact Or.inl h
  · exact Or.inr (hgroup _ h)
  · exact Or.inl h
  · exact Or.inr (hgroup _ h)

theorem display_no_colon (ip : Ipv4Addr) : ':' ∉ ip.display.toList := by
  intro h
  obtain h | h := mem_display h
  · cases h
  · unfold IsDigit at h
    exact absurd h (by decide)

theorem display_ne_nil (ip : Ipv4Addr) : ip.display.toList ≠ [] := by
  rw [toList_display]
  simp

theorem toList_socketDisplay (addr : SocketAddrV4) :
    addr.display.toList = addr.ip.display.toList ++ ':' :: (toString addr.port).toList := by
  have hdisplay : addr.display = addr.ip.display ++ ":" ++ toString addr.port := rfl
  have hcolon : ":".toList = [':'] := rfl
  simp only [hdisplay, String.toList_append, hcolon, List.append_assoc, List.cons_append,
    List.nil_append]

end SnmpTrap.Rust
