import SnmpTrap.Cli
import SnmpTrap.Rust.Numerals
import SnmpTrap.Rust.Slice
import SnmpTrap.Rust.Write

/-! The pre-send dump (`debug.rs`): a header line, then the payload sixteen octets a line, in hex
and as text. The dump can be read back, and its columns are fixed. -/
namespace SnmpTrap
open Rust Numeral
set_option autoImplicit false
set_option maxHeartbeats 250000
set_option maxRecDepth 120000

/-- `u8::is_ascii_graphic`. -/
def isAsciiGraphic (b : UInt8) : Bool := 0x21 ≤ b && b ≤ 0x7E

def asciiChar (b : UInt8) : Char :=
  if isAsciiGraphic b || b == 0x20 then Char.ofNat b.toNat else '.'

section Writer
variable {ε σ : Type} (write : List Char → Writing ε σ Unit)

-- `write` is one `write!`, with the text already formatted.

/-- The gap before the ninth octet of a line. -/
def writeGap (i : ℕ) : Writing ε σ Unit := if i = 8 then write [' '] else pure ()

def writeOctets (chunk : List UInt8) : Writing ε σ Unit :=
  chunk.zipIdx.forM fun (b, i) => do
    writeGap write i
    write (lowerHex 2 b.toNat ++ [' '])

/-- The loop that pads a line of `len` octets: it writes the gap where the other loop did not. -/
def writePad (len : ℕ) : Writing ε σ Unit :=
  (List.range (16 - len)).forM fun i => do
    writeGap write (len + i)
    write [' ', ' ', ' ']

def writeHexLine (offset : ℕ) (chunk : List UInt8) : Writing ε σ Unit := do
  write (lowerHex 8 (offset * 16) ++ [':', ' '])
  writeOctets write chunk
  writePad write chunk.length
  write [' ']
  chunk.forM fun b => write [asciiChar b]
  write ['\n']

def writeHexDump (data : List UInt8) : Writing ε σ Unit :=
  (chunks 16 data).zipIdx.forM fun (chunk, offset) => writeHexLine write offset chunk

def SnmpVersion.number : SnmpVersion → String
  | .v1 => "1"
  | .v2c => "2c"
  | .v3 => "3"

def preSendHeader (version : SnmpVersion) (dst : SocketAddrV4) (src : Option Ipv4Addr)
    (srcPort : Option UInt16) (payloadBytes : ℕ) : String :=
  let srcDisplay := match src with
    | some ip => ip.display
    | none => "<kernel-selected>"
  let srcPortDisplay := match srcPort with
    | some p => toString p
    | none => "<ephemeral>"
  s!"[debug] snmp_version={version.number} dst={dst.display} src={srcDisplay} " ++
    s!"src_port={srcPortDisplay} community=*** payload_bytes={payloadBytes}"

def printPreSendDump (version : SnmpVersion) (dst : SocketAddrV4) (src : Option Ipv4Addr)
    (srcPort : Option UInt16) (payload : List UInt8) : Writing ε σ Unit := do
  write ((preSendHeader version dst src srcPort payload.length).toList ++ ['\n'])
  writeHexDump write payload

end Writer

/-! ## The text -/

/-- What the two loops write for octet `i` of a line. -/
def cell (i : ℕ) (text : List Char) : List Char := (if i = 8 then [' '] else []) ++ text

def octetsText (chunk : List UInt8) : List Char :=
  chunk.zipIdx.flatMap fun p => cell p.2 (lowerHex 2 p.1.toNat ++ [' '])

def padText (len : ℕ) : List Char :=
  (List.range (16 - len)).flatMap fun i => cell (len + i) [' ', ' ', ' ']

def hexArea (chunk : List UInt8) : List Char :=
  octetsText chunk ++ (padText chunk.length ++ [' '])

def hexLine (offset : ℕ) (chunk : List UInt8) : List Char :=
  lowerHex 8 (offset * 16) ++ [':', ' '] ++ (hexArea chunk ++ chunk.map asciiChar)

example : hexLine 1 [0x30, 0x05, 0x0A] =
    "00000010: 30 05 0a".toList ++ List.replicate 42 ' ' ++ "0..".toList := by decide

def hexLines (data : List UInt8) : List (List Char) :=
  (chunks 16 data).zipIdx.map fun p => hexLine p.2 p.1

section Emits
variable {ε σ : Type} {write : List Char → Writing ε σ Unit} {emitted : σ → List Char}
  (hwrite : ∀ text, Emits emitted (write text) text)
include hwrite

theorem emits_cell (i : ℕ) (text : List Char) :
    Emits emitted (writeGap write i >>= fun _ => write text) (cell i text) :=
  (hwrite [' ']).when.bind (hwrite text)

theorem emits_writeHexLine (offset : ℕ) (chunk : List UInt8) :
    Emits emitted (writeHexLine write offset chunk) (hexLine offset chunk ++ ['\n']) := by
  have hoctets : Emits emitted (writeOctets write chunk) (octetsText chunk) :=
    Emits.forM fun p _ => emits_cell hwrite p.2 _
  have hpad : Emits emitted (writePad write chunk.length) (padText chunk.length) :=
    Emits.forM fun i _ => emits_cell hwrite (chunk.length + i) _
  have hascii : Emits emitted (chunk.forM fun b => write [asciiChar b]) (chunk.map asciiChar) := by
    rw [← List.flatMap_pure_eq_map]
    exact Emits.forM fun b _ => hwrite [asciiChar b]
  have htext : hexLine offset chunk ++ ['\n'] = lowerHex 8 (offset * 16) ++ [':', ' '] ++
      (octetsText chunk ++ (padText chunk.length ++ ([' '] ++
        (chunk.map asciiChar ++ ['\n'])))) := by
    simp only [hexLine, hexArea, List.append_assoc]
  rw [htext]
  exact (hwrite _).bind
    (hoctets.bind (hpad.bind ((hwrite _).bind (hascii.bind (hwrite _)))))

theorem emits_writeHexDump (data : List UInt8) :
    Emits emitted (writeHexDump write data) ((hexLines data).flatMap (· ++ ['\n'])) := by
  rw [hexLines, List.flatMap_map]
  exact Emits.forM fun p _ => emits_writeHexLine hwrite p.2 p.1

theorem emits_printPreSendDump (version : SnmpVersion) (dst : SocketAddrV4)
    (src : Option Ipv4Addr) (srcPort : Option UInt16) (payload : List UInt8) :
    Emits emitted (printPreSendDump write version dst src srcPort payload)
      (((preSendHeader version dst src srcPort payload.length).toList ::
        hexLines payload).flatMap (· ++ ['\n'])) := by
  rw [List.flatMap_cons]
  exact (hwrite _).bind (emits_writeHexDump hwrite payload)

end Emits

/-! ## The columns -/

/-- The width of cell `i`. -/
def cellWidth (i : ℕ) : ℕ := if i = 8 then 4 else 3

theorem cell_length (i : ℕ) {text : List Char} (h : text.length = 3) :
    (cell i text).length = cellWidth i := by
  unfold cell cellWidth
  by_cases hi : i = 8
  · rw [if_pos hi, if_pos hi, List.length_append, h]
    rfl
  · rw [if_neg hi, if_neg hi, List.length_append, h]
    rfl

theorem lowerHex_octet_length (b : UInt8) : (lowerHex 2 b.toNat).length = 2 :=
  lowerHex_length (by decide) b.toNat_lt

theorem octetsText_length (chunk : List UInt8) :
    (octetsText chunk).length = ((List.range' 0 chunk.length).map cellWidth).sum := by
  rw [octetsText, List.length_flatMap, ← List.zipIdx_map_snd 0 chunk, List.map_map]
  congr 1
  apply List.map_congr_left
  intro p _
  apply cell_length
  rw [List.length_append, lowerHex_octet_length]
  rfl

theorem padText_length (len : ℕ) :
    (padText len).length = ((List.range' len (16 - len)).map cellWidth).sum := by
  rw [padText, List.length_flatMap, List.range'_eq_map_range, List.map_map]
  congr 1
  apply List.map_congr_left
  intro i _
  exact cell_length (len + i) rfl

/-- The two loops together go over the sixteen cells of a line, so the gap is written once. -/
theorem hexArea_length {chunk : List UInt8} (h : chunk.length ≤ 16) :
    (hexArea chunk).length = 50 := by
  have hcells : List.range' 0 chunk.length ++ List.range' chunk.length (16 - chunk.length) =
      List.range' 0 16 := by
    have happend := List.range'_append_1 (s := 0) (m := chunk.length) (n := 16 - chunk.length)
    rwa [Nat.zero_add, Nat.add_sub_of_le h] at happend
  calc (hexArea chunk).length
      = (octetsText chunk).length + ((padText chunk.length).length + 1) := by
        rw [hexArea, List.length_append, List.length_append, List.length_singleton]
    _ = ((List.range' 0 16).map cellWidth).sum + 1 := by
        rw [octetsText_length, padText_length, ← hcells, List.map_append, List.sum_append,
          Nat.add_assoc]
    _ = 50 := rfl

/-! ## Reading the groups -/

/-- The runs of other characters between spaces. -/
def words (cs : List Char) : List (List Char) :=
  (split (· == ' ') cs).filter fun g => !g.isEmpty

theorem words_space (cs : List Char) : words (' ' :: cs) = words cs := by
  rw [words, split, if_pos (by rfl), List.filter_cons_of_neg (by simp), words]

theorem words_append_space {g : List Char} (hne : g ≠ []) (hg : ∀ c ∈ g, (c == ' ') = false)
    (rest : List Char) : words (g ++ ' ' :: rest) = g :: words rest := by
  rw [words, split_append_sep (· == ' ') g hg ' ' rfl, List.filter_cons_of_pos (by simp [hne]),
    words]

theorem words_of_spaces {cs : List Char} (h : ∀ c ∈ cs, c = ' ') : words cs = [] := by
  induction cs with
  | nil => rfl
  | cons c cs ih =>
    obtain rfl : c = ' ' := h c List.mem_cons_self
    rw [words_space]
    exact ih fun d hd => h d (List.mem_cons_of_mem _ hd)

theorem words_cell (i : ℕ) (b : UInt8) (rest : List Char) :
    words (cell i (lowerHex 2 b.toNat ++ [' ']) ++ rest) = lowerHex 2 b.toNat :: words rest := by
  have hne : lowerHex 2 b.toNat ≠ [] :=
    List.ne_nil_of_length_pos (by rw [lowerHex_octet_length]; decide)
  have hspace : ∀ c ∈ lowerHex 2 b.toNat, (c == ' ') = false := by
    intro c hc
    rw [beq_eq_false_iff_ne]
    rintro rfl
    exact absurd (isLowerHexDigit_of_mem _ hc) (by unfold IsLowerHexDigit IsDigit; decide)
  have hgroup : words (lowerHex 2 b.toNat ++ [' '] ++ rest) = lowerHex 2 b.toNat :: words rest := by
    rw [List.append_assoc]
    exact words_append_space hne hspace rest
  unfold cell
  by_cases hi : i = 8
  · rw [if_pos hi, List.append_assoc]
    exact (words_space _).trans hgroup
  · rw [if_neg hi]
    exact hgroup

theorem words_octets (chunk : List UInt8) (rest : List Char) :
    words (octetsText chunk ++ rest) =
      (chunk.map fun b => lowerHex 2 b.toNat) ++ words rest := by
  -- over the octets left, from whatever cell they start in
  have hfrom : ∀ k, words ((chunk.zipIdx k).flatMap
      (fun p => cell p.2 (lowerHex 2 p.1.toNat ++ [' '])) ++ rest) =
      (chunk.map fun b => lowerHex 2 b.toNat) ++ words rest := by
    induction chunk with
    | nil =>
      intro k
      rfl
    | cons b chunk ih =>
      intro k
      rw [List.zipIdx_cons, List.flatMap_cons, List.append_assoc, words_cell, ih (k + 1),
        List.map_cons, List.cons_append]
  exact hfrom 0

theorem mem_cell {i : ℕ} {text : List Char} {c : Char} (h : c ∈ cell i text) :
    c = ' ' ∨ c ∈ text := by
  unfold cell at h
  by_cases hi : i = 8
  · rw [if_pos hi] at h
    exact List.mem_cons.mp h
  · rw [if_neg hi] at h
    exact Or.inr h

theorem padText_spaces (len : ℕ) : ∀ c ∈ padText len, c = ' ' := by
  intro c hc
  obtain ⟨i, _, hc⟩ := List.mem_flatMap.mp hc
  obtain hc | hc := mem_cell hc
  · exact hc
  · simpa using hc

theorem words_hexArea (chunk : List UInt8) :
    words (hexArea chunk) = chunk.map fun b => lowerHex 2 b.toNat := by
  have hpad : words (padText chunk.length ++ [' ']) = [] := by
    apply words_of_spaces
    intro c hc
    obtain hc | hc := List.mem_append.mp hc
    · exact padText_spaces _ c hc
    · exact List.mem_singleton.mp hc
  rw [hexArea, words_octets, hpad, List.append_nil]

theorem parseU8Hex_lowerHex (b : UInt8) : parseU8Hex (lowerHex 2 b.toNat) = .ok b := by
  have hlt := b.toNat_lt
  rw [parseU8Hex, (parseUnsigned_ok_iff (by decide)).mpr
    ⟨Or.inl (lowerHex_denotes 2 b.toNat), by omega⟩]
  exact congrArg Except.ok (UInt8.ofNat_toNat)

/-! ## The characters -/

/-- A space or a visible ASCII character. -/
def Printable (c : Char) : Prop := 32 ≤ c.toNat ∧ c.toNat ≤ 126

def shownChar (b : UInt8) : Char :=
  if 32 ≤ b.toNat ∧ b.toNat ≤ 126 then Char.ofNat b.toNat else '.'

theorem asciiChar_eq (b : UInt8) : asciiChar b = shownChar b := by
  have hgraphic : (isAsciiGraphic b || b == 0x20) = true ↔ 32 ≤ b.toNat ∧ b.toNat ≤ 126 := by
    simp only [isAsciiGraphic, Bool.or_eq_true, Bool.and_eq_true, decide_eq_true_eq, beq_iff_eq,
      UInt8.le_iff_toNat_le, ← UInt8.toNat_inj, UInt8.reduceToNat]
    omega
  unfold asciiChar shownChar
  by_cases hb : 32 ≤ b.toNat ∧ b.toNat ≤ 126
  · rw [if_pos (hgraphic.mpr hb), if_pos hb]
  · rw [if_neg fun h => hb (hgraphic.mp h), if_neg hb]

theorem printable_shownChar (b : UInt8) : Printable (shownChar b) := by
  unfold shownChar Printable
  by_cases hb : 32 ≤ b.toNat ∧ b.toNat ≤ 126
  · rw [if_pos hb, Char.toNat_ofNat, if_pos (by left; omega)]
    exact hb
  · rw [if_neg hb]
    decide

theorem printable_of_isLowerHexDigit {c : Char} (h : IsLowerHexDigit c) : Printable c := by
  unfold IsLowerHexDigit IsDigit at h
  unfold Printable
  omega

theorem printable_space : Printable ' ' := by
  unfold Printable
  decide

theorem printable_octetsText (chunk : List UInt8) : ∀ c ∈ octetsText chunk, Printable c := by
  intro c hc
  obtain ⟨p, _, hc⟩ := List.mem_flatMap.mp hc
  obtain rfl | hc := mem_cell hc
  · exact printable_space
  · obtain hc | hc := List.mem_append.mp hc
    · exact printable_of_isLowerHexDigit (isLowerHexDigit_of_mem c hc)
    · rw [List.mem_singleton.mp hc]
      exact printable_space

theorem printable_hexLine (offset : ℕ) (chunk : List UInt8) :
    ∀ c ∈ hexLine offset chunk, Printable c := by
  have haddress : ∀ c ∈ lowerHex 8 (offset * 16) ++ [':', ' '], Printable c := by
    rw [List.forall_mem_append, List.forall_mem_cons, List.forall_mem_singleton]
    exact ⟨fun c hc => printable_of_isLowerHexDigit (isLowerHexDigit_of_mem c hc),
      by unfold Printable; decide, printable_space⟩
  have harea : ∀ c ∈ hexArea chunk, Printable c := by
    rw [hexArea, List.forall_mem_append, List.forall_mem_append, List.forall_mem_singleton]
    refine ⟨printable_octetsText chunk, ?_, printable_space⟩
    intro c hc
    rw [padText_spaces _ c hc]
    exact printable_space
  have hascii : ∀ c ∈ chunk.map asciiChar, Printable c := by
    rw [List.forall_mem_map]
    intro b _
    rw [asciiChar_eq]
    exact printable_shownChar b
  exact List.forall_mem_append.mpr ⟨haddress, List.forall_mem_append.mpr ⟨harea, hascii⟩⟩

/-! ## The header -/

def PrintableText (s : String) : Prop := ∀ c ∈ s.toList, Printable c

instance PrintableText.decidable : DecidablePred PrintableText := fun s =>
  decidable_of_iff (s.toList.all fun c => 32 ≤ c.toNat ∧ c.toNat ≤ 126) (by
    simp [PrintableText, Printable])

theorem printableText_append {s t : String} :
    PrintableText (s ++ t) ↔ PrintableText s ∧ PrintableText t := by
  rw [PrintableText, String.toList_append]
  exact List.forall_mem_append

theorem printableText_repr (n : ℕ) : PrintableText n.repr := by
  intro c hc
  rw [Nat.toList_repr] at hc
  have hdigit := Nat.isDigit_of_mem_toDigits (by decide) (by decide) hc
  simp only [Char.isDigit, Bool.and_eq_true, decide_eq_true_eq] at hdigit
  exact ⟨le_trans (by decide) (UInt32.le_iff_toNat_le.mp hdigit.1),
    le_trans (UInt32.le_iff_toNat_le.mp hdigit.2) (by decide)⟩

theorem printableText_display (ip : Ipv4Addr) : PrintableText ip.display := by
  have hdot : PrintableText "." := by decide
  simp only [Ipv4Addr.display, toString, printableText_append]
  simp [hdot, printableText_repr]

theorem printableText_header (version : SnmpVersion) (dst : SocketAddrV4)
    (src : Option Ipv4Addr) (srcPort : Option UInt16) (n : ℕ) :
    PrintableText (preSendHeader version dst src srcPort n) := by
  have hversion : PrintableText version.number := by cases version <;> decide
  have hdst : PrintableText dst.display := by
    have hcolon : PrintableText ":" := by decide
    simp only [SocketAddrV4.display, toString, printableText_append]
    exact ⟨⟨printableText_display dst.ip, hcolon⟩, printableText_repr _⟩
  unfold preSendHeader
  simp only [toString, printableText_append]
  refine ⟨⟨⟨⟨⟨⟨⟨by decide, hversion⟩, by decide⟩, hdst⟩, by decide⟩, ?_⟩, by decide⟩,
    ⟨⟨by decide, ?_⟩, by decide⟩, printableText_repr n⟩
  · cases src with
    | none => decide
    | some ip => exact printableText_display ip
  · cases srcPort with
    | none => decide
    | some p => exact printableText_repr p.toNat

/-- No octet of the payload breaks a line or puts a control character on the terminal. -/
theorem printable_preSendDump (version : SnmpVersion) (dst : SocketAddrV4) (src : Option Ipv4Addr)
    (srcPort : Option UInt16) (payload : List UInt8) :
    ∀ line ∈ (preSendHeader version dst src srcPort payload.length).toList :: hexLines payload,
      ∀ c ∈ line, Printable c := by
  rw [List.forall_mem_cons]
  refine ⟨printableText_header version dst src srcPort payload.length, ?_⟩
  rw [hexLines, List.forall_mem_map]
  exact fun p _ => printable_hexLine p.2 p.1

/-! ## The lines -/

/-- The groups between the address and column 60. -/
def hexGroups (line : List Char) : List (List Char) := words ((line.take 60).drop 10)

/-- Line `k` of a dump of the octets. -/
structure DumpLine (data : List UInt8) (k : ℕ) (line : List Char) : Prop where
  address : ∃ ds, line.take 10 = ds ++ [':', ' '] ∧ ds.length = 8 ∧
    (∀ c ∈ ds, IsLowerHexDigit c) ∧ Denotes 16 ds (16 * k)
  groups : ∀ g ∈ hexGroups line, g.length = 2
  column : 60 ≤ line.length
  shown : line.drop 60 = ((data.drop (16 * k)).take 16).map shownChar
  printable : ∀ c ∈ line, Printable c

section Line
variable {offset : ℕ} {chunk : List UInt8} (hoffset : offset * 16 < 2 ^ 32)
  (hchunk : chunk.length ≤ 16)
include hoffset

theorem address_length : (lowerHex 8 (offset * 16) ++ [':', ' ']).length = 10 := by
  rw [List.length_append, lowerHex_length (by decide) (by omega)]
  rfl

theorem hexLine_address :
    (hexLine offset chunk).take 10 = lowerHex 8 (offset * 16) ++ [':', ' '] :=
  List.take_left' (address_length hoffset)

include hchunk

/-- The address and the hex area end at column 60. -/
theorem hexLine_columns : ∃ front, hexLine offset chunk = front ++ chunk.map asciiChar ∧
    front.length = 60 ∧ front.drop 10 = hexArea chunk := by
  refine ⟨lowerHex 8 (offset * 16) ++ [':', ' '] ++ hexArea chunk, ?_, ?_, ?_⟩
  · rw [hexLine, List.append_assoc _ (hexArea chunk)]
  · rw [List.length_append, address_length hoffset, hexArea_length hchunk]
  · exact List.drop_left' (address_length hoffset)

theorem hexLine_groups :
    hexGroups (hexLine offset chunk) = chunk.map fun b => lowerHex 2 b.toNat := by
  obtain ⟨front, hline, hfront, harea⟩ := hexLine_columns hoffset hchunk
  rw [hexGroups, hline, List.take_left' hfront, harea, words_hexArea]

theorem hexLine_dumpLine {data : List UInt8} (hdata : chunk = (data.drop (16 * offset)).take 16) :
    DumpLine data offset (hexLine offset chunk) := by
  obtain ⟨front, hline, hfront, _⟩ := hexLine_columns hoffset hchunk
  refine ⟨⟨lowerHex 8 (offset * 16), hexLine_address hoffset, ?_, isLowerHexDigit_of_mem, ?_⟩,
    ?_, ?_, ?_, printable_hexLine offset chunk⟩
  · exact lowerHex_length (by decide) (by omega)
  · rw [Nat.mul_comm 16]
    exact lowerHex_denotes 8 (offset * 16)
  · rw [hexLine_groups hoffset hchunk, List.forall_mem_map]
    exact fun b _ => lowerHex_octet_length b
  · rw [hline, List.length_append, hfront]
    exact Nat.le_add_right 60 _
  · rw [hline, List.drop_left' hfront, ← hdata]
    exact List.map_congr_left fun b _ => asciiChar_eq b

end Line

section Lines
variable {data : List UInt8} (hdata : data.length ≤ 2 ^ 32)
include hdata

/-- Every chunk has a place in the data whose address has eight digits. -/
theorem mem_zipIdx_chunks {chunk : List UInt8} {k : ℕ} (h : (chunks 16 data)[k]? = some chunk) :
    k * 16 < 2 ^ 32 ∧ chunk.length ≤ 16 ∧ chunk = (data.drop (16 * k)).take 16 := by
  have hk : k < (chunks 16 data).length := (List.getElem?_eq_some_iff.mp h).1
  have hchunk := chunks_getElem? (by decide) h
  rw [chunks_length (by decide)] at hk
  refine ⟨by omega, ?_, hchunk⟩
  rw [hchunk]
  exact List.length_take_le 16 _

theorem dumpLine_of_hexLines {k : ℕ} {line : List Char} (h : (hexLines data)[k]? = some line) :
    DumpLine data k line := by
  rw [hexLines, List.getElem?_map, List.getElem?_zipIdx, Option.map_map, Nat.zero_add] at h
  obtain ⟨chunk, hchunk, rfl⟩ := Option.map_eq_some_iff.mp h
  obtain ⟨hoffset, hlen, heq⟩ := mem_zipIdx_chunks hdata hchunk
  exact hexLine_dumpLine hoffset hlen heq

theorem hexGroups_hexLines :
    (hexLines data).flatMap hexGroups = data.map fun b => lowerHex 2 b.toNat := by
  have hlines : (hexLines data).map hexGroups =
      (chunks 16 data).map fun chunk => chunk.map fun b => lowerHex 2 b.toNat := by
    conv_rhs => rw [← List.zipIdx_map_fst 0 (chunks 16 data), List.map_map]
    rw [hexLines, List.map_map]
    apply List.map_congr_left
    rintro ⟨chunk, k⟩ hmem
    obtain ⟨hoffset, hlen, _⟩ :=
      mem_zipIdx_chunks hdata (List.mk_mem_zipIdx_iff_getElem?.mp hmem)
    exact hexLine_groups hoffset hlen
  rw [List.flatMap_def, hlines, ← List.map_flatten, chunks_flatten (by decide)]

theorem hexGroups_read : ((hexLines data).flatMap hexGroups).mapM parseU8Hex = .ok data := by
  rw [hexGroups_hexLines hdata, Outcome.mapM_ok_iff, List.forall₂_map_left_iff,
    List.forall₂_same]
  exact fun b _ => parseU8Hex_lowerHex b

end Lines

/-- **The dump shows the octets that are sent, and only them**: a line for every sixteen, each with
its address and its text column in place, and groups that read back as the octets. -/
theorem writeHexDump_shows {ε σ : Type} {write : List Char → Writing ε σ Unit}
    {emitted : σ → List Char} (hwrite : ∀ text, Emits emitted (write text) text)
    (data : List UInt8) (hdata : data.length ≤ 2 ^ 32) :
    ∃ lines : List (List Char),
      Emits emitted (writeHexDump write data) (lines.flatMap (· ++ ['\n'])) ∧
      lines.length = (data.length + 15) / 16 ∧
      (∀ k line, lines[k]? = some line → DumpLine data k line) ∧
      (lines.flatMap hexGroups).mapM parseU8Hex = .ok data := by
  refine ⟨hexLines data, emits_writeHexDump hwrite data, ?_,
    fun k line => dumpLine_of_hexLines hdata, hexGroups_read hdata⟩
  rw [hexLines, List.length_map, List.length_zipIdx, chunks_length (by decide)]

/-- The writer that a vector of characters is. -/
def vecWrite (text : List Char) : Writing IoError (List Char) Unit := modify (· ++ text)

theorem emits_vecWrite (text : List Char) : Emits id (vecWrite text) text :=
  fun out => ⟨out ++ text, rfl, rfl⟩

/-- The last line has eight octets, one of them a line feed. -/
theorem writeHexDump_shows_short :
    ∃ (lines : List (List Char)) (out : List Char),
      (writeHexDump vecWrite (List.replicate 16 0xFF ++ asBytes "line\ntwo")).run [] =
        .ok ((), out) ∧
      out = lines.flatMap (· ++ ['\n']) ∧ lines.length = 2 ∧
      (lines.flatMap hexGroups).mapM parseU8Hex =
        .ok (List.replicate 16 0xFF ++ asBytes "line\ntwo") := by
  obtain ⟨lines, hemits, hlen, _, hread⟩ := writeHexDump_shows emits_vecWrite
    (List.replicate 16 0xFF ++ asBytes "line\ntwo") (by decide)
  obtain ⟨out, hrun, hout⟩ := hemits []
  exact ⟨lines, out, hrun, hout, hlen, hread⟩

end SnmpTrap
