import SnmpTrap.HexDump
import SnmpTrap.Rust.Ipv4Text

/-! What the whole pre-send dump tells: its text determines every argument of
`print_pre_send_dump`, and a writer that fails has a part of that text. -/
namespace SnmpTrap
open Rust
set_option autoImplicit false
set_option maxHeartbeats 250000
set_option maxRecDepth 120000

/-- The lines of the dump, each ended. -/
def dumpText (version : SnmpVersion) (dst : SocketAddrV4) (src : Option Ipv4Addr)
    (srcPort : Option UInt16) (payload : List UInt8) : List Char :=
  ((preSendHeader version dst src srcPort payload.length).toList ::
    hexLines payload).flatMap (· ++ ['\n'])

/-! ## A writer that fails -/

section Appends
variable {ε σ : Type} {write : List Char → Writing (ε × σ) σ Unit} {emitted : σ → List Char}
  (hwrite : ∀ text, Appends emitted (write text) text)
include hwrite

theorem appends_cell (i : ℕ) (text : List Char) :
    Appends emitted (writeGap write i >>= fun _ => write text) (cell i text) :=
  (hwrite [' ']).when.bind (hwrite text)

theorem appends_writeHexLine (offset : ℕ) (chunk : List UInt8) :
    Appends emitted (writeHexLine write offset chunk) (hexLine offset chunk ++ ['\n']) := by
  have hoctets : Appends emitted (writeOctets write chunk) (octetsText chunk) :=
    Appends.forM fun p _ => appends_cell hwrite p.2 _
  have hpad : Appends emitted (writePad write chunk.length) (padText chunk.length) :=
    Appends.forM fun i _ => appends_cell hwrite (chunk.length + i) _
  have hascii : Appends emitted (chunk.forM fun b => write [asciiChar b])
      (chunk.map asciiChar) := by
    rw [← List.flatMap_pure_eq_map]
    exact Appends.forM fun b _ => hwrite [asciiChar b]
  have htext : hexLine offset chunk ++ ['\n'] = lowerHex 8 (offset * 16) ++ [':', ' '] ++
      (octetsText chunk ++ (padText chunk.length ++ ([' '] ++
        (chunk.map asciiChar ++ ['\n'])))) := by
    simp only [hexLine, hexArea, List.append_assoc]
  rw [htext]
  exact (hwrite _).bind
    (hoctets.bind (hpad.bind ((hwrite _).bind (hascii.bind (hwrite _)))))

/-- Where `write` fails, no line is begun that the dump does not have. -/
theorem appends_printPreSendDump (version : SnmpVersion) (dst : SocketAddrV4)
    (src : Option Ipv4Addr) (srcPort : Option UInt16) (payload : List UInt8) :
    Appends emitted (printPreSendDump write version dst src srcPort payload)
      (dumpText version dst src srcPort payload) := by
  rw [dumpText, List.flatMap_cons, hexLines, List.flatMap_map]
  exact (hwrite _).bind (Appends.forM fun p _ => appends_writeHexLine hwrite p.2 p.1)

end Appends

/-! ## Lines -/

/-- Text in front of the first of a character is determined, and so is what follows. -/
theorem before_first {c : Char} : ∀ {a b r r' : List Char}, c ∉ a → c ∉ b →
    a ++ c :: r = b ++ c :: r' → a = b ∧ r = r'
  | [], [], _, _, _, _, h => ⟨rfl, (List.cons.inj h).2⟩
  | [], _ :: _, _, _, _, hb, h => by
    rw [List.nil_append, List.cons_append] at h
    exact absurd ((List.cons.inj h).1 ▸ List.mem_cons_self) hb
  | _ :: _, [], _, _, ha, _, h => by
    rw [List.nil_append, List.cons_append] at h
    exact absurd ((List.cons.inj h).1 ▸ List.mem_cons_self) ha
  | x :: a, y :: b, _, _, ha, hb, h => by
    rw [List.cons_append, List.cons_append] at h
    obtain ⟨rfl, htail⟩ := List.cons.inj h
    obtain ⟨rfl, hr⟩ := before_first (fun hmem => ha (List.mem_cons_of_mem x hmem))
      (fun hmem => hb (List.mem_cons_of_mem x hmem)) htail
    exact ⟨rfl, hr⟩

theorem lines_injective : ∀ {ls ks : List (List Char)}, (∀ l ∈ ls, '\n' ∉ l) →
    (∀ k ∈ ks, '\n' ∉ k) → ls.flatMap (· ++ ['\n']) = ks.flatMap (· ++ ['\n']) → ls = ks
  | [], [], _, _, _ => rfl
  | [], _ :: _, _, _, h => by simp at h
  | _ :: _, [], _, _, h => by simp at h
  | l :: ls, k :: ks, hls, hks, h => by
    rw [List.forall_mem_cons] at hls hks
    rw [List.flatMap_cons, List.flatMap_cons, List.append_assoc, List.append_assoc,
      List.singleton_append, List.singleton_append] at h
    obtain ⟨rfl, htail⟩ := before_first hls.1 hks.1 h
    rw [lines_injective hls.2 hks.2 htail]

theorem no_newline_dump (version : SnmpVersion) (dst : SocketAddrV4) (src : Option Ipv4Addr)
    (srcPort : Option UInt16) (payload : List UInt8) :
    ∀ line ∈ (preSendHeader version dst src srcPort payload.length).toList :: hexLines payload,
      '\n' ∉ line := by
  intro line hline hnewline
  have hprintable := printable_preSendDump version dst src srcPort payload line hline _ hnewline
  unfold Printable at hprintable
  exact absurd hprintable.1 (by decide)

/-! ## The fields of the header -/

def srcDisplay (src : Option Ipv4Addr) : String :=
  match src with
  | some ip => ip.display
  | none => "<kernel-selected>"

def srcPortDisplay (srcPort : Option UInt16) : String :=
  match srcPort with
  | some p => toString p
  | none => "<ephemeral>"

theorem toList_preSendHeader (version : SnmpVersion) (dst : SocketAddrV4)
    (src : Option Ipv4Addr) (srcPort : Option UInt16) (n : ℕ) :
    (preSendHeader version dst src srcPort n).toList = "[debug] snmp_version=".toList ++
      (version.number.toList ++ ' ' :: ("dst=".toList ++ (dst.display.toList ++ ' ' ::
        ("src=".toList ++ ((srcDisplay src).toList ++ ' ' ::
          ("src_port=".toList ++ ((srcPortDisplay srcPort).toList ++ ' ' ::
            ("community=*** payload_bytes=".toList ++ (toString n).toList)))))))) := by
  have hheader : preSendHeader version dst src srcPort n = "[debug] snmp_version=" ++
      version.number ++ " dst=" ++ dst.display ++ " src=" ++ srcDisplay src ++ " " ++
        ("src_port=" ++ srcPortDisplay srcPort ++ " community=*** payload_bytes=" ++
          toString n) := rfl
  have hdst : " dst=".toList = ' ' :: "dst=".toList := rfl
  have hsrc : " src=".toList = ' ' :: "src=".toList := rfl
  have hspace : " ".toList = [' '] := rfl
  have hcommunity : " community=*** payload_bytes=".toList =
      ' ' :: "community=*** payload_bytes=".toList := rfl
  rw [hheader]
  simp only [String.toList_append, hdst, hsrc, hspace, hcommunity, List.append_assoc,
    List.cons_append, List.nil_append]

theorem no_space_repr (n : ℕ) : ' ' ∉ n.repr.toList := by
  intro h
  have hdigit := isDigit_of_mem_repr _ h
  unfold IsDigit at hdigit
  exact absurd hdigit (by decide)

theorem no_space_display (ip : Ipv4Addr) : ' ' ∉ ip.display.toList := by
  intro h
  obtain h | hdigit := mem_display h
  · cases h
  · unfold IsDigit at hdigit
    exact absurd hdigit (by decide)

theorem no_space_socketDisplay (addr : SocketAddrV4) : ' ' ∉ addr.display.toList := by
  rw [toList_socketDisplay, List.mem_append, List.mem_cons, not_or, not_or]
  exact ⟨no_space_display addr.ip, by decide, no_space_repr addr.port.toNat⟩

theorem no_space_number (version : SnmpVersion) : ' ' ∉ version.number.toList := by
  cases version <;> decide

theorem no_space_srcDisplay (src : Option Ipv4Addr) : ' ' ∉ (srcDisplay src).toList := by
  cases src with
  | none => decide
  | some ip => exact no_space_display ip

theorem no_space_srcPortDisplay (srcPort : Option UInt16) :
    ' ' ∉ (srcPortDisplay srcPort).toList := by
  cases srcPort with
  | none => decide
  | some p => exact no_space_repr p.toNat

/-! ## What they tell -/

theorem number_injective {version version' : SnmpVersion}
    (h : version.number = version'.number) : version = version' := by
  revert h
  cases version <;> cases version' <;> decide

theorem repr_injective {n n' : ℕ} (h : n.repr.toList = n'.repr.toList) : n = n' :=
  (isDecimal_repr n).unique (by rw [h]; exact isDecimal_repr n')

theorem toString_port_injective {p p' : UInt16} (h : toString p = toString p') : p = p' := by
  have hparse := parseU16_toString p
  rw [h, parseU16_toString p'] at hparse
  exact (Except.ok.inj hparse).symm

theorem socketDisplay_injective {addr addr' : SocketAddrV4} (h : addr.display = addr'.display) :
    addr = addr' := by
  rw [← String.toList_inj, toList_socketDisplay, toList_socketDisplay] at h
  obtain ⟨hip, hport⟩ := before_first (display_no_colon addr.ip) (display_no_colon addr'.ip) h
  have hip := Ipv4Addr.display_injective (String.toList_inj.mp hip)
  have hport := toString_port_injective (String.toList_inj.mp hport)
  cases addr
  cases addr'
  rw [SocketAddrV4.mk.injEq]
  exact ⟨hip, hport⟩

/-- A placeholder is no address and no number. -/
theorem angle_not_mem_display (ip : Ipv4Addr) : '<' ∉ ip.display.toList := by
  intro h
  obtain h | hdigit := mem_display h
  · cases h
  · unfold IsDigit at hdigit
    exact absurd hdigit (by decide)

theorem srcDisplay_injective {src src' : Option Ipv4Addr}
    (h : srcDisplay src = srcDisplay src') : src = src' := by
  have hangle : '<' ∈ (srcDisplay none).toList := by decide
  cases src with
  | none =>
    cases src' with
    | none => rfl
    | some ip =>
      rw [h] at hangle
      exact absurd hangle (angle_not_mem_display ip)
  | some ip =>
    cases src' with
    | none =>
      rw [← h] at hangle
      exact absurd hangle (angle_not_mem_display ip)
    | some ip' => rw [Ipv4Addr.display_injective h]

theorem srcPortDisplay_injective {srcPort srcPort' : Option UInt16}
    (h : srcPortDisplay srcPort = srcPortDisplay srcPort') : srcPort = srcPort' := by
  have hangle : '<' ∈ (srcPortDisplay none).toList := by decide
  have hno : ∀ p : UInt16, '<' ∉ (toString p).toList := by
    intro p hmem
    have hdigit := isDigit_of_mem_repr (n := p.toNat) _ hmem
    unfold IsDigit at hdigit
    exact absurd hdigit (by decide)
  cases srcPort with
  | none =>
    cases srcPort' with
    | none => rfl
    | some p =>
      rw [h] at hangle
      exact absurd hangle (hno p)
  | some p =>
    cases srcPort' with
    | none =>
      rw [← h] at hangle
      exact absurd hangle (hno p)
    | some p' => rw [toString_port_injective h]

theorem preSendHeader_injective {version version' : SnmpVersion} {dst dst' : SocketAddrV4}
    {src src' : Option Ipv4Addr} {srcPort srcPort' : Option UInt16} {n n' : ℕ}
    (h : (preSendHeader version dst src srcPort n).toList =
      (preSendHeader version' dst' src' srcPort' n').toList) :
    version = version' ∧ dst = dst' ∧ src = src' ∧ srcPort = srcPort' ∧ n = n' := by
  rw [toList_preSendHeader, toList_preSendHeader, List.append_cancel_left_eq] at h
  obtain ⟨hversion, h⟩ := before_first (no_space_number _) (no_space_number _) h
  rw [List.append_cancel_left_eq] at h
  obtain ⟨hdst, h⟩ := before_first (no_space_socketDisplay _) (no_space_socketDisplay _) h
  rw [List.append_cancel_left_eq] at h
  obtain ⟨hsrc, h⟩ := before_first (no_space_srcDisplay _) (no_space_srcDisplay _) h
  rw [List.append_cancel_left_eq] at h
  obtain ⟨hsrcPort, h⟩ := before_first (no_space_srcPortDisplay _) (no_space_srcPortDisplay _) h
  rw [List.append_cancel_left_eq] at h
  exact ⟨number_injective (String.toList_inj.mp hversion),
    socketDisplay_injective (String.toList_inj.mp hdst),
    srcDisplay_injective (String.toList_inj.mp hsrc),
    srcPortDisplay_injective (String.toList_inj.mp hsrcPort), repr_injective h⟩

theorem hexLines_injective {payload payload' : List UInt8} (hlen : payload.length ≤ 2 ^ 32)
    (hlen' : payload'.length ≤ 2 ^ 32) (h : hexLines payload = hexLines payload') :
    payload = payload' := by
  have hread := hexGroups_read hlen
  rw [h, hexGroups_read hlen'] at hread
  exact (Except.ok.inj hread).symm

theorem dumpText_injective {version version' : SnmpVersion} {dst dst' : SocketAddrV4}
    {src src' : Option Ipv4Addr} {srcPort srcPort' : Option UInt16} {payload payload' : List UInt8}
    (hlen : payload.length ≤ 2 ^ 32)
    (h : dumpText version dst src srcPort payload =
      dumpText version' dst' src' srcPort' payload') :
    version = version' ∧ dst = dst' ∧ src = src' ∧ srcPort = srcPort' ∧ payload = payload' := by
  have hlines := lines_injective (no_newline_dump version dst src srcPort payload)
    (no_newline_dump version' dst' src' srcPort' payload') h
  obtain ⟨hheader, hlines⟩ := List.cons.inj hlines
  obtain ⟨hversion, hdst, hsrc, hsrcPort, hsame⟩ := preSendHeader_injective hheader
  exact ⟨hversion, hdst, hsrc, hsrcPort, hexLines_injective hlen (hsame ▸ hlen) hlines⟩

end SnmpTrap
