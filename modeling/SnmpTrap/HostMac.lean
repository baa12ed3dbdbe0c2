import Mathlib.Data.List.Forall2
import SnmpTrap.HexAgree
import SnmpTrap.Rust.SortBy

/-! The host's MAC address on Linux (`engine.rs`): the interfaces that `/sys/class/net` lists, the
order they are tried in, and the reader of an address. The result is the address of the least
usable interface. -/
namespace SnmpTrap
open Rust Numeral
set_option autoImplicit false
set_option maxHeartbeats 250000
set_option maxRecDepth 120000

/-- The two reads: the entries' names, as `to_string_lossy` gives them, and the text of a file. -/
structure SysClassNet where
  readDir : Except IoError (List (Except IoError String))
  readToString : String → Except IoError String

def virtualInterfacePrefixes : List String :=
  ["docker", "br-", "bond", "virbr", "veth", "tun", "tap", "wg", "cni", "kube", "flannel",
    "cilium", "ovs", "dummy", "vboxnet", "vmnet"]

def isVirtualInterface (name : String) : Bool :=
  virtualInterfacePrefixes.any fun p => startsWith name p

def isPhysicalPrefix (name : String) : Bool :=
  startsWith name "en" || startsWith name "eth" || startsWith name "wl"

/-- One part of an address: two octets, each a hex digit. -/
def macOctet (p : List Char) : Option UInt8 :=
  match encodeUtf8 p with
  | [b₀, b₁] => do
    let hi ← (decodeHexNibble b₀).toOption
    let lo ← (decodeHexNibble b₁).toOption
    some (hi <<< 4 ||| lo)
  | _ => none

/-- The loop over the parts, from part `i` on. -/
def macOctets (i : ℕ) : List (List Char) → Vector UInt8 6 → Option (Vector UInt8 6)
  | [], out => some out
  | p :: parts, out => do
    let octet ← macOctet p
    macOctets (i + 1) parts (out.setIfInBounds i octet)

def zeroMac : Vector UInt8 6 := Vector.replicate 6 0

def parseMacText (s : List Char) : Option (Vector UInt8 6) :=
  let parts := split (· == ':') s
  if parts.length ≠ 6 then none else macOctets 0 parts zeroMac

/-- Physical-looking names first, and by name within each tier. -/
def interfaceOrder (a b : String) : Ordering :=
  let pa := isPhysicalPrefix a
  let pb := isPhysicalPrefix b
  (compare pb pa).then (compare a b)

def interfaceCandidates (entries : List (Except IoError String)) : List String :=
  (entries.filterMap Except.toOption).filter fun name => name != "lo" && !isVirtualInterface name

def addressPath (name : String) : String := s!"/sys/class/net/{name}/address"

/-- One pass of the loop; `none` where it continues. -/
def interfaceMac (sys : SysClassNet) (name : String) : Option (Vector UInt8 6) := do
  let text ← (sys.readToString (addressPath name)).toOption
  let mac ← parseMacText (trim text.toList)
  if mac = zeroMac then none else some mac

def hostMacLinux (sys : SysClassNet) : Option (Vector UInt8 6) := do
  let entries ← sys.readDir.toOption
  (sortBy interfaceOrder (interfaceCandidates entries)).findSome? (interfaceMac sys)

def hostMac (platform : Platform) (sys : SysClassNet) : Option (Vector UInt8 6) :=
  match platform with
  | .linux => hostMacLinux sys
  | _ => none

/-! ## One part of an address -/

theorem macOctet_pair {c d : Char} {high low : ℕ} (hc : toDigit 16 c = some high)
    (hd : toDigit 16 d = some low) : macOctet [c, d] = some (UInt8.ofNat (16 * high + low)) := by
  have hoctets : encodeUtf8 [c, d] = [UInt8.ofNat c.toNat, UInt8.ofNat d.toNat] := by
    rw [encodeUtf8_cons_ascii (lt_of_toDigit hc), encodeUtf8_cons_ascii (lt_of_toDigit hd)]
    rfl
  rw [macOctet, hoctets]
  simp only [decodeHexNibble_of_digit hc, decodeHexNibble_of_digit hd, Except.toOption,
    Option.bind_eq_bind, Option.bind_some]
  rw [shift_or_nibbles high (toDigit_lt hc) low (toDigit_lt hd)]

theorem macOctet_digits {p : List Char} {b : UInt8} (h : macOctet p = some b) :
    AllDigits 16 p ∧ p.length = 2 := by
  unfold macOctet at h
  split at h
  · rename_i b₀ b₁ hoctets
    obtain ⟨hi, hhi, h⟩ := Option.bind_eq_some_iff.mp h
    obtain ⟨lo, hlo, h⟩ := Option.bind_eq_some_iff.mp h
    have hall : AllDigits 16 p := by
      apply allDigits_of_octets
      rw [hoctets, List.forall_mem_cons, List.forall_mem_singleton]
      exact ⟨⟨hi, Outcome.toOption_eq_some_iff.mp hhi⟩, ⟨lo, Outcome.toOption_eq_some_iff.mp hlo⟩⟩
    refine ⟨hall, ?_⟩
    rw [← encodeUtf8_length_ascii fun c hc => lt_of_isAsciiHexdigit (hall c hc), hoctets]
    rfl
  · cases h

theorem macOctet_of_digits {p : List Char} {b : UInt8} (hall : AllDigits 16 p)
    (hlen : p.length = 2) : macOctet p = some b ↔ Spells p [b] := by
  obtain ⟨c, d, rfl⟩ := List.length_eq_two.mp hlen
  obtain ⟨high, hc⟩ := Option.isSome_iff_exists.mp (hall c (by simp))
  obtain ⟨low, hd⟩ := Option.isSome_iff_exists.mp (hall d (by simp))
  rw [macOctet_pair hc hd, spells_iff hall (by simp), digitsOf_cons hc, digitsOf_cons hd, ofNibbles,
    Option.some.injEq, List.cons.injEq]
  exact (and_iff_left rfl).symm

theorem macOctet_eq_some_iff {p : List Char} {b : UInt8} :
    macOctet p = some b ↔ Spells p [b] := by
  constructor
  · intro h
    obtain ⟨hall, hlen⟩ := macOctet_digits h
    exact (macOctet_of_digits hall hlen).mp h
  · intro h
    exact (macOctet_of_digits h.1 h.even).mpr h

/-! ## The address -/

/-- Six groups of two hex digits, separated by colons, that spell the octets. -/
def MacText (s : List Char) (mac : Vector UInt8 6) : Prop :=
  ∃ groups, s = join ':' groups ∧ List.Forall₂ (fun g b => Spells g [b]) groups mac.toList

theorem take_succ_setIfInBounds {α : Type} {n : ℕ} (xs : Vector α n) {i : ℕ} (hi : i < n)
    (b : α) : (xs.setIfInBounds i b).toList.take (i + 1) = xs.toList.take i ++ [b] := by
  rw [Vector.toList_setIfInBounds, List.take_add_one, List.take_set_of_le le_rfl,
    List.getElem?_set_self (by rw [Vector.length_toList]; exact hi), Option.toList_some]

/-- What is written before part `i` stays, and the parts left give the rest. -/
theorem macOctets_eq_some_iff {parts : List (List Char)} {i : ℕ} {out mac : Vector UInt8 6}
    (hlen : i + parts.length = 6) :
    macOctets i parts out = some mac ↔ ∃ octets, mac.toList = out.toList.take i ++ octets ∧
      List.Forall₂ (fun g b => Spells g [b]) parts octets := by
  induction parts generalizing i out with
  | nil =>
    rw [List.length_nil, Nat.add_zero] at hlen
    have hall : out.toList.take i = out.toList := by
      apply List.take_of_length_le
      rw [Vector.length_toList, hlen]
    rw [macOctets, Option.some.injEq, hall]
    constructor
    · rintro rfl
      exact ⟨[], by rw [List.append_nil], .nil⟩
    · rintro ⟨octets, hmac, hoctets⟩
      cases hoctets
      rw [List.append_nil] at hmac
      exact (Vector.toList_inj.mp hmac).symm
  | cons p parts ih =>
    rw [List.length_cons] at hlen
    rw [macOctets, Option.bind_eq_bind, Option.bind_eq_some_iff]
    constructor
    · rintro ⟨octet, hoctet, hrest⟩
      obtain ⟨octets, hmac, hoctets⟩ := (ih (by omega)).mp hrest
      rw [take_succ_setIfInBounds out (by omega), List.append_assoc] at hmac
      exact ⟨octet :: octets, hmac, .cons (macOctet_eq_some_iff.mp hoctet) hoctets⟩
    · rintro ⟨_, hmac, hoctets⟩
      cases hoctets with
      | cons hoctet hrest =>
        refine ⟨_, macOctet_eq_some_iff.mpr hoctet, (ih (by omega)).mpr ⟨_, ?_, hrest⟩⟩
        rw [take_succ_setIfInBounds out (by omega), List.append_assoc]
        exact hmac

theorem parseMacText_eq_some_iff {s : List Char} {mac : Vector UInt8 6} :
    parseMacText s = some mac ↔ MacText s mac := by
  unfold parseMacText
  simp only
  constructor
  · intro h
    by_cases hlen : (split (· == ':') s).length = 6
    · rw [if_neg (not_not.mpr hlen), macOctets_eq_some_iff (by omega)] at h
      obtain ⟨octets, hmac, hoctets⟩ := h
      rw [List.take_zero, List.nil_append] at hmac
      exact ⟨_, (join_split ':' s).symm, hmac ▸ hoctets⟩
    · rw [if_pos hlen] at h
      cases h
  · rintro ⟨groups, rfl, hgroups⟩
    have hlen : groups.length = 6 := by rw [hgroups.length_eq, Vector.length_toList]
    have hall : ∀ g ∈ groups, AllDigits 16 g := ((List.forall₂_and_left _ _).mp hgroups).1
    have hcolon : ∀ g ∈ groups, ∀ c ∈ g, (c == ':') = false := by
      intro g hg c hc
      have hnot := (isAsciiHexdigit_iff.mp (hall g hg c hc)).not_separator
      exact beq_eq_false_iff_ne.mpr fun heq => hnot (Or.inl heq)
    rw [split_join (· == ':') ':' rfl groups (List.ne_nil_of_length_pos (by omega)) hcolon,
      if_neg (not_not.mpr hlen), macOctets_eq_some_iff (by omega)]
    exact ⟨mac.toList, by rw [List.take_zero, List.nil_append], hgroups⟩

/-! ## The order -/

def Virtual (name : String) : Prop := ∃ p ∈ virtualInterfacePrefixes, p.toList <+: name.toList

def Physical (name : String) : Prop := ∃ p ∈ ["en", "eth", "wl"], p.toList <+: name.toList

/-- Physical-looking names first, then alphabetically. -/
def Before (a b : String) : Prop :=
  (Physical a ∧ ¬ Physical b) ∨ ((Physical a ↔ Physical b) ∧ a < b)

theorem isVirtualInterface_iff {name : String} : isVirtualInterface name = true ↔ Virtual name := by
  rw [isVirtualInterface, List.any_eq_true]
  exact exists_congr fun p => and_congr_right fun _ => startsWith_iff

theorem isPhysicalPrefix_iff {name : String} : isPhysicalPrefix name = true ↔ Physical name := by
  simp [isPhysicalPrefix, Physical, startsWith_iff, or_assoc]

/-- The tiers are compared the other way round: `true` comes first. -/
instance physicalFirst.transCmp :
    Std.TransCmp fun a b => compareOn isPhysicalPrefix b a := inferInstance

instance interfaceOrder.transCmp : Std.TransCmp interfaceOrder :=
  inferInstanceAs (Std.TransCmp (compareLex (fun a b => compareOn isPhysicalPrefix b a) compare))

instance interfaceOrder.lawfulEqCmp : Std.LawfulEqCmp interfaceOrder where
  compare_self {a} := by simp [interfaceOrder]
  eq_of_compare {a b} h := Std.LawfulEqOrd.eq_of_compare (Ordering.then_eq_eq.mp h).2

theorem compare_isLE_iff {a b : String} : (compare a b).isLE ↔ b = a ∨ a < b := by
  show (compareOfLessAndEq a b).isLE ↔ b = a ∨ a < b
  unfold compareOfLessAndEq
  by_cases hlt : a < b
  · simp [hlt]
  · by_cases heq : a = b
    · simp [heq]
    · simp [hlt, heq, eq_comm]

theorem interfaceOrder_isLE_iff {a b : String} :
    (interfaceOrder a b).isLE ↔ b = a ∨ Before a b := by
  rw [interfaceOrder, Ordering.isLE_then_iff_or, compare_isLE_iff, Before,
    ← isPhysicalPrefix_iff, ← isPhysicalPrefix_iff]
  cases ha : isPhysicalPrefix a with
  | true =>
    have hfirst : compare false true = Ordering.lt := rfl
    cases isPhysicalPrefix b <;> simp [hfirst]
  | false =>
    cases hb : isPhysicalPrefix b with
    | false => simp
    | true =>
      have hne : b ≠ a := by
        rintro rfl
        rw [ha] at hb
        cases hb
      simp [hne]

/-! ## The least usable interface -/

structure Eligible (entries : List (Except IoError String)) (name : String) : Prop where
  listed : .ok name ∈ entries
  notLoopback : name ≠ "lo"
  notVirtual : ¬ Virtual name

/-- The address file can be read and holds a well-formed address that is not zero. -/
def HasAddress (readToString : String → Except IoError String) (name : String)
    (mac : Vector UInt8 6) : Prop :=
  ∃ text, readToString (addressPath name) = .ok text ∧ MacText (trim text.toList) mac ∧
    mac ≠ zeroMac

structure LeastUsable (entries : List (Except IoError String))
    (readToString : String → Except IoError String) (name : String) (mac : Vector UInt8 6) :
    Prop where
  eligible : Eligible entries name
  address : HasAddress readToString name mac
  least : ∀ other mac', Eligible entries other → HasAddress readToString other mac' →
    other = name ∨ Before name other

theorem mem_interfaceCandidates {entries : List (Except IoError String)} {name : String} :
    name ∈ interfaceCandidates entries ↔ Eligible entries name := by
  have hvirtual : isVirtualInterface name = false ↔ ¬ Virtual name := by
    rw [← isVirtualInterface_iff, Bool.not_eq_true]
  simp only [interfaceCandidates, List.mem_filter, List.mem_filterMap, Outcome.toOption_eq_some_iff,
    exists_eq_right, Bool.and_eq_true, bne_iff_ne, Bool.not_eq_true', hvirtual]
  exact ⟨fun h => ⟨h.1, h.2.1, h.2.2⟩, fun h => ⟨h.listed, h.notLoopback, h.notVirtual⟩⟩

theorem interfaceMac_eq_some_iff {sys : SysClassNet} {name : String} {mac : Vector UInt8 6} :
    interfaceMac sys name = some mac ↔ HasAddress sys.readToString name mac := by
  simp only [interfaceMac, Option.bind_eq_bind, Option.bind_eq_some_iff, Outcome.toOption_eq_some_iff,
    parseMacText_eq_some_iff]
  constructor
  · rintro ⟨text, htext, found, hfound, h⟩
    by_cases hzero : found = zeroMac
    · rw [if_pos hzero] at h
      cases h
    · rw [if_neg hzero] at h
      cases h
      exact ⟨text, htext, hfound, hzero⟩
  · rintro ⟨text, htext, hmac, hzero⟩
    exact ⟨text, htext, mac, hmac, if_neg hzero⟩

theorem leastSuccess_iff {entries : List (Except IoError String)} {sys : SysClassNet}
    {name : String} {mac : Vector UInt8 6} :
    LeastSuccess interfaceOrder (interfaceMac sys) (interfaceCandidates entries) name mac ↔
      LeastUsable entries sys.readToString name mac := by
  constructor
  · rintro ⟨hmem, hsuccess, hleast⟩
    refine ⟨mem_interfaceCandidates.mp hmem, interfaceMac_eq_some_iff.mp hsuccess, ?_⟩
    intro other mac' heligible haddress
    have hsome : (interfaceMac sys other).isSome := by
      rw [interfaceMac_eq_some_iff.mpr haddress]
      rfl
    exact interfaceOrder_isLE_iff.mp
      (hleast other (mem_interfaceCandidates.mpr heligible) hsome)
  · rintro ⟨heligible, haddress, hleast⟩
    refine ⟨mem_interfaceCandidates.mpr heligible, interfaceMac_eq_some_iff.mpr haddress, ?_⟩
    intro other hmem hsome
    obtain ⟨mac', hmac'⟩ := Option.isSome_iff_exists.mp hsome
    exact interfaceOrder_isLE_iff.mpr (hleast other mac' (mem_interfaceCandidates.mp hmem)
      (interfaceMac_eq_some_iff.mp hmac'))

theorem hostMacLinux_eq (readToString : String → Except IoError String)
    (entries : List (Except IoError String)) : hostMacLinux ⟨.ok entries, readToString⟩ =
      (sortBy interfaceOrder (interfaceCandidates entries)).findSome?
        (interfaceMac ⟨.ok entries, readToString⟩) := rfl

section Result
variable {readToString : String → Except IoError String} {entries : List (Except IoError String)}

theorem hostMacLinux_eq_some_iff {mac : Vector UInt8 6} :
    hostMacLinux ⟨.ok entries, readToString⟩ = some mac ↔
      ∃ name, LeastUsable entries readToString name mac := by
  rw [hostMacLinux_eq, findSome?_sortBy]
  exact exists_congr fun name => leastSuccess_iff

theorem hostMacLinux_eq_none_iff : hostMacLinux ⟨.ok entries, readToString⟩ = none ↔
    ∀ name mac, Eligible entries name → ¬ HasAddress readToString name mac := by
  rw [hostMacLinux_eq, findSome?_sortBy_eq_none_iff]
  apply forall_congr'
  intro name
  rw [mem_interfaceCandidates, Option.eq_none_iff_forall_ne_some]
  constructor
  · intro h mac heligible haddress
    exact h heligible mac (interfaceMac_eq_some_iff.mpr haddress)
  · intro h heligible mac hmac
    exact h mac heligible (interfaceMac_eq_some_iff.mp hmac)

theorem hostMacLinux_congr {entries' : List (Except IoError String)}
    (h : ∀ name, Eligible entries name ↔ Eligible entries' name) :
    hostMacLinux ⟨.ok entries, readToString⟩ = hostMacLinux ⟨.ok entries', readToString⟩ := by
  -- a pass of the loop reads only the address files
  show (sortBy interfaceOrder (interfaceCandidates entries)).findSome? _ =
    (sortBy interfaceOrder (interfaceCandidates entries')).findSome? _
  apply findSome?_sortBy_congr
  intro name _
  rw [mem_interfaceCandidates, mem_interfaceCandidates, h]

/-- Where nothing else is given, the engine ID is that of the least usable interface. -/
theorem resolve_leastUsable {ε : Type} {world : World} {name : String} {mac : Vector UInt8 6}
    (hworld : world.hostMac = hostMac Platform.current ⟨.ok entries, readToString⟩)
    (hleast : LeastUsable entries readToString name mac) :
    (resolve world none none : Outcome ε EngineId) = .ok (.fromMac mac) := by
  have hmac : world.hostMac = some mac := by
    rw [hworld]
    exact hostMacLinux_eq_some_iff.mpr ⟨name, hleast⟩
  simp only [resolve, hmac]

end Result

/-- **The host's address is a function of the usable interfaces**: neither the order of the entries
nor the loopback and virtual ones matter, and the address is that of the least usable interface. -/
theorem hostMacLinux_least (readToString : String → Except IoError String)
    (entries : List (Except IoError String)) :
    (∀ entries', entries.Perm entries' →
      hostMacLinux ⟨.ok entries', readToString⟩ = hostMacLinux ⟨.ok entries, readToString⟩) ∧
    (∀ entries', (∀ name, name ≠ "lo" → ¬ Virtual name →
        (.ok name ∈ entries' ↔ .ok name ∈ entries)) →
      hostMacLinux ⟨.ok entries', readToString⟩ = hostMacLinux ⟨.ok entries, readToString⟩) ∧
    (∀ mac, hostMacLinux ⟨.ok entries, readToString⟩ = some mac ↔
      ∃ name, LeastUsable entries readToString name mac) ∧
    (hostMacLinux ⟨.ok entries, readToString⟩ = none ↔
      ∀ name mac, Eligible entries name → ¬ HasAddress readToString name mac) := by
  have hmembers : ∀ entries', (∀ name, name ≠ "lo" → ¬ Virtual name →
        (.ok name ∈ entries' ↔ .ok name ∈ entries)) →
      hostMacLinux ⟨.ok entries', readToString⟩ = hostMacLinux ⟨.ok entries, readToString⟩ := by
    intro entries' h
    apply hostMacLinux_congr
    intro name
    constructor
    · rintro ⟨hlisted, hlo, hvirtual⟩
      exact ⟨(h name hlo hvirtual).mp hlisted, hlo, hvirtual⟩
    · rintro ⟨hlisted, hlo, hvirtual⟩
      exact ⟨(h name hlo hvirtual).mpr hlisted, hlo, hvirtual⟩
  refine ⟨?_, hmembers, fun mac => hostMacLinux_eq_some_iff, hostMacLinux_eq_none_iff⟩
  intro entries' hperm
  exact hmembers entries' fun name _ _ => hperm.symm.mem_iff

/-- A bridge and the loopback beside two interfaces: the wired one comes before the wireless. -/
theorem hostMacLinux_least_docker :
    let readToString := fun path =>
      if path = addressPath "eth0" then .ok "00:1B:21:0a:ff:7E\n"
      else if path = addressPath "wlan0" then .ok "02:00:00:00:00:01\n"
      else .error ⟨.other, some 2, "No such file or directory (os error 2)"⟩
    hostMacLinux ⟨.ok [.ok "wlan0", .ok "docker0", .ok "lo", .ok "eth0"], readToString⟩ =
        some #v[0x00, 0x1B, 0x21, 0x0A, 0xFF, 0x7E] := by
  intro readToString
  have htwo := hostMacLinux_least readToString [.ok "eth0", .ok "wlan0"]
  have hleast : LeastUsable [.ok "eth0", .ok "wlan0"] readToString "eth0"
      #v[0x00, 0x1B, 0x21, 0x0A, 0xFF, 0x7E] := by
    refine ⟨⟨by simp, by decide, ?_⟩, ⟨_, rfl, ?_, by decide⟩, ?_⟩
    · rw [← isVirtualInterface_iff]
      decide
    · exact parseMacText_eq_some_iff.mp (by decide +kernel)
    · intro other mac' heligible _
      have hother := heligible.listed
      simp only [List.mem_cons, Except.ok.injEq, List.not_mem_nil, or_false] at hother
      obtain rfl | rfl := hother
      · exact Or.inl rfl
      · refine Or.inr (Or.inr ⟨?_, by decide⟩)
        rw [← isPhysicalPrefix_iff, ← isPhysicalPrefix_iff]
        decide
  rw [htwo.2.1, htwo.2.2.1]
  · exact ⟨_, hleast⟩
  · intro name hlo hvirtual
    have hdocker : name ≠ "docker0" := by
      rintro rfl
      exact hvirtual (isVirtualInterface_iff.mp (by decide))
    simp [hlo, hdocker, or_comm]

end SnmpTrap
