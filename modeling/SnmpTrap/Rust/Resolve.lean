import SnmpTrap.Rust.Ipv4Text

/-! Splitting at the last separator, and `ToSocketAddrs` of a host and a port. What the system's
resolver answers is a parameter; it is not asked about an address that is written out. -/
namespace SnmpTrap.Rust
open Numeral
set_option autoImplicit false
set_option maxHeartbeats 250000
set_option maxRecDepth 120000

/-! ## The last separator -/

/-- `str::rsplit_once`. -/
def rsplitOnce (sep : Char) : List Char → Option (List Char × List Char)
  | [] => none
  | c :: cs =>
    match rsplitOnce sep cs with
    | some (front, back) => some (c :: front, back)
    | none => if c = sep then some ([], cs) else none

theorem rsplitOnce_eq_none_iff {sep : Char} {cs : List Char} :
    rsplitOnce sep cs = none ↔ sep ∉ cs := by
  induction cs with
  | nil => simp [rsplitOnce]
  | cons c cs ih =>
    rw [rsplitOnce, List.mem_cons, not_or, ← ih]
    cases rsplitOnce sep cs with
    | none => simp [eq_comm]
    | some parts => simp

theorem rsplitOnce_append {sep : Char} {back : List Char} (hback : sep ∉ back)
    (front : List Char) : rsplitOnce sep (front ++ sep :: back) = some (front, back) := by
  induction front with
  | nil => rw [List.nil_append, rsplitOnce, rsplitOnce_eq_none_iff.mpr hback, if_pos rfl]
  | cons c front ih => rw [List.cons_append, rsplitOnce, ih]

theorem rsplitOnce_eq_some_iff {sep : Char} {cs front back : List Char} :
    rsplitOnce sep cs = some (front, back) ↔ cs = front ++ sep :: back ∧ sep ∉ back := by
  constructor
  · intro h
    by_cases hmem : sep ∈ cs
    · obtain ⟨back', front', hcs, hno⟩ := List.eq_append_cons_of_mem (List.mem_reverse.mpr hmem)
      have hsplit : cs = front'.reverse ++ sep :: back'.reverse := by
        rw [← List.reverse_reverse cs, hcs]
        simp
      have hno' : sep ∉ back'.reverse := fun h => hno (List.mem_reverse.mp h)
      rw [hsplit, rsplitOnce_append hno'] at h
      cases h
      exact ⟨hsplit, hno'⟩
    · rw [rsplitOnce_eq_none_iff.mpr hmem] at h
      cases h
  · rintro ⟨rfl, hback⟩
    exact rsplitOnce_append hback front

/-! ## Resolution -/

inductive SocketAddr where
  | v4 (addr : SocketAddrV4)
  | v6 (groups : List ℕ) (port : UInt16)
deriving DecidableEq, Repr

def SocketAddr.asV4 : SocketAddr → Option SocketAddrV4
  | .v4 addr => some addr
  | .v6 _ _ => none

/-- What the system's resolver answers for a host name and a port. -/
abbrev LookupHost (ε : Type) := String → UInt16 → Except ε (List SocketAddr)

/-- `(host, port).to_socket_addrs()`. -/
def toSocketAddrs {ε : Type} (lookupHost : LookupHost ε) (host : String) (port : UInt16) :
    Except ε (List SocketAddr) :=
  match parseIpAddr host with
  | some (.v4 ip) => .ok [.v4 ⟨ip, port⟩]
  | some (.v6 groups) => .ok [.v6 groups port]
  | none => lookupHost host port

theorem toSocketAddrs_display {ε : Type} (lookupHost : LookupHost ε) (ip : Ipv4Addr)
    (port : UInt16) : toSocketAddrs lookupHost ip.display port = .ok [.v4 ⟨ip, port⟩] := by
  have hparse := (parseIpAddr_v4_iff ip.display ip).mpr (parseIpv4Addr_iff.mpr rfl)
  rw [toSocketAddrs, hparse]

/-- The first IPv4 address in the list. -/
def FirstV4 (addrs : List SocketAddr) (addr : SocketAddrV4) : Prop :=
  ∃ before after, addrs = before ++ .v4 addr :: after ∧ ∀ a ∈ before, a.asV4 = none

theorem findSome_asV4_iff {addrs : List SocketAddr} {addr : SocketAddrV4} :
    addrs.findSome? SocketAddr.asV4 = some addr ↔ FirstV4 addrs addr := by
  rw [List.findSome?_eq_some_iff]
  constructor
  · rintro ⟨before, a, after, rfl, ha, hbefore⟩
    cases a with
    | v4 addr' =>
      cases ha
      exact ⟨before, after, rfl, hbefore⟩
    | v6 groups port => cases ha
  · rintro ⟨before, after, rfl, hbefore⟩
    exact ⟨before, .v4 addr, after, rfl, rfl, hbefore⟩

/-! ## IPv6 literals -/

theorem count_of_readNumber {radix maxDigits limit v : ℕ} {allowZeroPrefix : Bool}
    {cs rest : List Char} (hcolon : toDigit radix ':' = none)
    (h : readNumber radix maxDigits limit allowZeroPrefix cs = some (v, rest)) :
    cs.count ':' = rest.count ':' := by
  have hno : ':' ∉ cs.takeWhile fun c => (toDigit radix c).isSome := by
    intro hmem
    have hdigit := List.mem_takeWhile_imp (p := fun c => (toDigit radix c).isSome) hmem
    rw [hcolon] at hdigit
    cases hdigit
  rw [readNumber] at h
  split at h
  · cases h
  · split at h
    · cases h
    · split at h
      · cases h
      · cases h
        conv_lhs => rw [← List.takeWhile_append_dropWhile
          (p := fun c => (toDigit radix c).isSome) (l := cs)]
        rw [List.count_append, List.count_eq_zero_of_not_mem hno, Nat.zero_add]

theorem count_of_readIpv4Addr {cs rest : List Char} {ip : Ipv4Addr}
    (h : readIpv4Addr cs = some (ip, rest)) : cs.count ':' = rest.count ':' := by
  rw [(readIpv4Addr_iff.mp h).1, List.count_append,
    List.count_eq_zero_of_not_mem (display_no_colon ip), Nat.zero_add]

/-- The colon that a group other than the first starts with. -/
theorem count_of_body {first : Bool} {cs body : List Char}
    (h : (if first then some cs else readGivenChar ':' cs) = some body) :
    cs.count ':' + (if first then 1 else 0) = body.count ':' + 1 := by
  cases first with
  | true =>
    cases h
    rfl
  | false =>
    rw [if_neg (by decide), readGivenChar_iff] at h
    rw [h, List.count_cons_self, if_neg (by decide), Nat.add_zero]

/-- A colon comes before every group but the first, only that an embedded IPv4 address takes two
groups; and what is read loses no colons. -/
theorem readGroups_colons (first : Bool) (n : ℕ) (cs : List Char) :
    (readGroups first n cs).2.2.count ':' ≤ cs.count ':' ∧
      (readGroups first n cs).1.length + (readGroups first n cs).2.2.count ':' ≤
        cs.count ':' + (if first then 1 else 0) + 1 := by
  induction n generalizing first cs with
  | zero =>
    rw [readGroups]
    simp only [List.length_nil]
    omega
  | succ n ih =>
    rw [readGroups]
    simp only
    cases hbody : (if first then some cs else readGivenChar ':' cs) with
    | none =>
      simp only [Option.bind_none, ite_self, List.length_nil]
      omega
    | some body =>
      have hcount := count_of_body hbody
      have hone : (if first then 1 else 0) ≤ 1 := by
        cases first <;> decide
      split
      · rename_i ip rest hread
        have hread' : readIpv4Addr body = some (ip, rest) := by
          split at hread
          · exact hread
          · cases hread
        have hrest := count_of_readIpv4Addr hread'
        simp only [List.length_cons, List.length_nil]
        omega
      · split
        · rename_i g rest hread
          have hrest := count_of_readNumber (by decide) hread
          obtain ⟨hle, hlen⟩ := ih false rest
          rw [if_neg (by decide)] at hlen
          generalize readGroups false n rest = parsed at hle hlen ⊢
          obtain ⟨gs, embedded, left⟩ := parsed
          simp only [List.length_cons] at hle hlen ⊢
          omega
        · simp only [List.length_nil]
          omega

/-- Every IPv6 literal has two colons. -/
theorem colons_of_readIpv6Addr {cs rest : List Char} {groups : List ℕ}
    (h : readIpv6Addr cs = some (groups, rest)) : 2 ≤ cs.count ':' := by
  rw [readIpv6Addr] at h
  obtain ⟨hle, hlen⟩ := readGroups_colons true 8 cs
  generalize readGroups true 8 cs = parsed at h hle hlen
  obtain ⟨head, embedded, left⟩ := parsed
  simp only [if_true] at h hle hlen
  split at h
  · rename_i hall
    omega
  · split at h
    · cases h
    · simp only [Option.bind_eq_bind, Option.bind_eq_some_iff, readGivenChar_iff] at h
      obtain ⟨_, rfl, _, rfl, _⟩ := h
      rw [List.count_cons_self, List.count_cons_self] at hle
      omega

theorem colons_of_parseIpAddr {s : String} {groups : List ℕ}
    (h : parseIpAddr s = some (.v6 groups)) : 2 ≤ s.toList.count ':' := by
  rw [parseIpAddr] at h
  split at h
  · split at h <;> cases h
  · split at h
    · rename_i hread
      exact colons_of_readIpv6Addr hread
    · cases h

theorem readNumber_of_not_digit {radix : ℕ} {c : Char} (h : toDigit radix c = none)
    (maxDigits limit : ℕ) (allowZeroPrefix : Bool) (cs : List Char) :
    readNumber radix maxDigits limit allowZeroPrefix (c :: cs) = none := by
  have hc : ¬ (toDigit radix c).isSome = true := by simp [h]
  rw [readNumber, List.takeWhile_cons_of_neg (p := fun c => (toDigit radix c).isSome) hc]
  exact if_pos (Or.inl rfl)

/-- A literal starts with a digit or a colon. -/
theorem readIpv6Addr_of_not_digit {c : Char} (hdecimal : toDigit 10 c = none)
    (hhex : toDigit 16 c = none) (hcolon : c ≠ ':') (cs : List Char) :
    readIpv6Addr (c :: cs) = none := by
  have hquad : readIpv4Addr (c :: cs) = none := by
    rw [readIpv4Addr, readOctet, readNumber_of_not_digit hdecimal]
    rfl
  have hgroups : readGroups true 8 (c :: cs) = ([], false, c :: cs) := by
    rw [readGroups]
    simp only [if_true, Option.bind_some, hquad, readNumber_of_not_digit hhex, ite_self]
  rw [readIpv6Addr, hgroups]
  simp only [List.length_nil, readGivenChar, if_neg hcolon]
  rfl

theorem not_v6_of_not_digit {c : Char} (hdecimal : toDigit 10 c = none)
    (hhex : toDigit 16 c = none) (hcolon : c ≠ ':') {s : String} {cs : List Char}
    (hs : s.toList = c :: cs) (groups : List ℕ) : parseIpAddr s ≠ some (.v6 groups) := by
  intro h
  rw [parseIpAddr, hs, readIpv6Addr_of_not_digit hdecimal hhex hcolon] at h
  split at h
  · split at h <;> cases h
  · cases h

/-- A host with fewer colons is looked up unless it is a dotted quad. -/
theorem toSocketAddrs_lookup {ε : Type} (lookupHost : LookupHost ε) {host : String}
    (hcolons : host.toList.count ':' < 2) (hname : ∀ ip : Ipv4Addr, host ≠ ip.display)
    (port : UInt16) : toSocketAddrs lookupHost host port = lookupHost host port := by
  rw [toSocketAddrs]
  cases hparse : parseIpAddr host with
  | none => rfl
  | some addr =>
    cases addr with
    | v4 ip => exact absurd (parseIpv4Addr_iff.mp ((parseIpAddr_v4_iff host ip).mp hparse)) (hname ip)
    | v6 groups =>
      have := colons_of_parseIpAddr hparse
      omega

end SnmpTrap.Rust
