import SnmpTrap.Rust.Text

/-! `std::net` addresses and their parsers, with the names of the standard library's. `IpAddr` tries
IPv4 first, so it yields an IPv4 address exactly where the `Ipv4Addr` parser does. -/
namespace SnmpTrap.Rust
set_option autoImplicit false
set_option maxHeartbeats 250000
set_option maxRecDepth 120000

structure Ipv4Addr where
  a : UInt8
  b : UInt8
  c : UInt8
  d : UInt8
deriving DecidableEq, Repr

def Ipv4Addr.octets (ip : Ipv4Addr) : List UInt8 := [ip.a, ip.b, ip.c, ip.d]

structure SocketAddrV4 where
  ip : Ipv4Addr
  port : UInt16
deriving DecidableEq, Repr

inductive IpAddr where
  | v4 (ip : Ipv4Addr)
  | v6 (groups : List ℕ)
deriving DecidableEq, Repr

/-- `Display`: the dotted quad. -/
def Ipv4Addr.display (ip : Ipv4Addr) : String := s!"{ip.a}.{ip.b}.{ip.c}.{ip.d}"

def SocketAddrV4.display (addr : SocketAddrV4) : String := s!"{addr.ip.display}:{addr.port}"

@[simp] theorem Ipv4Addr.octets_length (ip : Ipv4Addr) : ip.octets.length = 4 := rfl

def digitsValue (radix : ℕ) (cs : List Char) : ℕ :=
  cs.foldl (fun acc c => acc * radix + (toDigit radix c).getD 0) 0

/-- `Parser::read_number`: all digits in front, at most `maxDigits` of them. -/
def readNumber (radix maxDigits limit : ℕ) (allowZeroPrefix : Bool) (cs : List Char) :
    Option (ℕ × List Char) :=
  let ds := cs.takeWhile fun c => (toDigit radix c).isSome
  let rest := cs.dropWhile fun c => (toDigit radix c).isSome
  if ds.length = 0 ∨ maxDigits < ds.length then none
  else if allowZeroPrefix = false ∧ ds.head? = some '0' ∧ 1 < ds.length then none
  else if limit < digitsValue radix ds then none
  else some (digitsValue radix ds, rest)

def readGivenChar (c : Char) : List Char → Option (List Char)
  | [] => none
  | d :: rest => if d = c then some rest else none

/-- One group of a dotted quad; octal-looking groups are refused. -/
def readOctet (cs : List Char) : Option (UInt8 × List Char) :=
  (readNumber 10 3 255 false cs).map fun (n, rest) => (UInt8.ofNat n, rest)

def readIpv4Addr (cs : List Char) : Option (Ipv4Addr × List Char) := do
  let (a, cs) ← readOctet cs
  let (b, cs) ← (readGivenChar '.' cs).bind readOctet
  let (c, cs) ← (readGivenChar '.' cs).bind readOctet
  let (d, cs) ← (readGivenChar '.' cs).bind readOctet
  some (⟨a, b, c, d⟩, cs)

/-- `read_groups`: up to `n` groups and whether an embedded IPv4 address ended them. -/
def readGroups (first : Bool) : ℕ → List Char → List ℕ × Bool × List Char
  | 0, cs => ([], false, cs)
  | n + 1, cs =>
    let body := if first then some cs else readGivenChar ':' cs
    -- an embedded IPv4 address takes two groups
    match (if 1 ≤ n then body.bind readIpv4Addr else none) with
    | some (ip, rest) =>
      ([256 * ip.a.toNat + ip.b.toNat, 256 * ip.c.toNat + ip.d.toNat], true, rest)
    | none =>
      match body.bind (readNumber 16 4 65535 true) with
      | some (g, rest) =>
        let (gs, embedded, rest) := readGroups false n rest
        (g :: gs, embedded, rest)
      | none => ([], false, cs)

def readIpv6Addr (cs : List Char) : Option (List ℕ × List Char) :=
  match readGroups true 8 cs with
  | (head, embedded, rest) =>
    if head.length = 8 then some (head, rest)
    else if embedded then none
    else do
      let rest ← readGivenChar ':' rest
      let rest ← readGivenChar ':' rest
      let (tail, _, rest) := readGroups true (8 - (head.length + 1)) rest
      some (head ++ List.replicate (8 - head.length - tail.length) 0 ++ tail, rest)

def parseIpv4Addr (s : String) : Option Ipv4Addr :=
  match readIpv4Addr s.toList with
  | some (ip, []) => some ip
  | _ => none

def parseIpAddr (s : String) : Option IpAddr :=
  match readIpv4Addr s.toList with
  | some (ip, rest) => if rest = [] then some (.v4 ip) else none
  | none =>
    match readIpv6Addr s.toList with
    | some (groups, []) => some (.v6 groups)
    | _ => none

/-- The two parsers agree on IPv4. -/
theorem parseIpAddr_v4_iff (s : String) (ip : Ipv4Addr) :
    parseIpAddr s = some (.v4 ip) ↔ parseIpv4Addr s = some ip := by
  unfold parseIpAddr parseIpv4Addr
  cases h : readIpv4Addr s.toList with
  | none =>
    simp only [reduceCtorEq, iff_false]
    cases readIpv6Addr s.toList with
    | none => simp
    | some r =>
      obtain ⟨groups, rest⟩ := r
      cases rest <;> simp
  | some r =>
    obtain ⟨ip', rest⟩ := r
    cases rest <;> simp

example : parseIpv4Addr "198.51.100.42" = some ⟨198, 51, 100, 42⟩ := by decide
example : parseIpv4Addr "198.51.100.042" = none := by decide
example : parseIpAddr "2001:db8::1" = some (.v6 [0x2001, 0xdb8, 0, 0, 0, 0, 0, 1]) := by decide

end SnmpTrap.Rust
