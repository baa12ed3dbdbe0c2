import SnmpTrap.BitString
import SnmpTrap.HexGrammar
import SnmpTrap.OidGrammar
import SnmpTrap.Rust.Ipv4Text
import SnmpTrap.SameTrap
import SnmpTrap.V1Positional
import SnmpTrap.V1Trip

/-! What positional arguments can express: a text for each value that some text says, and the
values that none does. -/
namespace SnmpTrap
open Rust Numeral
set_option autoImplicit false
set_option maxHeartbeats 250000
set_option maxRecDepth 120000

/-! ## Object identifiers -/

/-- An arc or a position in decimal. -/
def decimal (n : UInt32) : List Char := (toString n).toList

def dotted (arcs : List UInt32) : String := String.ofList (join '.' (arcs.map decimal))

theorem arcsInRange_of_ok {s : String} {arcs : List UInt32} (h : parseOid s = .ok arcs) :
    ArcsInRange arcs :=
  ((parseOid_ok_iff s arcs).mp h).2.2

def hexText (bytes : List UInt8) : String := String.ofList ((nibbles bytes).map Nat.digitChar)

theorem nibbles_lt (bytes : List UInt8) : ∀ d ∈ nibbles bytes, d < 16 := by
  intro d hd
  obtain ⟨b, _, hd⟩ := List.mem_flatMap.mp hd
  have := b.toNat_lt
  rw [List.mem_cons, List.mem_singleton] at hd
  omega

theorem hexValue_digitChar : ∀ d < 16, IsHexDigit (Nat.digitChar d) ∧
    hexValue (Nat.digitChar d) = d := by decide

theorem hexBody_digitChars (ds : List ℕ) (h : ∀ d ∈ ds, d < 16) :
    HexBody ds (ds.map Nat.digitChar) := by
  induction ds with
  | nil => exact .nil
  | cons d ds ih =>
    rw [List.forall_mem_cons] at h
    obtain ⟨hdigit, hvalue⟩ := hexValue_digitChar d h.1
    have hbody := HexBody.digit hdigit (ih h.2)
    rwa [hvalue] at hbody

theorem hexRendering_hexText (bytes : List UInt8) : HexRendering bytes (hexText bytes).toList := by
  refine ⟨[], [], _, String.toList_ofList, by simp, Or.inl rfl, ?_⟩
  exact hexBody_digitChars _ (nibbles_lt bytes)

theorem parseHexString_hexText (bytes : List UInt8) :
    parseHexString (hexText bytes) = .ok bytes :=
  parseHexString_iff_format.mpr (hexRendering_hexText bytes).format

/-! ## BITS -/

/-- The positions of the bits that are set. -/
def setPositionsOf (bytes : List UInt8) : List UInt32 :=
  ((List.range (8 * bytes.length)).filter (bitAt bytes ·)).map UInt32.ofNat

def bitsText (bytes : List UInt8) : String :=
  String.ofList (join ',' ((setPositionsOf bytes).map decimal))

/-- No octet more than the highest bit needs, and no bit past 65535. -/
structure IsBits (bytes : List UInt8) : Prop where
  last : ∀ b, bytes.getLast? = some b → b ≠ 0
  length_le : bytes.length ≤ 8192

theorem isBits_of_ok {raw : String} {bytes : List UInt8} (h : parseBits raw = .ok bytes) :
    IsBits bytes := by
  obtain ⟨positions, hpositions⟩ := exists_positions h
  rw [parseBits_of_positions hpositions] at h
  refine ⟨(isLeastBits_of_ok h).last, ?_⟩
  cases hmax : positions.max? with
  | none =>
    rw [List.max?_eq_none_iff.mp hmax] at h
    cases h
    exact Nat.zero_le _
  | some max =>
    by_cases hcap : 65535 < max.toNat
    · rw [setPositions_fail hmax hcap] at h
      exact absurd h (Outcome.fail_ne_ok _ _)
    · obtain ⟨out, hout, hlen, _⟩ := setPositions_ok hmax (Nat.le_of_not_lt hcap)
      rw [hout] at h
      cases h
      omega

/-! ## Values -/

def VarBindValue.letter : VarBindValue → Char
  | .integer _ => 'i'
  | .unsigned32 _ => 'u'
  | .timeTicks _ => 't'
  | .ipAddress _ => 'a'
  | .objectId _ => 'o'
  | .octetString _ => 'x'
  | .null => 'n'
  | .bits _ => 'b'
  | .counter64 _ => 'U'

/-- An argument that says the value behind its letter. -/
def VarBindValue.text : VarBindValue → String
  | .integer i => toString i
  | .unsigned32 n => toString n
  | .timeTicks n => toString n
  | .ipAddress ip => ip.display
  | .objectId arcs => dotted arcs
  | .octetString bytes => hexText bytes
  | .null => ""
  | .bits bytes => bitsText bytes
  | .counter64 n => toString n

/-- Some letter and text say the value. -/
def VarBindValue.Expressible : VarBindValue → Prop
  | .objectId arcs => ArcsInRange arcs
  | .bits bytes => IsBits bytes
  | _ => True

example : VarBindValue.text (.bits [0x80, 0x01]) = "0,15" := by decide +kernel

theorem expressible_of_ok {letter : Char} {raw : String} {v : VarBindValue}
    (h : parseTypedValue letter raw = .ok v) : v.Expressible := by
  unfold parseTypedValue at h
  split at h
  case h_4 =>
    split at h
    · cases h
      exact trivial
    · exact absurd h (Outcome.fail_ne_ok _ _)
  case h_5 =>
    obtain ⟨arcs, harcs, rfl⟩ := Outcome.map_ok_iff.mp h
    exact arcsInRange_of_ok (Outcome.mapErr_ok_iff.mp harcs)
  case h_9 =>
    obtain ⟨bytes, hbytes, rfl⟩ := Outcome.map_ok_iff.mp h
    exact isBits_of_ok (Outcome.mapErr_ok_iff.mp hbytes)
  case h_6 =>
    cases h
    exact trivial
  case h_8 =>
    cases h
    exact trivial
  case h_11 => exact absurd h (Outcome.fail_ne_ok _ _)
  all_goals
    obtain ⟨_, _, rfl⟩ := Outcome.map_ok_iff.mp h
    exact trivial

/-! ## Var-binds -/

def VarbindsExpressible (vbs : List (List UInt32 × VarBindValue)) : Prop :=
  ∀ vb ∈ vbs, ArcsInRange vb.1 ∧ vb.2.Expressible

def varbindArgs (vbs : List (List UInt32 × VarBindValue)) : List String :=
  vbs.flatMap fun vb => [dotted vb.1, String.ofList [vb.2.letter], vb.2.text]

theorem Triplets.expressible {rest : List String} {vbs : List (List UInt32 × VarBindValue)}
    (h : Triplets rest vbs) : VarbindsExpressible vbs := by
  induction h with
  | nil =>
    intro vb hvb
    cases hvb
  | cons hoid _ hvalue _ ih =>
    exact List.forall_mem_cons.mpr ⟨⟨arcsInRange_of_ok hoid, expressible_of_ok hvalue⟩, ih⟩

structure Positionals.Expressible (p : Positionals) : Prop where
  trapOid : ArcsInRange p.trapOid
  varbinds : VarbindsExpressible p.varbinds
  unreserved : ∀ vb ∈ p.varbinds, ¬ Reserved vb.1

section Positionals
variable {world : World} {p : Positionals}

end Positionals

/-! ## Positionals of v1 -/

/-- What the arguments of v1 can say. -/
structure V1Trap.InRange (t : V1Trap) : Prop where
  enterprise : ArcsInRange t.enterprise
  genericRange : 0 ≤ t.generic ∧ t.generic ≤ 6
  specificRange : 0 ≤ t.specific
  varbinds : VarbindsExpressible t.varbinds

/-- Of that, what SNMPv1 has types for. -/
structure V1Trap.Expressible (t : V1Trap) : Prop extends t.InRange where
  smiV1 : ¬ ∃ vb ∈ t.varbinds, (∃ bytes, vb.2 = .bits bytes) ∨ ∃ n, vb.2 = .counter64 n

def V1Trap.args (t : V1Trap) : List String :=
  dotted t.enterprise :: t.agentAddr.display :: toString t.generic :: toString t.specific ::
    toString t.uptimeCentiseconds :: varbindArgs t.varbinds

section V1
variable {world : World} {cli : Cli} {dst : SocketAddrV4} {t : V1Trap}

theorem arcsInRange_of_v1Enterprise {arg : String} {arcs : List UInt32}
    (h : v1Enterprise arg = .ok arcs) : ArcsInRange arcs := by
  unfold v1Enterprise at h
  split at h
  · cases h
    exact ⟨by decide, by decide⟩
  · exact arcsInRange_of_ok (Outcome.mapErr_ok_iff.mp h)

theorem V1Args.inRange {enterpriseArg agentArg genericArg specificArg uptimeArg : String}
    {rest : List String} (h : V1Args world cli dst t enterpriseArg agentArg genericArg
      specificArg uptimeArg rest) : t.InRange :=
  ⟨arcsInRange_of_v1Enterprise h.enterprise, h.genericRange, h.specificRange,
    h.varbinds.expressible⟩

variable {r : Ber.Encoder}

end V1

end SnmpTrap
