import SnmpTrap.Rust.Net
import SnmpTrap.Rust.Slice

/-! Typed varbind values and their parsers (`varbind.rs`). -/
namespace SnmpTrap
open Rust
set_option autoImplicit false
set_option maxHeartbeats 250000
set_option maxRecDepth 120000

inductive VarBindValue where
  | integer (i : Int32)
  | unsigned32 (u : UInt32)
  | timeTicks (t : UInt32)
  | ipAddress (ip : Ipv4Addr)
  | objectId (arcs : List UInt32)
  | octetString (bytes : List UInt8)
  | null
  | bits (bytes : List UInt8)
  | counter64 (n : UInt64)
deriving DecidableEq

inductive ParseError where
  | unknownLetter (letter : Char)
  | badValue (letter : Char) (detail : String)
deriving DecidableEq, Repr

/-! ## Object identifiers -/

/-- The loop over the dot-separated tokens. -/
def parseArcs (s : String) : List (List Char) → Outcome String (List UInt32)
  | [] => .ok []
  | tok :: toks =>
    if tok = [] then Outcome.fail s!"empty arc in OID '{s}'"
    else match parseU32 tok with
      | .error e => Outcome.fail s!"invalid arc '{String.ofList tok}' in OID '{s}': {e.text}"
      | .ok n => do
        let parts ← parseArcs s toks
        .ok (n :: parts)

/-- The tokens of an OID text: leading dots trimmed, then split at dots. -/
def oidTokens (s : String) : List (List Char) :=
  split (· == '.') (s.toList.dropWhile (· == '.'))

def parseOid (s : String) : Outcome String (List UInt32) :=
  if s = "" then Outcome.fail "empty OID"
  else do
    let parts ← parseArcs s (oidTokens s)
    if parts.length < 2 then Outcome.fail s!"OID '{s}' has fewer than two arcs"
    else do
      let first ← Outcome.index parts 0
      let second ← Outcome.index parts 1
      if 2 < first then
        Outcome.fail s!"OID '{s}' first arc must be 0, 1, or 2, got {first}"
      -- under 0 and 1 a second arc of 40 or more would share a first sub-identifier
      else if first < 2 ∧ 40 ≤ second then
        Outcome.fail
          s!"OID '{s}' second arc must be < 40 when first arc is {first}, got {second}"
      else .ok parts

/-! ## Hex strings -/

def isAsciiHexdigit (c : Char) : Bool := (toDigit 16 c).isSome

/-- One leading `0x`, else one leading `0X`, is dropped. -/
def stripHexPrefix (trimmed : List Char) : List Char :=
  ((stripPrefix ['0', 'x'] trimmed).or (stripPrefix ['0', 'X'] trimmed)).getD trimmed

/-- The loop over two-byte chunks. -/
def hexBytes (raw : String) : List (List UInt8) → Outcome String (List UInt8)
  | [] => .ok []
  | chunk :: rest => do
    let s ← Outcome.expect "ASCII-hex slice" (fromUtf8 chunk)
    let byte ← Outcome.mapErr (fun e => s!"non-hex character in '{raw}': {IntErrorKind.text e}")
      (Outcome.ofExcept (parseU8Hex s))
    let out ← hexBytes raw rest
    .ok (byte :: out)

def parseHexString (raw : String) : Outcome String (List UInt8) :=
  let body := stripHexPrefix (trim raw.toList)
  let cleaned := body.filter fun c => !isWhitespace c && c != ':'
  if cleaned = [] then .ok []
  else match cleaned.find? (fun c => !isAsciiHexdigit c) with
    | some c => Outcome.fail s!"non-hex character '{c}' in '{raw}'"
    | none =>
      let bytes := encodeUtf8 cleaned
      if bytes.length % 2 ≠ 0 then
        Outcome.fail
          s!"hex string '{raw}' has odd character count after stripping separators ({bytes.length})"
      else hexBytes raw (chunks 2 bytes)

/-! ## BITS -/

def maxBitPosition : UInt32 := 65535

/-- `out[byte_idx] |= 1 << bit_in_byte`, bits numbered from the most significant. -/
def setBit (out : List UInt8) (p : UInt32) : Outcome String (List UInt8) := do
  let byteIdx := p.toNat / 8
  let bitInByte := 7 - p.toNat % 8
  let byte ← Outcome.index out byteIdx
  .ok (out.set byteIdx (byte ||| 1 <<< UInt8.ofNat bitInByte))

def setBits : List UInt8 → List UInt32 → Outcome String (List UInt8)
  | out, [] => .ok out
  | out, p :: ps => do
    let out ← setBit out p
    setBits out ps

def parseBits (raw : String) : Outcome String (List UInt8) :=
  if trim raw.toList = [] then .ok []
  else do
    let toks := (split (fun c => c == ',' || isWhitespace c) raw.toList).filter (· ≠ [])
    let positions ← Outcome.mapErr
      (fun e => s!"invalid BITS positions in '{raw}': {IntErrorKind.text e}")
      (Outcome.ofExcept (toks.mapM parseU32))
    if positions = [] then .ok []
    else do
      let max ← Outcome.expect "called `Option::unwrap()` on a `None` value" positions.max?
      if maxBitPosition < max then
        Outcome.fail s!"BITS position {max} exceeds maximum {maxBitPosition}"
      else setBits (List.replicate (max.toNat / 8 + 1) 0) positions

/-! ## Typed values -/

def badValue {α : Type} (letter : Char) : Outcome String α → Outcome ParseError α :=
  Outcome.mapErr (.badValue letter)

def expected (kind raw text : String) : String := s!"expected {kind}, got '{raw}': {text}"

/-- An integer letter: `raw.parse()` with the detail naming what was expected. -/
def parseNumber {α : Type} (letter : Char) (kind raw : String) (r : Except IntErrorKind α) :
    Outcome ParseError α :=
  badValue letter (Outcome.mapErr (fun e => expected kind raw e.text) (Outcome.ofExcept r))

def parseTypedValue (letter : Char) (raw : String) : Outcome ParseError VarBindValue :=
  match letter with
  | 'i' => VarBindValue.integer <$>
    parseNumber letter "signed 32-bit decimal" raw (parseI32 raw.toList)
  | 'u' => VarBindValue.unsigned32 <$>
    parseNumber letter "unsigned 32-bit decimal" raw (parseU32 raw.toList)
  | 't' => VarBindValue.timeTicks <$>
    parseNumber letter "unsigned 32-bit decimal" raw (parseU32 raw.toList)
  | 'a' =>
    match parseIpv4Addr raw with
    | some ip => .ok (.ipAddress ip)
    | none => Outcome.fail
      (.badValue letter (expected "dotted-quad IPv4" raw "invalid IPv4 address syntax"))
  | 'o' => VarBindValue.objectId <$> badValue letter (parseOid raw)
  | 's' => .ok (.octetString (asBytes raw))
  | 'x' => VarBindValue.octetString <$> badValue letter (parseHexString raw)
  | 'n' => .ok .null
  | 'b' => VarBindValue.bits <$> badValue letter (parseBits raw)
  | 'U' => VarBindValue.counter64 <$>
    parseNumber letter "unsigned 64-bit decimal" raw (parseU64 raw.toList)
  | other => Outcome.fail (.unknownLetter other)

example : parseOid ".1.3.6.01" = .ok [1, 3, 6, 1] := by decide +kernel
example : parseTypedValue 'x' "de:ad BE ef" = .ok (.octetString [0xde, 0xad, 0xbe, 0xef]) := by
  decide +kernel
example : parseTypedValue 'b' "0 1,8" = .ok (.bits [0xC0, 0x80]) := by decide +kernel

end SnmpTrap
