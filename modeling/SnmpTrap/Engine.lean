import SnmpTrap.Numeral.Octets
import SnmpTrap.Varbind
import SnmpTrap.World

/-! SNMPv3 engine IDs (`engine.rs`): the formats, the `-E`/`-e` parser and the resolution
cascade. -/
namespace SnmpTrap
open Rust Numeral
set_option autoImplicit false
set_option maxHeartbeats 250000
set_option maxRecDepth 120000

def penNo42Org : ℕ := 61509
def formatIpv4 : UInt8 := 1
def formatMac : UInt8 := 3
def formatText : UInt8 := 4
def minEngineId : ℕ := 5
def maxEngineId : ℕ := 32
def maxPayload : ℕ := maxEngineId - 5

/-- The constructors keep the octets private and within 5 to 32 of them. -/
structure EngineId where
  bytes : List UInt8
  min_le : minEngineId ≤ bytes.length
  le_max : bytes.length ≤ maxEngineId
deriving DecidableEq

/-- `push_pen_prefix`: the enterprise number, high bit of the first octet set. -/
def penPrefix : List UInt8 :=
  match fixedOctets 4 penNo42Org with
  | b :: bs => (b ||| 0x80) :: bs
  | [] => []

example : penPrefix = [0x80, 0x00, 0xF0, 0x45] := by decide

@[simp] theorem penPrefix_length : penPrefix.length = 4 := by decide

def EngineId.fromIpv4 (addr : Ipv4Addr) : EngineId where
  bytes := penPrefix ++ [formatIpv4] ++ addr.octets
  min_le := by simp [minEngineId]
  le_max := by simp [maxEngineId]

def EngineId.fromMac (mac : Vector UInt8 6) : EngineId where
  bytes := penPrefix ++ [formatMac] ++ mac.toList
  min_le := by simp [minEngineId]
  le_max := by simp [maxEngineId]

/-- The payload truncated to the room left, behind the prefix and a format octet. -/
def EngineId.fromPayload {ε : Type} (format : UInt8) (bytes : List UInt8) :
    Outcome ε EngineId :=
  let take := min bytes.length maxPayload
  if take ≤ bytes.length then
    .ok ⟨penPrefix ++ [format] ++ bytes.take take, by simp [minEngineId]; omega, by
      simp only [List.length_append, penPrefix_length, List.length_singleton, List.length_take,
        maxEngineId, take, maxPayload]
      omega⟩
  else Outcome.panicked
    s!"range end index {take} out of range for slice of length {bytes.length}"

def EngineId.fromText {ε : Type} (text : String) : Outcome ε EngineId :=
  fromPayload formatText (asBytes text)

/-! ## User input -/

inductive EngineIdParseError where
  | empty
  | tooShort (got min : ℕ)
  | oddLength (got : ℕ)
  | badHex (ch : Char)
  | tooLong (got max : ℕ)
deriving DecidableEq, Repr

def EngineIdParseError.text : EngineIdParseError → String
  | .empty => "engine-ID is empty"
  | .tooShort got min =>
    s!"engine-ID is {got} octets long, RFC 3411 §5 requires at least {min}"
  | .oddLength got => s!"engine-ID hex string has odd length ({got} chars)"
  | .badHex ch => s!"engine-ID contains non-hex character '{ch}'"
  | .tooLong got max => s!"engine-ID is {got} octets long, max is {max}"

def decodeHexNibble (b : UInt8) : Outcome EngineIdParseError UInt8 :=
  if 48 ≤ b ∧ b ≤ 57 then .ok (b - 48)
  else if 97 ≤ b ∧ b ≤ 102 then .ok (b - 97 + 10)
  else if 65 ≤ b ∧ b ≤ 70 then .ok (b - 65 + 10)
  else Outcome.fail (.badHex (Char.ofNat b.toNat))

/-- The loop over exact two-byte chunks. -/
def nibblePairs : List (List UInt8) → Outcome EngineIdParseError (List UInt8)
  | [] => .ok []
  | chunk :: rest => do
    let b₀ ← Outcome.index chunk 0
    let hi ← decodeHexNibble b₀
    let b₁ ← Outcome.index chunk 1
    let lo ← decodeHexNibble b₁
    let bytes ← nibblePairs rest
    .ok ((hi <<< 4 ||| lo) :: bytes)

def EngineId.parseUserInput (s : String) : Outcome EngineIdParseError EngineId :=
  let body := stripHexPrefix (trim s.toList)
  let cleaned := encodeUtf8 (body.filter fun c => !isAsciiWhitespace c && c != ':')
  if cleaned = [] then Outcome.fail .empty
  else if maxEngineId * 2 < cleaned.length then
    Outcome.fail (.tooLong (cleaned.length / 2) maxEngineId)
  else if cleaned.length % 2 ≠ 0 then Outcome.fail (.oddLength cleaned.length)
  else do
    -- the length is even here, so exact chunks are all the chunks
    let bytes ← nibblePairs (chunks 2 cleaned)
    if hmin : bytes.length < minEngineId then
      Outcome.fail (.tooShort bytes.length minEngineId)
    else if hmax : maxEngineId < bytes.length then
      Outcome.fail (.tooLong bytes.length maxEngineId)
    else .ok ⟨bytes, Nat.le_of_not_lt hmin, Nat.le_of_not_lt hmax⟩

/-! ## The cascade -/

def resolve {ε : Type} (world : World) (userAuthoritative : Option EngineId)
    (srcAddrV4 : Option Ipv4Addr) : Outcome ε EngineId :=
  match userAuthoritative with
  | some eid => .ok eid
  | none =>
    match srcAddrV4 with
    | some addr => .ok (.fromIpv4 addr)
    | none =>
      match world.hostMac with
      | some mac => .ok (.fromMac mac)
      | none => EngineId.fromText (world.hostName.getD "snmptrap-rs")

theorem EngineId.fromPayload_eq {ε : Type} (format : UInt8) (bytes : List UInt8) :
    ∃ e : EngineId, (EngineId.fromPayload format bytes : Outcome ε EngineId) = .ok e ∧
      e.bytes = penPrefix ++ [format] ++ bytes.take maxPayload := by
  unfold fromPayload
  rw [if_pos (Nat.min_le_left _ _)]
  refine ⟨_, rfl, ?_⟩
  simp only [List.append_cancel_left_eq, Nat.min_comm bytes.length maxPayload]
  rw [← List.take_take, List.take_length]

theorem safe_decodeHexNibble (b : UInt8) : (decodeHexNibble b).Safe := by
  unfold decodeHexNibble
  split
  · exact Outcome.safe_ok _
  · split
    · exact Outcome.safe_ok _
    · split
      · exact Outcome.safe_ok _
      · exact Outcome.safe_fail _

theorem safe_nibblePairs (cs : List (List UInt8)) (h : ∀ c ∈ cs, c.length = 2) :
    (nibblePairs cs).Safe := by
  induction cs with
  | nil => exact Outcome.safe_ok _
  | cons c cs ih =>
    have hc : c.length = 2 := h c (by simp)
    rw [nibblePairs]
    refine (Outcome.safe_index (by omega)).bind fun b₀ _ => ?_
    refine (safe_decodeHexNibble b₀).bind fun hi _ => ?_
    refine (Outcome.safe_index (by omega)).bind fun b₁ _ => ?_
    refine (safe_decodeHexNibble b₁).bind fun lo _ => ?_
    exact (ih fun d hd => h d (by simp [hd])).bind fun bytes _ => Outcome.safe_ok _

theorem EngineId.safe_parseUserInput (s : String) : (EngineId.parseUserInput s).Safe := by
  unfold parseUserInput
  simp only
  split
  · exact Outcome.safe_fail _
  · split
    · exact Outcome.safe_fail _
    · split
      · exact Outcome.safe_fail _
      · rename_i hodd
        refine (safe_nibblePairs _ ?_).bind fun bytes _ => ?_
        · exact length_of_mem_chunks 2 _ (by decide) _
            (by rw [Nat.div_mul_cancel]; exact Nat.dvd_of_mod_eq_zero (by omega))
        · split
          · exact Outcome.safe_fail _
          · split
            · exact Outcome.safe_fail _
            · exact Outcome.safe_ok _

theorem safe_resolve {ε : Type} (world : World) (user : Option EngineId)
    (src : Option Ipv4Addr) : (resolve world user src : Outcome ε EngineId).Safe := by
  unfold resolve
  split
  · exact Outcome.safe_ok _
  · split
    · exact Outcome.safe_ok _
    · split
      · exact Outcome.safe_ok _
      · obtain ⟨e, he, _⟩ := EngineId.fromPayload_eq (ε := ε) formatText
          (asBytes (world.hostName.getD "snmptrap-rs"))
        rw [EngineId.fromText, he]
        exact Outcome.safe_ok _

end SnmpTrap
