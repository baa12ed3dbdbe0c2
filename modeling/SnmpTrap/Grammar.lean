import SnmpTrap.Ber.Reader
import SnmpTrap.Rust.Net

/-! What a receiver reads: the grammars of RFC 1155 and 1157 (v1), RFC 2578 and 3416 (v2c and
the trap inside v3), RFC 3412 and 3414 (v3) as readers of BER trees. They accept well-formed
octets only, and `decode` leaves none over. Header integers that an RFC bounds by `2 ^ 31 - 1`
are taken up to the code's own widths. -/
namespace SnmpTrap.Grammar
open Rust Ber
set_option autoImplicit false
set_option maxHeartbeats 250000
set_option maxRecDepth 120000

/-! ## Values -/

/-- RFC 2578 and 3416. -/
inductive Smi where
  | integer32 (i : Int32)
  | octetString (bytes : List UInt8)
  | objectId (arcs : List UInt32)
  | ipAddress (ip : Ipv4Addr)
  | counter32 (n : UInt32)
  | unsigned32 (n : UInt32)
  | timeTicks (n : UInt32)
  | arbitrary (bytes : List UInt8)
  | counter64 (n : UInt64)
  | unspecified
  | noSuchObject
  | noSuchInstance
  | endOfMibView
deriving DecidableEq

/-- RFC 1155. -/
inductive SmiV1 where
  | number (v : ℤ)
  | string (bytes : List UInt8)
  | object (arcs : List UInt32)
  | empty
  | address (ip : Ipv4Addr)
  | counter (n : UInt32)
  | gauge (n : UInt32)
  | ticks (n : UInt32)
  | arbitrary (bytes : List UInt8)
deriving DecidableEq

def readUInt32 (contents : List UInt8) : Option UInt32 := (readInteger contents).bind toUInt32

def readAddress : List UInt8 → Option Ipv4Addr
  | [a, b, c, d] => some ⟨a, b, c, d⟩
  | _ => none

/-- No contents at all. -/
def readEmpty {α : Type} (value : α) : List UInt8 → Option α
  | [] => some value
  | _ :: _ => none

def readSmi : Tlv → Option Smi
  | .constructed _ _ => none
  | .primitive tag contents =>
    match tag.cls, tag.number.val with
    | .universal, 2 => ((readInteger contents).bind toInt32).map .integer32
    | .universal, 4 => some (.octetString contents)
    | .universal, 5 => readEmpty .unspecified contents
    | .universal, 6 => (readOid contents).map .objectId
    | .application, 0 => (readAddress contents).map .ipAddress
    | .application, 1 => (readUInt32 contents).map .counter32
    | .application, 2 => (readUInt32 contents).map .unsigned32
    | .application, 3 => (readUInt32 contents).map .timeTicks
    | .application, 4 => some (.arbitrary contents)
    | .application, 6 => ((readInteger contents).bind toUInt64).map .counter64
    | .context, 0 => readEmpty .noSuchObject contents
    | .context, 1 => readEmpty .noSuchInstance contents
    | .context, 2 => readEmpty .endOfMibView contents
    | _, _ => none

def readSmiV1 : Tlv → Option SmiV1
  | .constructed _ _ => none
  | .primitive tag contents =>
    match tag.cls, tag.number.val with
    | .universal, 2 => (readInteger contents).map .number
    | .universal, 4 => some (.string contents)
    | .universal, 5 => readEmpty .empty contents
    | .universal, 6 => (readOid contents).map .object
    | .application, 0 => (readAddress contents).map .address
    | .application, 1 => (readUInt32 contents).map .counter
    | .application, 2 => (readUInt32 contents).map .gauge
    | .application, 3 => (readUInt32 contents).map .ticks
    | .application, 4 => some (.arbitrary contents)
    | _, _ => none

/-! ## Variable bindings -/

def readBinding {α : Type} (value : Tlv → Option α) (t : Tlv) : Option (List UInt32 × α) :=
  match t.items? .sequence with
  | some [name, v] => do
    let oid ← name.oid? .objectIdentifier
    let a ← value v
    some (oid, a)
  | _ => none

def readBindings {α : Type} (value : Tlv → Option α) (t : Tlv) :
    Option (List (List UInt32 × α)) := do
  let items ← t.items? .sequence
  items.mapM (readBinding value)

/-! ## Trap PDUs and community messages -/

/-- `SNMPv2-Trap-PDU`. -/
structure TrapPdu where
  requestId : Int32
  errorStatus : ℤ
  errorIndex : ℤ
  bindings : List (List UInt32 × Smi)
deriving DecidableEq

def readTrapPdu (t : Tlv) : Option TrapPdu :=
  match t.items? ⟨.context, 7⟩ with
  | some [requestId, errorStatus, errorIndex, bindings] => do
    let id ← requestId.int32? .integer
    let status ← errorStatus.integer? .integer
    let index ← errorIndex.integer? .integer
    let vbs ← readBindings readSmi bindings
    some ⟨id, status, index, vbs⟩
  | _ => none

/-- `Trap-PDU` of RFC 1157. -/
structure TrapPduV1 where
  enterprise : List UInt32
  agentAddr : Ipv4Addr
  genericTrap : Int32
  specificTrap : Int32
  timeStamp : UInt32
  bindings : List (List UInt32 × SmiV1)
deriving DecidableEq

def readTrapPduV1 (t : Tlv) : Option TrapPduV1 :=
  match t.items? ⟨.context, 4⟩ with
  | some [enterprise, agentAddr, generic, specific, timeStamp, bindings] => do
    let oid ← enterprise.oid? .objectIdentifier
    let addr ← (agentAddr.contents? ⟨.application, 0⟩).bind readAddress
    let g ← generic.int32? .integer
    let s ← specific.int32? .integer
    let ticks ← timeStamp.uint32? ⟨.application, 3⟩
    let vbs ← readBindings readSmiV1 bindings
    some ⟨oid, addr, g, s, ticks, vbs⟩
  | _ => none

structure CommunityMessage (α : Type) where
  version : ℤ
  community : List UInt8
  data : α
deriving DecidableEq

def readCommunityMessage {α : Type} (data : Tlv → Option α) (bs : List UInt8) :
    Option (CommunityMessage α) := do
  let t ← decode bs
  match t.items? .sequence with
  | some [version, community, pdu] => do
    let v ← version.integer? .integer
    let c ← community.contents? .octetString
    let d ← data pdu
    some ⟨v, c, d⟩
  | _ => none

/-! ## v3 -/

/-- `UsmSecurityParameters`. -/
structure Usm where
  engineId : List UInt8
  engineBoots : UInt32
  engineTime : UInt32
  userName : List UInt8
  authParams : List UInt8
  privParams : List UInt8
deriving DecidableEq

def readUsm (bs : List UInt8) : Option Usm := do
  let t ← decode bs
  match t.items? .sequence with
  | some [engineId, boots, time, userName, authParams, privParams] => do
    let eid ← engineId.contents? .octetString
    let b ← boots.uint32? .integer
    let s ← time.uint32? .integer
    let user ← userName.contents? .octetString
    let auth ← authParams.contents? .octetString
    let priv ← privParams.contents? .octetString
    some ⟨eid, b, s, user, auth, priv⟩
  | _ => none

inductive ScopedData where
  | cleartext (pdu : Tlv)
  | encrypted (bytes : List UInt8)

/-- `ScopedPduData`: a SEQUENCE in clear or an OCTET STRING. -/
def readScopedData (t : Tlv) : Option ScopedData :=
  match t.contents? .octetString with
  | some bytes => some (.encrypted bytes)
  | none => (t.items? .sequence).map fun _ => .cleartext t

/-- `SNMPv3Message`. -/
structure V3Message where
  version : ℤ
  msgId : Int32
  maxSize : ℤ
  flags : List UInt8
  securityModel : ℤ
  usm : Usm
  data : ScopedData

def readV3Message (bs : List UInt8) : Option V3Message := do
  let t ← decode bs
  match t.items? .sequence with
  | some [version, globalData, securityParameters, scopedData] =>
    match globalData.items? .sequence with
    | some [msgId, maxSize, flags, securityModel] => do
      let v ← version.integer? .integer
      let id ← msgId.int32? .integer
      let size ← maxSize.integer? .integer
      let f ← flags.contents? .octetString
      let model ← securityModel.integer? .integer
      let usm ← (securityParameters.contents? .octetString).bind readUsm
      let data ← readScopedData scopedData
      some ⟨v, id, size, f, model, usm, data⟩
    | _ => none
  | _ => none

structure ScopedPdu where
  contextEngineId : List UInt8
  contextName : List UInt8
  pdu : TrapPdu
deriving DecidableEq

def readScopedPdu (t : Tlv) : Option ScopedPdu :=
  match t.items? .sequence with
  | some [engineId, name, data] => do
    let eid ← engineId.contents? .octetString
    let n ← name.contents? .octetString
    let pdu ← readTrapPdu data
    some ⟨eid, n, pdu⟩
  | _ => none

/-! ## Reading lists -/

theorem mapM_map_some {α β γ : Type} {f : α → β} {g : β → Option γ} {h : α → γ} (xs : List α)
    (hfg : ∀ x ∈ xs, g (f x) = some (h x)) : (xs.map f).mapM g = some (xs.map h) := by
  induction xs with
  | nil => rfl
  | cons x xs ih =>
    rw [List.map_cons, List.mapM_cons, hfg x (by simp), ih fun y hy => hfg y (by simp [hy])]
    rfl

theorem readBindings_tlv {α ι : Type} {value : Tlv → Option α} (xs : List ι)
    (name : ι → List UInt32) (toValue : ι → Value) (result : ι → α)
    (hname : ∀ x ∈ xs, Representable (name x))
    (hvalue : ∀ x ∈ xs, value ((toValue x).tlv oidOctets) = some (result x)) :
    readBindings value ((Value.sequence .sequence (xs.map fun x => Value.sequence .sequence
      [.objectIdentifier .objectIdentifier (name x), toValue x])).tlv oidOctets) =
      some (xs.map fun x => (name x, result x)) := by
  rw [readBindings, items?_tlv]
  simp only [Option.bind_eq_bind, Option.bind_some, List.map_map]
  apply mapM_map_some
  intro x hx
  rw [Function.comp_apply, readBinding, items?_tlv]
  simp only [List.map_cons, List.map_nil, oid?_tlv _ _ (hname x hx), hvalue x hx,
    Option.bind_eq_bind, Option.bind_some]

end SnmpTrap.Grammar
