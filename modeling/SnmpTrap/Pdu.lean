import SnmpTrap.Error
import SnmpTrap.SnmpTypes
import SnmpTrap.Varbind

/-! SNMPv1 and SNMPv2c trap messages (`pdu.rs`). The two versions map values to SMI types in
tables of their own. Encoding itself is a parameter, `Ber.Encoder`. -/
namespace SnmpTrap
open Rust Ber
set_option autoImplicit false
set_option maxHeartbeats 250000
set_option maxRecDepth 120000

def sysUptimeOid : List UInt32 := [1, 3, 6, 1, 2, 1, 1, 3, 0]

def snmpTrapOidOid : List UInt32 := [1, 3, 6, 1, 6, 3, 1, 1, 4, 1, 0]

def defaultV1EnterpriseOid : List UInt32 := [1, 3, 6, 1, 4, 1, 3, 1, 1]

/-! ## Vectors in memory -/

/-- A `usize` counts the elements of a `Vec`. -/
def InVec {α : Type} (xs : List α) : Prop := xs.length < 2 ^ 64

instance {α : Type} (xs : List α) : Decidable (InVec xs) :=
  inferInstanceAs (Decidable (xs.length < 2 ^ 64))

def VarBindValue.InMemory : VarBindValue → Prop
  | .objectId arcs => InVec arcs
  | .octetString bytes => InVec bytes
  | .bits bytes => InVec bytes
  | _ => True

instance : DecidablePred VarBindValue.InMemory := fun v =>
  match v with
  | .objectId arcs => inferInstanceAs (Decidable (InVec arcs))
  | .octetString bytes => inferInstanceAs (Decidable (InVec bytes))
  | .bits bytes => inferInstanceAs (Decidable (InVec bytes))
  | .integer _ => isTrue trivial
  | .unsigned32 _ => isTrue trivial
  | .timeTicks _ => isTrue trivial
  | .ipAddress _ => isTrue trivial
  | .null => isTrue trivial
  | .counter64 _ => isTrue trivial

def BindingsInMemory (vbs : List (List UInt32 × VarBindValue)) : Prop :=
  InVec vbs ∧ ∀ vb ∈ vbs, InVec vb.1 ∧ vb.2.InMemory

instance : DecidablePred BindingsInMemory := fun vbs =>
  inferInstanceAs (Decidable (InVec vbs ∧ ∀ vb ∈ vbs, InVec vb.1 ∧ vb.2.InMemory))

/-! ## Traps -/

structure V2cTrap where
  community : List UInt8
  requestId : Int32
  uptimeCentiseconds : UInt32
  trapOid : List UInt32
  varbinds : List (List UInt32 × VarBindValue)
  inMemory : InVec community ∧ InVec trapOid ∧ BindingsInMemory varbinds

/-- The struct literal; a vector that cannot exist panics where it would be grown. -/
def V2cTrap.new (community : List UInt8) (requestId : Int32) (uptimeCentiseconds : UInt32)
    (trapOid : List UInt32) (varbinds : List (List UInt32 × VarBindValue)) : Run V2cTrap :=
  if h : InVec community ∧ InVec trapOid ∧ BindingsInMemory varbinds then
    .ok ⟨community, requestId, uptimeCentiseconds, trapOid, varbinds, h⟩
  else Outcome.panicked "capacity overflow"

structure V1Trap where
  community : List UInt8
  enterprise : List UInt32
  agentAddr : Ipv4Addr
  generic : Int32
  specific : Int32
  uptimeCentiseconds : UInt32
  varbinds : List (List UInt32 × VarBindValue)
  inMemory : InVec community ∧ InVec enterprise ∧ BindingsInMemory varbinds

def V1Trap.new (community : List UInt8) (enterprise : List UInt32) (agentAddr : Ipv4Addr)
    (generic specific : Int32) (uptimeCentiseconds : UInt32)
    (varbinds : List (List UInt32 × VarBindValue)) : Run V1Trap :=
  if h : InVec community ∧ InVec enterprise ∧ BindingsInMemory varbinds then
    .ok ⟨community, enterprise, agentAddr, generic, specific, uptimeCentiseconds, varbinds, h⟩
  else Outcome.panicked "capacity overflow"

/-! ## Var-binds -/

/-- `ObjectIdentifier::new_unchecked`: the arcs as they are. -/
def oidFromSlice (arcs : List UInt32) : List UInt32 := arcs

@[simp] theorem oidFromSlice_eq (arcs : List UInt32) : oidFromSlice arcs = arcs := rfl

/-- The match in `make_v2_varbind`. -/
def v2Value : VarBindValue → SnmpV2.BindingValue
  | .integer i => .value (.simple (.integer i.toInt))
  | .unsigned32 u => .value (.applicationWide (.unsigned ⟨u⟩))
  | .timeTicks t => .value (.applicationWide (.ticks ⟨t⟩))
  | .ipAddress ip => .value (.applicationWide (.address ⟨.ofIpv4 ip⟩))
  | .objectId arcs => .value (.simple (.objectId (oidFromSlice arcs)))
  | .octetString bytes => .value (.simple (.string bytes))
  | .null => .unspecified
  | .bits bytes => .value (.simple (.string bytes))
  | .counter64 n => .value (.applicationWide (.bigCounter ⟨n⟩))

def makeV2Varbind (oid : List UInt32) (v : VarBindValue) : Run SnmpV2.VarBind :=
  .ok ⟨oidFromSlice oid, v2Value v⟩

/-- The match in `make_v1_varbind`; the SMIv2 types return from it. -/
def v1Value : VarBindValue → Run SmiV1.ObjectSyntax
  | .integer i => .ok (.simple (.number i.toInt))
  | .unsigned32 u => .ok (.applicationWide (.gauge ⟨u⟩))
  | .timeTicks t => .ok (.applicationWide (.ticks ⟨t⟩))
  | .ipAddress ip => .ok (.applicationWide (.address (.internet ⟨.ofIpv4 ip⟩)))
  | .objectId arcs => .ok (.simple (.object (oidFromSlice arcs)))
  | .octetString bytes => .ok (.simple (.string bytes))
  | .null => .ok (.simple .empty)
  | .bits _ => Outcome.fail (.encode
      "BITS (type 'b') is SMIv2-only; not representable in SNMPv1, use -v 2c instead")
  | .counter64 _ => Outcome.fail (.encode
      "Counter64 (type 'U') is not representable in SNMPv1; use -v 2c instead")

def makeV1Varbind (oid : List UInt32) (v : VarBindValue) : Run SnmpV1.VarBind := do
  let value ← v1Value v
  .ok ⟨oidFromSlice oid, value⟩

/-! ## Messages -/

/-- `rasn::ber::encode` with its error as `Error::Encode`. -/
def encode (r : Encoder) (v : Value) : Run (List UInt8) :=
  Outcome.mapErr .encode (Outcome.ofExcept (r.encode v))

def v2cMessage (t : V2cTrap) : Run (CommunityMessage SnmpV2.Trap) := do
  let uptime ← makeV2Varbind sysUptimeOid (.timeTicks t.uptimeCentiseconds)
  let trapOid ← makeV2Varbind snmpTrapOidOid (.objectId t.trapOid)
  let rest ← t.varbinds.mapM fun vb => makeV2Varbind vb.1 vb.2
  let pdu : SnmpV2.Pdu :=
    { requestId := t.requestId
      errorStatus := SnmpV2.errorStatusNoError
      errorIndex := 0
      variableBindings := uptime :: trapOid :: rest }
  .ok { version := SnmpV2c.version, community := t.community, data := ⟨pdu⟩ }

def buildV2cTrap (r : Encoder) (t : V2cTrap) : Run (List UInt8) := do
  let message ← v2cMessage t
  encode r (message.toValue SnmpV2.Trap.toValue)

def v1Message (t : V1Trap) : Run (CommunityMessage SnmpV1.Trap) := do
  let bindings ← t.varbinds.mapM fun vb => makeV1Varbind vb.1 vb.2
  let trap : SnmpV1.Trap :=
    { enterprise := oidFromSlice t.enterprise
      agentAddr := .internet ⟨.ofIpv4 t.agentAddr⟩
      genericTrap := t.generic.toInt
      specificTrap := t.specific.toInt
      timeStamp := ⟨t.uptimeCentiseconds⟩
      variableBindings := bindings }
  .ok { version := SnmpV1.version1, community := t.community, data := trap }

def buildV1Trap (r : Encoder) (t : V1Trap) : Run (List UInt8) := do
  let message ← v1Message t
  encode r (message.toValue SnmpV1.Trap.toValue)

/-! ## What the builders do -/

theorem encode_ok_iff {r : Encoder} {v : Value} {w : List UInt8} :
    encode r v = .ok w ↔ r.encode v = .ok w := by
  rw [encode, Outcome.mapErr_ok_iff, Outcome.ofExcept_ok_iff]

theorem safe_encode (r : Encoder) (v : Value) : (encode r v).Safe :=
  (Outcome.safe_ofExcept _).mapErr _

def v2Varbind (vb : List UInt32 × VarBindValue) : SnmpV2.VarBind := ⟨vb.1, v2Value vb.2⟩

theorem mapM_makeV2Varbind (vbs : List (List UInt32 × VarBindValue)) :
    (vbs.mapM fun vb => makeV2Varbind vb.1 vb.2) = .ok (vbs.map v2Varbind) :=
  Outcome.mapM_ok v2Varbind vbs

def V2cTrap.bindings (t : V2cTrap) : List (List UInt32 × VarBindValue) :=
  (sysUptimeOid, .timeTicks t.uptimeCentiseconds) :: (snmpTrapOidOid, .objectId t.trapOid) ::
    t.varbinds

/-- The trap PDU of v2c and v3 alike. -/
def V2cTrap.pdu (t : V2cTrap) : SnmpV2.Trap :=
  ⟨{ requestId := t.requestId, errorStatus := 0, errorIndex := 0,
     variableBindings := t.bindings.map v2Varbind }⟩

theorem v2cMessage_eq (t : V2cTrap) :
    v2cMessage t = .ok { version := 1, community := t.community, data := t.pdu } := by
  rw [v2cMessage, makeV2Varbind, makeV2Varbind, Outcome.ok_bind, Outcome.ok_bind,
    mapM_makeV2Varbind, Outcome.ok_bind]
  rfl

theorem safe_makeV1Varbind (oid : List UInt32) (v : VarBindValue) :
    (makeV1Varbind oid v).Safe := by
  unfold makeV1Varbind
  refine Outcome.Safe.bind ?_ fun value _ => Outcome.safe_ok _
  cases v <;> first | exact Outcome.safe_ok _ | exact Outcome.safe_fail _

end SnmpTrap
