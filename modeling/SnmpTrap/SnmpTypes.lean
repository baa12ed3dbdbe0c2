import SnmpTrap.Ber.Encoder
import SnmpTrap.Rust.Net

/-! The ASN.1 types the code fills in, as the SMI and SNMP crates declare them: RFC 1155 and
1157 (`SmiV1`, `SnmpV1`), RFC 2578 and 3416 (`SmiV2`, `SnmpV2`, `SnmpV2c`), RFC 3412 and 3414
(`SnmpV3`). `toValue` gives each its tags; only arms that the code builds are here. -/
namespace SnmpTrap
open Rust Ber
set_option autoImplicit false
set_option maxHeartbeats 250000
set_option maxRecDepth 120000

/-- `rasn::types::FixedOctetString<4>`. -/
structure FixedOctets4 where
  octets : List UInt8
  length_eq : octets.length = 4
deriving DecidableEq

def FixedOctets4.ofIpv4 (ip : Ipv4Addr) : FixedOctets4 := ⟨ip.octets, ip.octets_length⟩

/-! ## RFC 1155, RFC 1157 -/

namespace SmiV1

def ipAddressTag : Tag := ⟨.application, 0⟩
def gaugeTag : Tag := ⟨.application, 2⟩
def timeTicksTag : Tag := ⟨.application, 3⟩

structure IpAddress where
  octets : FixedOctets4

structure Gauge where
  value : UInt32

structure TimeTicks where
  value : UInt32

inductive NetworkAddress
  | internet (address : IpAddress)

inductive SimpleSyntax
  | number (i : ℤ)
  | string (bytes : List UInt8)
  | object (arcs : List UInt32)
  | empty

inductive ApplicationSyntax
  | address (a : NetworkAddress)
  | gauge (g : Gauge)
  | ticks (t : TimeTicks)

inductive ObjectSyntax
  | simple (s : SimpleSyntax)
  | applicationWide (a : ApplicationSyntax)

def IpAddress.toValue (a : IpAddress) : Value := .octetString ipAddressTag a.octets.octets
def Gauge.toValue (g : Gauge) : Value := .integer gaugeTag g.value.toNat
def TimeTicks.toValue (t : TimeTicks) : Value := .integer timeTicksTag t.value.toNat

def NetworkAddress.toValue : NetworkAddress → Value
  | .internet address => address.toValue

def SimpleSyntax.toValue : SimpleSyntax → Value
  | .number i => .integer .integer i
  | .string bytes => .octetString .octetString bytes
  | .object arcs => .objectIdentifier .objectIdentifier arcs
  | .empty => .null .null

def ApplicationSyntax.toValue : ApplicationSyntax → Value
  | .address a => a.toValue
  | .gauge g => g.toValue
  | .ticks t => t.toValue

def ObjectSyntax.toValue : ObjectSyntax → Value
  | .simple s => s.toValue
  | .applicationWide a => a.toValue

end SmiV1

namespace SnmpV1

structure VarBind where
  name : List UInt32
  value : SmiV1.ObjectSyntax

structure Trap where
  enterprise : List UInt32
  agentAddr : SmiV1.NetworkAddress
  genericTrap : ℤ
  specificTrap : ℤ
  timeStamp : SmiV1.TimeTicks
  variableBindings : List VarBind

def trapTag : Tag := ⟨.context, 4⟩

def version1 : ℤ := 0

def VarBind.toValue (vb : VarBind) : Value :=
  .sequence .sequence [.objectIdentifier .objectIdentifier vb.name, vb.value.toValue]

def Trap.toValue (t : Trap) : Value :=
  .sequence trapTag
    [.objectIdentifier .objectIdentifier t.enterprise, t.agentAddr.toValue,
      .integer .integer t.genericTrap, .integer .integer t.specificTrap, t.timeStamp.toValue,
      .sequence .sequence (t.variableBindings.map VarBind.toValue)]

end SnmpV1

/-! ## RFC 2578, RFC 3416 -/

namespace SmiV2

def counter64Tag : Tag := ⟨.application, 6⟩

structure Counter64 where
  value : UInt64

inductive SimpleSyntax
  | integer (i : ℤ)
  | string (bytes : List UInt8)
  | objectId (arcs : List UInt32)

inductive ApplicationSyntax
  | address (a : SmiV1.IpAddress)
  | unsigned (g : SmiV1.Gauge)
  | ticks (t : SmiV1.TimeTicks)
  | bigCounter (c : Counter64)

inductive ObjectSyntax
  | simple (s : SimpleSyntax)
  | applicationWide (a : ApplicationSyntax)

def Counter64.toValue (c : Counter64) : Value := .integer counter64Tag c.value.toNat

def SimpleSyntax.toValue : SimpleSyntax → Value
  | .integer i => .integer .integer i
  | .string bytes => .octetString .octetString bytes
  | .objectId arcs => .objectIdentifier .objectIdentifier arcs

def ApplicationSyntax.toValue : ApplicationSyntax → Value
  | .address a => a.toValue
  | .unsigned g => g.toValue
  | .ticks t => t.toValue
  | .bigCounter c => c.toValue

def ObjectSyntax.toValue : ObjectSyntax → Value
  | .simple s => s.toValue
  | .applicationWide a => a.toValue

end SmiV2

namespace SnmpV2

inductive BindingValue
  | unspecified
  | value (v : SmiV2.ObjectSyntax)

structure VarBind where
  name : List UInt32
  value : BindingValue

structure Pdu where
  requestId : Int32
  errorStatus : UInt32
  errorIndex : UInt32
  variableBindings : List VarBind

def errorStatusNoError : UInt32 := 0

structure Trap where
  pdu : Pdu

inductive Pdus
  | trap (t : Trap)

def trapTag : Tag := ⟨.context, 7⟩

def BindingValue.toValue : BindingValue → Value
  | .unspecified => .null .null
  | .value v => v.toValue

def VarBind.toValue (vb : VarBind) : Value :=
  .sequence .sequence [.objectIdentifier .objectIdentifier vb.name, vb.value.toValue]

def Trap.toValue (t : Trap) : Value :=
  .sequence trapTag
    [.integer .integer t.pdu.requestId.toInt, .integer .integer t.pdu.errorStatus.toNat,
      .integer .integer t.pdu.errorIndex.toNat,
      .sequence .sequence (t.pdu.variableBindings.map VarBind.toValue)]

def Pdus.toValue : Pdus → Value
  | .trap t => t.toValue

end SnmpV2

/-- `snmp_v1::Message` and `snmp_v2c::Message`. -/
structure CommunityMessage (α : Type) where
  version : ℤ
  community : List UInt8
  data : α

def CommunityMessage.toValue {α : Type} (data : α → Value) (m : CommunityMessage α) : Value :=
  .sequence .sequence
    [.integer .integer m.version, .octetString .octetString m.community, data m.data]

def SnmpV2c.version : ℤ := 1

/-! ## RFC 3412, RFC 3414 -/

namespace SnmpV3

structure HeaderData where
  messageId : ℤ
  maxSize : ℤ
  flags : List UInt8
  securityModel : ℤ

structure ScopedPdu where
  engineId : List UInt8
  name : List UInt8
  data : SnmpV2.Pdus

inductive ScopedPduData
  | cleartextPdu (pdu : ScopedPdu)
  | encryptedPdu (bytes : List UInt8)

structure Message where
  version : ℤ
  globalData : HeaderData
  securityParameters : List UInt8
  scopedData : ScopedPduData

structure USMSecurityParameters where
  authoritativeEngineId : List UInt8
  authoritativeEngineBoots : ℤ
  authoritativeEngineTime : ℤ
  userName : List UInt8
  authenticationParameters : List UInt8
  privacyParameters : List UInt8

def HeaderData.toValue (h : HeaderData) : Value :=
  .sequence .sequence
    [.integer .integer h.messageId, .integer .integer h.maxSize,
      .octetString .octetString h.flags, .integer .integer h.securityModel]

def ScopedPdu.toValue (p : ScopedPdu) : Value :=
  .sequence .sequence
    [.octetString .octetString p.engineId, .octetString .octetString p.name, p.data.toValue]

def ScopedPduData.toValue : ScopedPduData → Value
  | .cleartextPdu pdu => pdu.toValue
  | .encryptedPdu bytes => .octetString .octetString bytes

def Message.toValue (m : Message) : Value :=
  .sequence .sequence
    [.integer .integer m.version, m.globalData.toValue,
      .octetString .octetString m.securityParameters, m.scopedData.toValue]

def USMSecurityParameters.toValue (p : USMSecurityParameters) : Value :=
  .sequence .sequence
    [.octetString .octetString p.authoritativeEngineId,
      .integer .integer p.authoritativeEngineBoots, .integer .integer p.authoritativeEngineTime,
      .octetString .octetString p.userName, .octetString .octetString p.authenticationParameters,
      .octetString .octetString p.privacyParameters]

end SnmpV3
end SnmpTrap
