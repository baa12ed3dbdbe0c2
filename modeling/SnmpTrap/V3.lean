import SnmpTrap.Pdu
import SnmpTrap.Usm

/-! The SNMPv3 message (`v3.rs`): scoped PDU, encryption, USM parameters with a placeholder for
the tag, and the second encoding with the tag in its place. -/
namespace SnmpTrap
open Rust Numeral Ber
set_option autoImplicit false
set_option maxHeartbeats 250000
set_option maxRecDepth 120000

def securityModelUsm : UInt32 := 3
def msgVersionV3 : UInt32 := 3
def msgMaxSize : UInt32 := 65507

def flagAuth : UInt8 := 0b001
def flagPriv : UInt8 := 0b010

inductive V3Security where
  | noAuthNoPriv
  | authNoPriv (proto : AuthProtocol) (authKey : List UInt8)
  | authPriv (authProto : AuthProtocol) (authKey : List UInt8) (privProto : PrivProtocol)
      (privKey : List UInt8) (salt : UInt64)

structure V3TrapMessage where
  authoritativeEngineId : EngineId
  contextEngineId : EngineId
  contextName : List UInt8
  userName : List UInt8
  engineBoots : UInt32
  engineTime : UInt32
  msgId : Int32
  security : V3Security
  /-- Its `community` is not used. -/
  trap : V2cTrap

/-- The reportable bit stays clear. -/
def V3Security.flagByte : V3Security → UInt8
  | .noAuthNoPriv => 0
  | .authNoPriv _ _ => flagAuth
  | .authPriv _ _ _ _ _ => flagAuth ||| flagPriv

def V3Security.auth : V3Security → Option (AuthProtocol × List UInt8)
  | .noAuthNoPriv => none
  | .authNoPriv proto authKey => some (proto, authKey)
  | .authPriv authProto authKey _ _ _ => some (authProto, authKey)

def V3Security.authParamLen : V3Security → ℕ
  | .noAuthNoPriv => 0
  | .authNoPriv proto _ => proto.authParamLen
  | .authPriv authProto _ _ _ _ => authProto.authParamLen

def buildScopedPdu (m : V3TrapMessage) : Run SnmpV3.ScopedPdu := do
  let uptime ← makeV2Varbind sysUptimeOid (.timeTicks m.trap.uptimeCentiseconds)
  let trapOid ← makeV2Varbind snmpTrapOidOid (.objectId m.trap.trapOid)
  let rest ← m.trap.varbinds.mapM fun vb => makeV2Varbind vb.1 vb.2
  let pdu : SnmpV2.Pdu :=
    { requestId := m.trap.requestId
      errorStatus := SnmpV2.errorStatusNoError
      errorIndex := 0
      variableBindings := uptime :: trapOid :: rest }
  .ok { engineId := m.contextEngineId.bytes, name := m.contextName, data := .trap ⟨pdu⟩ }

def buildUsmParams (m : V3TrapMessage) (authParams privParams : List UInt8) :
    SnmpV3.USMSecurityParameters :=
  { authoritativeEngineId := m.authoritativeEngineId.bytes
    authoritativeEngineBoots := m.engineBoots.toNat
    authoritativeEngineTime := m.engineTime.toNat
    userName := m.userName
    authenticationParameters := authParams
    privacyParameters := privParams }

/-- `header`, shared by both encodings. -/
def headerData (m : V3TrapMessage) : SnmpV3.HeaderData :=
  { messageId := m.msgId.toInt
    maxSize := msgMaxSize.toNat
    flags := [m.security.flagByte]
    securityModel := securityModelUsm.toNat }

/-- The state of `build_v3_trap_message` when it comes to sign. -/
structure Placeholder where
  scopedData : SnmpV3.ScopedPduData
  privParamsBytes : List UInt8
  bytes : List UInt8

/-- The scoped data and the privacy parameters: encrypted with the salt under privacy. -/
def protectScopedPdu (r : Encoder) (c : Crypto) (m : V3TrapMessage) (scopedPdu : SnmpV3.ScopedPdu) :
    Run (SnmpV3.ScopedPduData × List UInt8) :=
  match m.security with
  | .authPriv _ _ privProto privKey salt => do
    let plaintext ← encode r scopedPdu.toValue
    let ct ← privEncrypt c plaintext privKey m.engineBoots m.engineTime salt privProto
    .ok (.encryptedPdu ct, fixedOctets 8 salt.toNat)
  | _ => .ok (.cleartextPdu scopedPdu, [])

/-- `build_v3_trap_message` up to `bytes_with_placeholder`. -/
def encodePlaceholder (r : Encoder) (c : Crypto) (m : V3TrapMessage) : Run Placeholder := do
  let scopedPdu ← buildScopedPdu m
  let (scopedData, privParamsBytes) ← protectScopedPdu r c m scopedPdu
  let usmParamsPlaceholder :=
    buildUsmParams m (List.replicate m.security.authParamLen 0) privParamsBytes
  let securityParamsBytes ← encode r usmParamsPlaceholder.toValue
  let messagePlaceholder : SnmpV3.Message :=
    { version := msgVersionV3.toNat
      globalData := headerData m
      securityParameters := securityParamsBytes
      scopedData := scopedData }
  let bytesWithPlaceholder ← encode r messagePlaceholder.toValue
  .ok ⟨scopedData, privParamsBytes, bytesWithPlaceholder⟩

/-- The last assertion is a `debug_assert_eq!`, taken here as always on. -/
def buildV3TrapMessage (r : Encoder) (c : Crypto) (m : V3TrapMessage) : Run (List UInt8) := do
  let p ← encodePlaceholder r c m
  match m.security.auth with
  | none => .ok p.bytes
  | some (proto, key) => do
    let tag ← authSign c p.bytes key proto
    Outcome.assert (tag.length = m.security.authParamLen)
      "auth_sign tag length must match the placeholder length"
    let usmParamsSigned := buildUsmParams m tag p.privParamsBytes
    let securityParamsSigned ← encode r usmParamsSigned.toValue
    let messageSigned : SnmpV3.Message :=
      { version := msgVersionV3.toNat
        globalData := headerData m
        securityParameters := securityParamsSigned
        scopedData := p.scopedData }
    let bytesSigned ← encode r messageSigned.toValue
    Outcome.assert (bytesSigned.length = p.bytes.length)
      "BER re-encoding with same-length authParams must preserve message length"
    .ok bytesSigned

end SnmpTrap
