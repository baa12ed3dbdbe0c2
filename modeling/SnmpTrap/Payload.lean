import SnmpTrap.Cli
import SnmpTrap.V3

/-! From a command line to the octets to send (`lib.rs`). The v2c and the v3 builder handle their
positionals in code of their own; `assembleV2c` and `assembleV3` are the builders up to the call
that encodes. -/
namespace SnmpTrap
open Rust Ber
set_option autoImplicit false
set_option maxHeartbeats 250000
set_option maxRecDepth 120000

/-! ## Positional arguments -/

def parseUptimeOrDefault (world : World) (s : String) : Run UInt32 :=
  if s = "" then Outcome.mapErr .other (Outcome.ofExcept world.hostUptimeCentiseconds)
  else Outcome.mapErr (fun e => .usage s!"invalid uptime '{s}': {IntErrorKind.text e}")
    (Outcome.ofExcept (parseU32 s.toList))

/-- The texts that `parse_trailing_varbinds` puts around a `ParseError`. -/
def tripletError (oid : String) : ParseError → Error
  | .unknownLetter letter => .usage s!"unknown type letter '{letter}' after OID '{oid}'"
  | .badValue letter detail => .usage s!"bad value for type '{letter}' (OID '{oid}'): {detail}"

def parseTriplet (triplet : List String) : Run (List UInt32 × VarBindValue) := do
  let oidArg ← Outcome.index triplet 0
  let oid ← Outcome.mapErr .usage (parseOid oidArg)
  let letterArg ← Outcome.index triplet 1
  match letterArg.toList with
  | [] => usage s!"type letter for OID '{oidArg}' is empty"
  | [letter] => do
    let valueArg ← Outcome.index triplet 2
    let value ← Outcome.mapErr (tripletError oidArg) (parseTypedValue letter valueArg)
    .ok (oid, value)
  | _ :: _ :: _ =>
    usage s!"type letter for OID '{oidArg}' must be a single character, got '{letterArg}'"

def parseTrailingVarbinds (rest : List String) : Run (List (List UInt32 × VarBindValue)) :=
  if rest.length % 3 ≠ 0 then
    usage (s!"trailing var-binds must come in OID TYPE VALUE triplets; " ++
      s!"got {rest.length} extra args")
  else (chunks 3 rest).mapM parseTriplet

/-- The loop that keeps the two auto-prepended OIDs out of the trailing var-binds. -/
def refuseReserved : List (List UInt32 × VarBindValue) → Run Unit
  | [] => .ok ()
  | vb :: vbs =>
    if vb.1 = sysUptimeOid then
      usage ("sysUpTime.0 (1.3.6.1.2.1.1.3.0) is auto-prepended; do not pass it as a trailing " ++
        "varbind. Use the <UPTIME> positional (or '' to substitute host uptime).")
    else if vb.1 = snmpTrapOidOid then
      usage ("snmpTrapOID.0 (1.3.6.1.6.3.1.1.4.1.0) is auto-prepended; do not pass it as a " ++
        "trailing varbind. Use the <TRAP-OID> positional.")
    else refuseReserved vbs

structure Positionals where
  uptime : UInt32
  trapOid : List UInt32
  varbinds : List (List UInt32 × VarBindValue)
deriving DecidableEq

def v2cPositionals (world : World) (args : List String) : Run Positionals :=
  if args.length < 2 then
    usage "v2c trap requires at minimum: <UPTIME> <TRAP-OID> [OID TYPE VALUE]..."
  else do
    let arg₀ ← Outcome.index args 0
    let uptime ← parseUptimeOrDefault world arg₀
    let arg₁ ← Outcome.index args 1
    let trapOid ← Outcome.mapErr .usage (parseOid arg₁)
    let rest ← Outcome.sliceFrom args 2
    let varbinds ← parseTrailingVarbinds rest
    refuseReserved varbinds
    .ok ⟨uptime, trapOid, varbinds⟩

def v3Positionals (world : World) (args : List String) : Run Positionals :=
  if args.length < 2 then
    usage "v3 trap requires at minimum: <UPTIME> <TRAP-OID> [OID TYPE VALUE]..."
  else do
    let arg₀ ← Outcome.index args 0
    let uptime ← parseUptimeOrDefault world arg₀
    let arg₁ ← Outcome.index args 1
    let trapOid ← Outcome.mapErr .usage (parseOid arg₁)
    let rest ← Outcome.sliceFrom args 2
    let varbinds ← parseTrailingVarbinds rest
    refuseReserved varbinds
    .ok ⟨uptime, trapOid, varbinds⟩

/-! ## v2c -/

def assembleV2c (world : World) (cli : Cli) : Run V2cTrap := do
  let p ← v2cPositionals world cli.trapArgs
  V2cTrap.new (asBytes cli.community) world.freshRequestId p.uptime p.trapOid p.varbinds

def buildV2cPayload (r : Encoder) (world : World) (cli : Cli) : Run (List UInt8) := do
  let trap ← assembleV2c world cli
  buildV2cTrap r trap

/-! ## v3 -/

def authProto (cli : Cli) : Run AuthProtocol :=
  match cli.authProtocol with
  | some p => .ok p
  | none => usage "internal: -a auth protocol expected after validation"

def privProto (cli : Cli) : Run PrivProtocol :=
  match cli.privProtocol with
  | some p => .ok p
  | none => usage "internal: -x priv protocol expected after validation"

def deriveAuthKey (c : Crypto) (cli : Cli) (engineId : EngineId) (proto : AuthProtocol) :
    Run (List UInt8) := do
  let pw ← Outcome.expect "validated as required when -a is set" cli.authPassword
  passwordToKey c pw engineId proto

def buildV3Security (c : Crypto) (world : World) (cli : Cli) (level : SecurityLevel)
    (engineId : EngineId) : Run V3Security :=
  match level with
  | .noAuthNoPriv => .ok .noAuthNoPriv
  | .authNoPriv => do
    let proto ← authProto cli
    let authKey ← deriveAuthKey c cli engineId proto
    .ok (.authNoPriv proto authKey)
  | .authPriv => do
    let authProtoV ← authProto cli
    let authKey ← deriveAuthKey c cli engineId authProtoV
    let privProtoV ← privProto cli
    let pw ← Outcome.expect "validated as required for authPriv" cli.privPassword
    let privKey ← privKeyFromPassword c pw engineId authProtoV privProtoV
    .ok (.authPriv authProtoV authKey privProtoV privKey world.freshSalt)

def engineBootsPerInvocation : UInt32 := 1

/-- Capped at `i32::MAX`. -/
def processUptimeSeconds (world : World) : UInt32 :=
  UInt32.ofNat (min world.elapsedSeconds.toNat (2 ^ 31 - 1))

def userAuthoritative (cli : Cli) : Run (Option EngineId) :=
  match cli.authoritativeEngineId with
  | some s => do
    let eid ← Outcome.mapErr
      (fun e => .usage s!"--authoritative-engine-id (-E): {EngineIdParseError.text e}")
      (EngineId.parseUserInput s)
    .ok (some eid)
  | none => .ok none

/-- The parsed `-e`, else the authoritative engine ID. -/
def contextEngineIdOf (cli : Cli) (authoritativeEngineId : EngineId) : Run EngineId :=
  match cli.contextEngineId with
  | some s =>
    Outcome.mapErr (fun e => .usage s!"--context-engine-id (-e): {EngineIdParseError.text e}")
      (EngineId.parseUserInput s)
  | none => .ok authoritativeEngineId

def assembleV3 (c : Crypto) (world : World) (cli : Cli) : Run V3TrapMessage := do
  let p ← v3Positionals world cli.trapArgs
  let authEidUser ← userAuthoritative cli
  let authoritativeEngineId ← resolve world authEidUser cli.srcAddrV4
  let contextEngineId ← contextEngineIdOf cli authoritativeEngineId
  let level ← Outcome.expect
    "security_level defaulted to NoAuthNoPriv in cli::validate when -v 3" cli.securityLevel
  let security ← buildV3Security c world cli level authoritativeEngineId
  let trap ← V2cTrap.new [] world.freshRequestId p.uptime p.trapOid p.varbinds
  let userName ← Outcome.expect "validated as required for -v 3" cli.userName
  .ok { authoritativeEngineId := authoritativeEngineId
        contextEngineId := contextEngineId
        contextName := (cli.contextName.map asBytes).getD []
        userName := asBytes userName
        engineBoots := engineBootsPerInvocation
        engineTime := processUptimeSeconds world
        msgId := world.freshMsgId
        security := security
        trap := trap }

def buildV3Payload (r : Encoder) (c : Crypto) (world : World) (cli : Cli) :
    Run (List UInt8) := do
  let msg ← assembleV3 c world cli
  buildV3TrapMessage r c msg

/-! ## v1 -/

def resolveV1AgentAddr (world : World) (positional : String) (srcAddrFlag : Option Ipv4Addr)
    (dst : SocketAddrV4) : Run Ipv4Addr :=
  if positional ≠ "" then
    match parseIpv4Addr positional with
    | some ip => .ok ip
    | none => usage
      s!"v1 agent-addr positional must be a dotted-quad IPv4 (or empty), got '{positional}'"
  else
    match srcAddrFlag with
    | some src => .ok src
    | none => Outcome.mapErr .other (Outcome.ofExcept (world.egressIpv4For dst))

/-- The enterprise positional; an empty one stands for the default. -/
def v1Enterprise (arg : String) : Run (List UInt32) :=
  if arg = "" then .ok defaultV1EnterpriseOid else Outcome.mapErr .usage (parseOid arg)

def assembleV1 (world : World) (cli : Cli) (dst : SocketAddrV4) : Run V1Trap :=
  let args := cli.trapArgs
  if args.length < 5 then
    usage ("v1 trap requires: <ENTERPRISE-OID> <AGENT-ADDR> <GENERIC> <SPECIFIC> <UPTIME> " ++
      "[OID TYPE VALUE]...")
  else do
    let arg₀ ← Outcome.index args 0
    let enterprise ← v1Enterprise arg₀
    let arg₁ ← Outcome.index args 1
    let agentAddr ← resolveV1AgentAddr world arg₁ cli.srcAddrV4 dst
    let arg₂ ← Outcome.index args 2
    let generic ← Outcome.mapErr
      (fun e => .usage s!"invalid generic-trap '{arg₂}': {IntErrorKind.text e}")
      (Outcome.ofExcept (parseI32 arg₂.toList))
    if ¬ (0 ≤ generic ∧ generic ≤ 6) then
      usage s!"generic-trap must be 0..=6, got {generic.toInt}"
    else do
      let arg₃ ← Outcome.index args 3
      let specific ← Outcome.mapErr
        (fun e => .usage s!"invalid specific-trap '{arg₃}': {IntErrorKind.text e}")
        (Outcome.ofExcept (parseI32 arg₃.toList))
      if specific < 0 then
        usage s!"specific-trap must be non-negative (RFC 1157), got {specific.toInt}"
      else do
        let arg₄ ← Outcome.index args 4
        let uptime ← parseUptimeOrDefault world arg₄
        let rest ← Outcome.sliceFrom args 5
        let varbinds ← parseTrailingVarbinds rest
        V1Trap.new (asBytes cli.community) enterprise agentAddr generic specific uptime varbinds

def buildV1Payload (r : Encoder) (world : World) (cli : Cli) (dst : SocketAddrV4) :
    Run (List UInt8) := do
  let trap ← assembleV1 world cli dst
  buildV1Trap r trap

def buildPayload (r : Encoder) (c : Crypto) (world : World) (cli : Cli) (dst : SocketAddrV4) :
    Run (List UInt8) :=
  match cli.version with
  | .v1 => buildV1Payload r world cli dst
  | .v2c => buildV2cPayload r world cli
  | .v3 => buildV3Payload r c world cli

end SnmpTrap
