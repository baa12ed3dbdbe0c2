import SnmpTrap.Positional
import SnmpTrap.V3Trip

/-! What the v2c and v3 builders hand to the encoder, in terms of their arguments. -/
namespace SnmpTrap
open Rust Ber
set_option autoImplicit false
set_option maxHeartbeats 250000
set_option maxRecDepth 120000

/-! ## Positionals -/

theorem v2cPositionals_short (world : World) {args : List String} (h : args.length < 2) :
    v2cPositionals world args =
      usage "v2c trap requires at minimum: <UPTIME> <TRAP-OID> [OID TYPE VALUE]..." := if_pos h

theorem v3Positionals_short (world : World) {args : List String} (h : args.length < 2) :
    v3Positionals world args =
      usage "v3 trap requires at minimum: <UPTIME> <TRAP-OID> [OID TYPE VALUE]..." := if_pos h

theorem v2cPositionals_ok {world : World} {args : List String} {p : Positionals}
    (h : v2cPositionals world args = .ok p) :
    ∃ uptimeArg trapOidArg rest, args = uptimeArg :: trapOidArg :: rest ∧
      positionals world uptimeArg trapOidArg rest = .ok p := by
  obtain hlen | ⟨uptimeArg, trapOidArg, rest, rfl⟩ := length_lt_two_or_cons args
  · rw [v2cPositionals_short world hlen] at h
    exact absurd h (Outcome.fail_ne_ok _ _)
  · rw [v2cPositionals_cons] at h
    exact ⟨uptimeArg, trapOidArg, rest, rfl, h⟩

theorem v3Positionals_ok {world : World} {args : List String} {p : Positionals}
    (h : v3Positionals world args = .ok p) :
    ∃ uptimeArg trapOidArg rest, args = uptimeArg :: trapOidArg :: rest ∧
      positionals world uptimeArg trapOidArg rest = .ok p := by
  obtain hlen | ⟨uptimeArg, trapOidArg, rest, rfl⟩ := length_lt_two_or_cons args
  · rw [v3Positionals_short world hlen] at h
    exact absurd h (Outcome.fail_ne_ok _ _)
  · rw [v3Positionals_cons] at h
    exact ⟨uptimeArg, trapOidArg, rest, rfl, h⟩

/-! ## Traps -/

/-- The trap is that of the positionals, under the invocation's request ID. -/
structure V2cTrap.MadeOf (t : V2cTrap) (world : World) (p : Positionals) : Prop where
  requestId : t.requestId = world.freshRequestId
  uptime : t.uptimeCentiseconds = p.uptime
  trapOid : t.trapOid = p.trapOid
  varbinds : t.varbinds = p.varbinds

theorem V2cTrap.new_ok {world : World} {p : Positionals} {community : List UInt8} {t : V2cTrap}
    (h : V2cTrap.new community world.freshRequestId p.uptime p.trapOid p.varbinds = .ok t) :
    t.community = community ∧ t.MadeOf world p := by
  unfold V2cTrap.new at h
  split at h
  · cases h
    exact ⟨rfl, rfl, rfl, rfl, rfl⟩
  · cases h

theorem V2cTrap.MadeOf.pdu_eq {t t' : V2cTrap} {world world' : World} {p : Positionals}
    (h : t.MadeOf world p) (h' : t'.MadeOf world' p)
    (hworld : world'.freshRequestId = world.freshRequestId) : t'.pdu = t.pdu := by
  rw [V2cTrap.pdu, V2cTrap.pdu, V2cTrap.bindings, V2cTrap.bindings, h.requestId, h'.requestId,
    h.uptime, h'.uptime, h.trapOid, h'.trapOid, h.varbinds, h'.varbinds, hworld]

theorem assembleV2c_ok {world : World} {cli : Cli} {t : V2cTrap}
    (h : assembleV2c world cli = .ok t) :
    ∃ p, v2cPositionals world cli.trapArgs = .ok p ∧ t.community = asBytes cli.community ∧
      t.MadeOf world p := by
  obtain ⟨p, hp, h⟩ := Outcome.bind_ok_iff.mp h
  exact ⟨p, hp, V2cTrap.new_ok h⟩

/-! ## Security -/

section Lawful
variable {c : Crypto} (hc : c.Lawful) (world : World) {cli : Cli} (engineId : EngineId)
include hc

theorem deriveAuthKey_eq {password : String} (proto : AuthProtocol)
    (h : cli.authPassword = some password) (hlen : minUsmPasswordLen ≤ (asBytes password).length) :
    deriveAuthKey c cli engineId proto = .ok (localizedKey c password engineId proto) := by
  rw [deriveAuthKey, h, Outcome.expect, Outcome.ok_bind]
  exact passwordToKey_eq hc.streaming password engineId proto hlen

theorem buildV3Security_authNoPriv {proto : AuthProtocol} {password : String}
    (hproto : cli.authProtocol = some proto) (h : cli.authPassword = some password)
    (hlen : minUsmPasswordLen ≤ (asBytes password).length) :
    buildV3Security c world cli .authNoPriv engineId =
      .ok (.authNoPriv proto (localizedKey c password engineId proto)) := by
  simp only [buildV3Security, authProto, hproto, Outcome.ok_bind,
    deriveAuthKey_eq hc engineId proto h hlen]

section AuthPriv
variable {proto : AuthProtocol} {priv : PrivProtocol} {password privPassword : String}
  (hproto : cli.authProtocol = some proto) (h : cli.authPassword = some password)
  (hlen : minUsmPasswordLen ≤ (asBytes password).length)
  (hpriv : cli.privProtocol = some priv) (h' : cli.privPassword = some privPassword)
  (hlen' : minUsmPasswordLen ≤ (asBytes privPassword).length)
include hproto h hlen hpriv h' hlen'

theorem buildV3Security_authPriv (hfits : priv.keyLen ≤ proto.digestLen) :
    buildV3Security c world cli .authPriv engineId =
      .ok (.authPriv proto (localizedKey c password engineId proto) priv
        ((localizedKey c privPassword engineId proto).take priv.keyLen) world.freshSalt) := by
  simp only [buildV3Security, authProto, privProto, hproto, hpriv, h', Outcome.expect,
    Outcome.ok_bind, deriveAuthKey_eq hc engineId proto h hlen,
    privKeyFromPassword_eq hc privPassword engineId proto priv hlen' hfits]

theorem buildV3Security_short (hshort : proto.digestLen < priv.keyLen) :
    ∃ message, buildV3Security c world cli .authPriv engineId = usage message := by
  obtain ⟨message, hkey⟩ :=
    privKeyFromPassword_short hc privPassword engineId proto priv hlen' hshort
  refine ⟨message, ?_⟩
  simp only [buildV3Security, authProto, privProto, hproto, hpriv, h', Outcome.expect,
    Outcome.ok_bind, deriveAuthKey_eq hc engineId proto h hlen, hkey]
  rfl

end AuthPriv
end Lawful

/-! ## v3 messages -/

theorem assembleV3_ok {c : Crypto} {world : World} {cli : Cli} {m : V3TrapMessage}
    (h : assembleV3 c world cli = .ok m) :
    ∃ p user level, v3Positionals world cli.trapArgs = .ok p ∧ m.trap.MadeOf world p ∧
      userAuthoritative cli = .ok user ∧
      resolve world user cli.srcAddrV4 = (.ok m.authoritativeEngineId : Run EngineId) ∧
      contextEngineIdOf cli m.authoritativeEngineId = .ok m.contextEngineId ∧
      cli.securityLevel = some level ∧
      buildV3Security c world cli level m.authoritativeEngineId = .ok m.security := by
  obtain ⟨p, hp, h⟩ := Outcome.bind_ok_iff.mp h
  obtain ⟨user, huser, h⟩ := Outcome.bind_ok_iff.mp h
  obtain ⟨authoritative, hauthoritative, h⟩ := Outcome.bind_ok_iff.mp h
  obtain ⟨context, hcontext, h⟩ := Outcome.bind_ok_iff.mp h
  obtain ⟨level, hlevel, h⟩ := Outcome.bind_ok_iff.mp h
  obtain ⟨security, hsecurity, h⟩ := Outcome.bind_ok_iff.mp h
  obtain ⟨trap, htrap, h⟩ := Outcome.bind_ok_iff.mp h
  obtain ⟨userName, _, h⟩ := Outcome.bind_ok_iff.mp h
  cases h
  exact ⟨p, user, level, hp, (V2cTrap.new_ok htrap).2, huser, hauthoritative, hcontext,
    Outcome.expect_ok_iff.mp hlevel, hsecurity⟩

/-- Every step and every field. -/
theorem assembleV3_ok_iff {c : Crypto} {world : World} {cli : Cli} {m : V3TrapMessage} :
    assembleV3 c world cli = .ok m ↔
      ∃ p user authoritative context level security trap name,
        v3Positionals world cli.trapArgs = .ok p ∧ userAuthoritative cli = .ok user ∧
        resolve world user cli.srcAddrV4 = (.ok authoritative : Run EngineId) ∧
        contextEngineIdOf cli authoritative = .ok context ∧ cli.securityLevel = some level ∧
        buildV3Security c world cli level authoritative = .ok security ∧
        V2cTrap.new [] world.freshRequestId p.uptime p.trapOid p.varbinds = .ok trap ∧
        cli.userName = some name ∧
        m = ⟨authoritative, context, (cli.contextName.map asBytes).getD [], asBytes name,
          engineBootsPerInvocation, processUptimeSeconds world, world.freshMsgId, security,
          trap⟩ := by
  constructor
  · intro h
    obtain ⟨p, hp, h⟩ := Outcome.bind_ok_iff.mp h
    obtain ⟨user, huser, h⟩ := Outcome.bind_ok_iff.mp h
    obtain ⟨authoritative, hauthoritative, h⟩ := Outcome.bind_ok_iff.mp h
    obtain ⟨context, hcontext, h⟩ := Outcome.bind_ok_iff.mp h
    obtain ⟨level, hlevel, h⟩ := Outcome.bind_ok_iff.mp h
    obtain ⟨security, hsecurity, h⟩ := Outcome.bind_ok_iff.mp h
    obtain ⟨trap, htrap, h⟩ := Outcome.bind_ok_iff.mp h
    obtain ⟨name, hname, h⟩ := Outcome.bind_ok_iff.mp h
    cases h
    exact ⟨p, user, authoritative, context, level, security, trap, name, hp, huser,
      hauthoritative, hcontext, Outcome.expect_ok_iff.mp hlevel, hsecurity, htrap,
      Outcome.expect_ok_iff.mp hname, rfl⟩
  · rintro ⟨p, user, authoritative, context, level, security, trap, name, hp, huser,
      hauthoritative, hcontext, hlevel, hsecurity, htrap, hname, rfl⟩
    simp only [assembleV3, hp, huser, hauthoritative, hcontext, hlevel, hname, hsecurity, htrap,
      Outcome.expect, Outcome.ok_bind]

end SnmpTrap
