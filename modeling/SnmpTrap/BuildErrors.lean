import SnmpTrap.NoPanic
import SnmpTrap.Rust.Fails

/-! Why a payload is not built: the arguments are not usable, the encoder refuses the trap, or the
host does not tell what was left to it. -/
namespace SnmpTrap
open Rust Ber
set_option autoImplicit false
set_option maxHeartbeats 250000
set_option maxRecDepth 120000

/-- The errors of the builders: an argument is unusable, the encoder or SNMPv1 refuses a value, or
the host does not tell its uptime or the address it sends from. -/
def BuildError (r : Encoder) (world : World) (dst : SocketAddrV4) : Error → Prop
  | .usage _ => True
  | .encode message => (∃ v, r.encode v = .error message) ∨
      ∃ v, v1Value v = Outcome.fail (.encode message)
  | .other e => world.hostUptimeCentiseconds = .error e ∨ world.egressIpv4For dst = .error e
  | _ => False

section Builders
variable (r : Encoder) (world : World) (dst : SocketAddrV4)

theorem UsageOrOk.failsWith {α : Type} {x : Run α} (h : UsageOrOk x) :
    x.FailsWith (BuildError r world dst) := by
  obtain ⟨a, rfl⟩ | ⟨message, rfl⟩ := h
  · exact Outcome.failsWith_ok a
  · exact Outcome.failsWith_fail trivial

theorem failsWith_encode (v : Value) : (encode r v).FailsWith (BuildError r world dst) :=
  Outcome.failsWith_mapErr (Outcome.failsWith_ofExcept fun _ he => Or.inl ⟨v, he⟩)

theorem failsWith_parseUptimeOrDefault (s : String) :
    (parseUptimeOrDefault world s).FailsWith (BuildError r world dst) := by
  obtain h | ⟨_, e, hhost, h⟩ := parseUptimeOrDefault_cases world s
  · exact h.failsWith r world dst
  · rw [h]
    exact Outcome.failsWith_fail (Or.inl hhost)

/-! ## v1 -/

theorem failsWith_v1Enterprise (arg : String) :
    (v1Enterprise arg).FailsWith (BuildError r world dst) := by
  unfold v1Enterprise
  split
  · exact Outcome.failsWith_ok _
  · exact Outcome.failsWith_mapErr fun _ _ => trivial

theorem failsWith_resolveV1AgentAddr (positional : String) (srcAddrFlag : Option Ipv4Addr) :
    (resolveV1AgentAddr world positional srcAddrFlag dst).FailsWith (BuildError r world dst) := by
  unfold resolveV1AgentAddr
  split
  · split
    · exact Outcome.failsWith_ok _
    · exact Outcome.failsWith_fail trivial
  · split
    · exact Outcome.failsWith_ok _
    · exact Outcome.failsWith_mapErr
        (Outcome.failsWith_ofExcept fun e he => Or.inr he)

theorem failsWith_v1Trap_new (community : List UInt8) (enterprise : List UInt32)
    (agentAddr : Ipv4Addr) (generic specific : Int32) (uptime : UInt32)
    (varbinds : List (List UInt32 × VarBindValue)) :
    (V1Trap.new community enterprise agentAddr generic specific uptime varbinds).FailsWith
      (BuildError r world dst) := by
  unfold V1Trap.new
  split
  · exact Outcome.failsWith_ok _
  · exact Outcome.failsWith_panicked _

theorem failsWith_assembleV1 (cli : Cli) :
    (assembleV1 world cli dst).FailsWith (BuildError r world dst) := by
  unfold assembleV1
  simp only
  split
  · exact Outcome.failsWith_fail trivial
  · refine (Outcome.failsWith_index _ _).bind fun arg₀ _ => ?_
    refine (failsWith_v1Enterprise r world dst arg₀).bind fun enterprise _ => ?_
    refine (Outcome.failsWith_index _ _).bind fun arg₁ _ => ?_
    refine (failsWith_resolveV1AgentAddr r world dst arg₁ _).bind fun agentAddr _ => ?_
    refine (Outcome.failsWith_index _ _).bind fun arg₂ _ => ?_
    refine (Outcome.failsWith_mapErr fun _ _ => trivial).bind fun generic _ => ?_
    split
    · exact Outcome.failsWith_fail trivial
    · refine (Outcome.failsWith_index _ _).bind fun arg₃ _ => ?_
      refine (Outcome.failsWith_mapErr fun _ _ => trivial).bind fun specific _ => ?_
      split
      · exact Outcome.failsWith_fail trivial
      · refine (Outcome.failsWith_index _ _).bind fun arg₄ _ => ?_
        refine (failsWith_parseUptimeOrDefault r world dst arg₄).bind fun uptime _ => ?_
        refine (Outcome.failsWith_sliceFrom _ _).bind fun rest _ => ?_
        refine ((usageOrOk_parseTrailingVarbinds rest).failsWith r world dst).bind fun varbinds _ => ?_
        exact failsWith_v1Trap_new r world dst _ _ _ _ _ _ _

theorem failsWith_v1Value (v : VarBindValue) : (v1Value v).FailsWith (BuildError r world dst) := by
  cases v with
  | bits bytes => exact Outcome.failsWith_fail (Or.inr ⟨.bits bytes, rfl⟩)
  | counter64 n => exact Outcome.failsWith_fail (Or.inr ⟨.counter64 n, rfl⟩)
  | _ => exact Outcome.failsWith_ok _

theorem failsWith_buildV1Payload (cli : Cli) :
    (buildV1Payload r world cli dst).FailsWith (BuildError r world dst) := by
  refine (failsWith_assembleV1 r world dst cli).bind fun t _ => ?_
  refine Outcome.FailsWith.bind ?_ fun message _ => failsWith_encode r world dst _
  refine (Outcome.failsWith_mapM _ fun vb _ => ?_).bind fun bindings _ => Outcome.failsWith_ok _
  exact (failsWith_v1Value r world dst vb.2).bind fun value _ => Outcome.failsWith_ok _

/-! ## v2c -/

theorem failsWith_positionals (uptimeArg trapOidArg : String) (rest : List String) :
    (positionals world uptimeArg trapOidArg rest).FailsWith (BuildError r world dst) := by
  obtain h | ⟨_, e, hhost, h⟩ := positionals_cases world uptimeArg trapOidArg rest
  · exact h.failsWith r world dst
  · rw [h]
    exact Outcome.failsWith_fail (Or.inl hhost)

theorem failsWith_v2cTrap_new (community : List UInt8) (requestId : Int32) (uptime : UInt32)
    (trapOid : List UInt32) (varbinds : List (List UInt32 × VarBindValue)) :
    (V2cTrap.new community requestId uptime trapOid varbinds).FailsWith (BuildError r world dst) := by
  unfold V2cTrap.new
  split
  · exact Outcome.failsWith_ok _
  · exact Outcome.failsWith_panicked _

theorem failsWith_buildV2cPayload (cli : Cli) :
    (buildV2cPayload r world cli).FailsWith (BuildError r world dst) := by
  refine Outcome.FailsWith.bind ?_ fun t _ => ?_
  · refine Outcome.FailsWith.bind ?_ fun p _ => failsWith_v2cTrap_new r world dst _ _ _ _ _
    obtain hlen | ⟨uptimeArg, trapOidArg, rest, hargs⟩ := length_lt_two_or_cons cli.trapArgs
    · rw [v2cPositionals_short world hlen]
      exact Outcome.failsWith_fail trivial
    · rw [hargs, v2cPositionals_cons]
      exact failsWith_positionals r world dst uptimeArg trapOidArg rest
  · rw [buildV2cTrap_eq]
    exact failsWith_encode r world dst _

/-! ## v3 -/

theorem failsWith_userAuthoritative (cli : Cli) :
    (userAuthoritative cli).FailsWith (BuildError r world dst) := by
  unfold userAuthoritative
  split
  · exact (Outcome.failsWith_mapErr fun _ _ => trivial).bind fun e _ => Outcome.failsWith_ok _
  · exact Outcome.failsWith_ok _

theorem failsWith_contextEngineIdOf (cli : Cli) (e : EngineId) :
    (contextEngineIdOf cli e).FailsWith (BuildError r world dst) := by
  unfold contextEngineIdOf
  split
  · exact Outcome.failsWith_mapErr fun _ _ => trivial
  · exact Outcome.failsWith_ok _

theorem failsWith_resolve (user : Option EngineId) (src : Option Ipv4Addr) :
    (resolve world user src : Run EngineId).FailsWith (BuildError r world dst) := by
  unfold resolve
  split
  · exact Outcome.failsWith_ok _
  · split
    · exact Outcome.failsWith_ok _
    · split
      · exact Outcome.failsWith_ok _
      · obtain ⟨e, he, _⟩ := EngineId.fromPayload_eq (ε := Error) formatText
          (asBytes (world.hostName.getD "snmptrap-rs"))
        rw [EngineId.fromText, he]
        exact Outcome.failsWith_ok e

section Keys
variable (c : Crypto)

theorem failsWith_incrementalLoop {p : AuthProtocol} (pw : List UInt8) (target : ℕ) :
    ∀ (fuel : ℕ) (hasher : c.Hasher p) (written : ℕ),
      (incrementalLoop c pw target fuel hasher written).FailsWith (BuildError r world dst) := by
  intro fuel
  induction fuel with
  | zero =>
    intro hasher written
    unfold incrementalLoop
    split
    · exact Outcome.failsWith_panicked _
    · exact Outcome.failsWith_ok _
  | succ fuel ih =>
    intro hasher written
    unfold incrementalLoop
    split
    · exact (Outcome.failsWith_sliceTo _ _).bind fun slice _ => ih _ _
    · exact Outcome.failsWith_ok _

theorem failsWith_passwordToKey (password : String) (engineId : EngineId)
    (proto : AuthProtocol) :
    (passwordToKey c password engineId proto).FailsWith (BuildError r world dst) := by
  unfold passwordToKey
  simp only
  split
  · exact Outcome.failsWith_fail trivial
  · refine Outcome.FailsWith.bind ?_ fun intermediate _ => Outcome.failsWith_ok _
    unfold passwordIntermediateDigest
    simp only
    split
    · exact Outcome.failsWith_ok _
    · exact (failsWith_incrementalLoop r world dst c _ _ _ _ _).bind fun hasher _ =>
        Outcome.failsWith_ok _

theorem failsWith_privKeyFromPassword (password : String) (engineId : EngineId)
    (proto : AuthProtocol) (priv : PrivProtocol) :
    (privKeyFromPassword c password engineId proto priv).FailsWith (BuildError r world dst) := by
  refine (failsWith_passwordToKey r world dst c password engineId proto).bind fun key _ => ?_
  simp only
  split
  · exact Outcome.failsWith_fail trivial
  · exact Outcome.failsWith_sliceTo _ _

theorem failsWith_authProto (cli : Cli) : (authProto cli).FailsWith (BuildError r world dst) := by
  unfold authProto
  split
  · exact Outcome.failsWith_ok _
  · exact Outcome.failsWith_fail trivial

theorem failsWith_privProto (cli : Cli) : (privProto cli).FailsWith (BuildError r world dst) := by
  unfold privProto
  split
  · exact Outcome.failsWith_ok _
  · exact Outcome.failsWith_fail trivial

theorem failsWith_deriveAuthKey (cli : Cli) (engineId : EngineId) (proto : AuthProtocol) :
    (deriveAuthKey c cli engineId proto).FailsWith (BuildError r world dst) :=
  (Outcome.failsWith_expect _ _).bind fun pw _ =>
    failsWith_passwordToKey r world dst c pw engineId proto

theorem failsWith_buildV3Security (world' : World) (cli : Cli) (level : SecurityLevel)
    (engineId : EngineId) :
    (buildV3Security c world' cli level engineId).FailsWith (BuildError r world dst) := by
  cases level with
  | noAuthNoPriv => exact Outcome.failsWith_ok _
  | authNoPriv =>
    refine (failsWith_authProto r world dst cli).bind fun proto _ => ?_
    refine (failsWith_deriveAuthKey r world dst c cli engineId proto).bind fun authKey _ => ?_
    exact Outcome.failsWith_ok _
  | authPriv =>
    refine (failsWith_authProto r world dst cli).bind fun proto _ => ?_
    refine (failsWith_deriveAuthKey r world dst c cli engineId proto).bind fun authKey _ => ?_
    refine (failsWith_privProto r world dst cli).bind fun priv _ => ?_
    refine (Outcome.failsWith_expect _ _).bind fun pw _ => ?_
    refine (failsWith_privKeyFromPassword r world dst c pw engineId proto priv).bind fun key _ => ?_
    exact Outcome.failsWith_ok _

theorem failsWith_protectScopedPdu (m : V3TrapMessage)
    (scopedPdu : SnmpV3.ScopedPdu) :
    (protectScopedPdu r c m scopedPdu).FailsWith (BuildError r world dst) := by
  unfold protectScopedPdu
  split
  · refine (failsWith_encode r world dst _).bind fun plaintext _ => ?_
    refine Outcome.FailsWith.bind ?_ fun ct _ => Outcome.failsWith_ok _
    refine (Outcome.failsWith_assert _ _).bind fun _ _ => ?_
    exact (Outcome.failsWith_sliceTo _ _).bind fun key _ => Outcome.failsWith_expect _ _
  · exact Outcome.failsWith_ok _

theorem failsWith_buildV3TrapMessage (m : V3TrapMessage) :
    (buildV3TrapMessage r c m).FailsWith (BuildError r world dst) := by
  refine Outcome.FailsWith.bind ?_ fun p _ => ?_
  · rw [encodePlaceholder, buildScopedPdu_eq, Outcome.ok_bind]
    refine (failsWith_protectScopedPdu r world dst c m _).bind fun data _ => ?_
    refine (failsWith_encode r world dst _).bind fun securityParams _ => ?_
    exact (failsWith_encode r world dst _).bind fun bytes _ => Outcome.failsWith_ok _
  · split
    · exact Outcome.failsWith_ok _
    · refine Outcome.FailsWith.bind ?_ fun tag _ => ?_
      · refine (Outcome.failsWith_assert _ _).bind fun _ _ => ?_
        exact (Outcome.failsWith_expect _ _).bind fun full _ => Outcome.failsWith_sliceTo _ _
      · refine (Outcome.failsWith_assert _ _).bind fun _ _ => ?_
        refine (failsWith_encode r world dst _).bind fun securityParams _ => ?_
        refine (failsWith_encode r world dst _).bind fun bytes _ => ?_
        exact (Outcome.failsWith_assert _ _).bind fun _ _ => Outcome.failsWith_ok _

theorem failsWith_buildV3Payload (cli : Cli) :
    (buildV3Payload r c world cli).FailsWith (BuildError r world dst) := by
  refine Outcome.FailsWith.bind ?_ fun m _ => failsWith_buildV3TrapMessage r world dst c m
  refine Outcome.FailsWith.bind ?_ fun p _ => ?_
  · obtain hlen | ⟨uptimeArg, trapOidArg, rest, hargs⟩ := length_lt_two_or_cons cli.trapArgs
    · rw [v3Positionals_short world hlen]
      exact Outcome.failsWith_fail trivial
    · rw [hargs, v3Positionals_cons]
      exact failsWith_positionals r world dst uptimeArg trapOidArg rest
  · refine (failsWith_userAuthoritative r world dst cli).bind fun user _ => ?_
    refine (failsWith_resolve r world dst user _).bind fun authoritative _ => ?_
    refine (failsWith_contextEngineIdOf r world dst cli authoritative).bind fun context _ => ?_
    refine (Outcome.failsWith_expect _ _).bind fun level _ => ?_
    refine (failsWith_buildV3Security r world dst c world cli level authoritative).bind
      fun security _ => ?_
    refine (failsWith_v2cTrap_new r world dst _ _ _ _ _).bind fun trap _ => ?_
    exact (Outcome.failsWith_expect _ _).bind fun userName _ => Outcome.failsWith_ok _

/-! ## Every version -/

theorem failsWith_buildPayload (cli : Cli) :
    (buildPayload r c world cli dst).FailsWith (BuildError r world dst) := by
  unfold buildPayload
  split
  · exact failsWith_buildV1Payload r world dst cli
  · exact failsWith_buildV2cPayload r world dst cli
  · exact failsWith_buildV3Payload r world dst c cli

end Keys
end Builders

theorem safe_buildPayload {r : Encoder} (hr : r.EmitsBer) {c : Crypto} (hc : c.Lawful)
    (world : World) {cli : Cli} (hvalid : cli.Validated) (dst : SocketAddrV4) :
    (buildPayload r c world cli dst).Safe := by
  unfold buildPayload
  split
  · exact (safe_assembleV1 world cli dst).bind fun t _ => safe_buildV1Trap r t
  · exact safe_buildV2cPayload r world cli
  · rename_i hversion
    exact safe_buildV3Payload hc hr world hvalid hversion

end SnmpTrap
