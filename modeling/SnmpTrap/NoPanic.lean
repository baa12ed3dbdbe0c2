import SnmpTrap.SameTrap
import SnmpTrap.V1Trip

/-! A validated command line meets every assumption of the builders: no assertion, `expect`, index
or slice in them fails. -/
namespace SnmpTrap
open Rust Ber
set_option autoImplicit false
set_option maxHeartbeats 250000
set_option maxRecDepth 120000

/-! ## Arguments in memory -/

theorem safe_v2cTrap_new {community : List UInt8} {trapOid : List UInt32}
    {varbinds : List (List UInt32 × VarBindValue)} (requestId : Int32) (uptime : UInt32)
    (h : InVec community ∧ InVec trapOid ∧ BindingsInMemory varbinds) :
    (V2cTrap.new community requestId uptime trapOid varbinds).Safe := by
  rw [V2cTrap.new, dif_pos h]
  exact Outcome.safe_ok _

theorem safe_v1Trap_new {community : List UInt8} {enterprise : List UInt32}
    {varbinds : List (List UInt32 × VarBindValue)} (agentAddr : Ipv4Addr)
    (generic specific : Int32) (uptime : UInt32)
    (h : InVec community ∧ InVec enterprise ∧ BindingsInMemory varbinds) :
    (V1Trap.new community enterprise agentAddr generic specific uptime varbinds).Safe := by
  rw [V1Trap.new, dif_pos h]
  exact Outcome.safe_ok _

theorem Cli.community_inVec (cli : Cli) : InVec (asBytes cli.community) :=
  cli.inMemory.1.trans (by norm_num)

theorem Cli.parseOid_inVec (cli : Cli) {arg : String} {oid : List UInt32}
    (harg : arg ∈ cli.trapArgs) (h : parseOid arg = .ok oid) : InVec oid := by
  have hlen := parseOid_length h
  have hmem := cli.inMemory.2.2 arg harg
  unfold InVec
  omega

theorem Cli.bindingsInMemory (cli : Cli) {n : ℕ} {varbinds : List (List UInt32 × VarBindValue)}
    (h : Triplets (cli.trapArgs.drop n) varbinds) : BindingsInMemory varbinds := by
  refine h.bindingsInMemory ?_ fun a ha => cli.inMemory.2.2 a (List.mem_of_mem_drop ha)
  have hlen := cli.inMemory.2.1
  rw [List.length_drop]
  omega

theorem Cli.positionals_inMemory (cli : Cli) {world : World} {uptimeArg trapOidArg : String}
    {rest : List String} {p : Positionals} (hargs : cli.trapArgs = uptimeArg :: trapOidArg :: rest)
    (hp : positionals world uptimeArg trapOidArg rest = .ok p) :
    InVec p.trapOid ∧ BindingsInMemory p.varbinds := by
  obtain ⟨_, htrapOid, htriplets, _⟩ := positionals_ok_iff.mp hp
  refine ⟨cli.parseOid_inVec (by rw [hargs]; simp) htrapOid, cli.bindingsInMemory (n := 2) ?_⟩
  rw [hargs]
  exact htriplets

/-! ## v2c -/

theorem safe_v2cPositionals (world : World) (args : List String) :
    (v2cPositionals world args).Safe := by
  obtain hlen | ⟨uptimeArg, trapOidArg, rest, rfl⟩ := length_lt_two_or_cons args
  · rw [v2cPositionals_short world hlen]
    exact Outcome.safe_fail _
  · rw [v2cPositionals_cons]
    exact safe_positionals world uptimeArg trapOidArg rest

theorem safe_buildV2cPayload (r : Encoder) (world : World) (cli : Cli) :
    (buildV2cPayload r world cli).Safe := by
  refine Outcome.Safe.bind ?_ fun t _ => ?_
  · refine (safe_v2cPositionals world cli.trapArgs).bind fun p hp => ?_
    obtain ⟨uptimeArg, trapOidArg, rest, hargs, hpositionals⟩ := v2cPositionals_ok hp
    exact safe_v2cTrap_new _ _
      ⟨cli.community_inVec, cli.positionals_inMemory hargs hpositionals⟩
  · rw [buildV2cTrap_eq]
    exact safe_encode r _

/-! ## v1 -/

theorem safe_buildV1Trap (r : Encoder) (t : V1Trap) : (buildV1Trap r t).Safe := by
  refine Outcome.Safe.bind ?_ fun message _ => safe_encode r _
  refine Outcome.Safe.bind ?_ fun bindings _ => Outcome.safe_ok _
  exact Outcome.safe_mapM _ fun vb _ => safe_makeV1Varbind vb.1 vb.2

theorem safe_parseUptimeOrDefault (world : World) (s : String) :
    (parseUptimeOrDefault world s).Safe := by
  unfold parseUptimeOrDefault
  split
  · exact (Outcome.safe_ofExcept _).mapErr _
  · exact (Outcome.safe_ofExcept _).mapErr _

theorem safe_resolveV1AgentAddr (world : World) (positional : String)
    (srcAddrFlag : Option Ipv4Addr) (dst : SocketAddrV4) :
    (resolveV1AgentAddr world positional srcAddrFlag dst).Safe := by
  unfold resolveV1AgentAddr
  split
  · split
    · exact Outcome.safe_ok _
    · exact Outcome.safe_fail _
  · split
    · exact Outcome.safe_ok _
    · exact (Outcome.safe_ofExcept _).mapErr _

theorem safe_v1Enterprise (arg : String) : (v1Enterprise arg).Safe := by
  unfold v1Enterprise
  split
  · exact Outcome.safe_ok _
  · exact (safe_parseOid _).mapErr _

theorem Cli.v1Enterprise_inVec (cli : Cli) {arg : String} {enterprise : List UInt32}
    (harg : arg ∈ cli.trapArgs) (h : v1Enterprise arg = .ok enterprise) : InVec enterprise := by
  unfold v1Enterprise at h
  split at h
  · cases h
    decide
  · exact cli.parseOid_inVec harg (Outcome.mapErr_ok_iff.mp h)

theorem safe_assembleV1 (world : World) (cli : Cli) (dst : SocketAddrV4) :
    (assembleV1 world cli dst).Safe := by
  unfold assembleV1
  simp only
  split
  · exact Outcome.safe_fail _
  · rename_i hlen
    rw [Outcome.index_eq_ok (by omega), Outcome.ok_bind]
    refine (safe_v1Enterprise _).bind fun enterprise henterprise => ?_
    have hinVec := cli.v1Enterprise_inVec (List.getElem_mem _) henterprise
    rw [Outcome.index_eq_ok (by omega), Outcome.ok_bind]
    refine (safe_resolveV1AgentAddr _ _ _ _).bind fun agentAddr _ => ?_
    rw [Outcome.index_eq_ok (by omega), Outcome.ok_bind]
    refine ((Outcome.safe_ofExcept _).mapErr _).bind fun generic _ => ?_
    split
    · exact Outcome.safe_fail _
    · rw [Outcome.index_eq_ok (by omega), Outcome.ok_bind]
      refine ((Outcome.safe_ofExcept _).mapErr _).bind fun specific _ => ?_
      split
      · exact Outcome.safe_fail _
      · rw [Outcome.index_eq_ok (by omega), Outcome.ok_bind]
        refine (safe_parseUptimeOrDefault _ _).bind fun uptime _ => ?_
        rw [Outcome.sliceFrom_eq_ok (by omega), Outcome.ok_bind]
        refine (usageOrOk_parseTrailingVarbinds _).safe.bind fun varbinds hvarbinds => ?_
        rw [parseTrailingVarbinds_ok_iff] at hvarbinds
        exact safe_v1Trap_new _ _ _ _
          ⟨cli.community_inVec, hinVec, cli.bindingsInMemory hvarbinds⟩

/-! ## v3 -/

theorem safe_v3Positionals (world : World) (args : List String) :
    (v3Positionals world args).Safe := by
  obtain hlen | ⟨uptimeArg, trapOidArg, rest, rfl⟩ := length_lt_two_or_cons args
  · rw [v3Positionals_short world hlen]
    exact Outcome.safe_fail _
  · rw [v3Positionals_cons]
    exact safe_positionals world uptimeArg trapOidArg rest

theorem safe_userAuthoritative (cli : Cli) : (userAuthoritative cli).Safe := by
  unfold userAuthoritative
  split
  · exact ((EngineId.safe_parseUserInput _).mapErr _).bind fun e _ => Outcome.safe_ok _
  · exact Outcome.safe_ok _

theorem safe_contextEngineIdOf (cli : Cli) (e : EngineId) : (contextEngineIdOf cli e).Safe := by
  unfold contextEngineIdOf
  split
  · exact (EngineId.safe_parseUserInput _).mapErr _
  · exact Outcome.safe_ok _

section Lawful
variable {c : Crypto} (hc : c.Lawful)
include hc

/-- What validation requires for a level is what the keys need: derivation gives keys that fit, or
refuses a digest too short for the cipher. -/
theorem buildV3Security_cases (world : World) {cli : Cli} {level : SecurityLevel}
    (hsecrets : cli.HasSecrets level) (e : EngineId) :
    (∃ security, buildV3Security c world cli level e = .ok security ∧ security.KeysFit ∧
      ∀ proto priv, level = .authPriv → cli.authProtocol = some proto →
        cli.privProtocol = some priv → priv.keyLen ≤ proto.digestLen) ∨
    ∃ message proto priv, buildV3Security c world cli level e = usage message ∧
      level = .authPriv ∧ cli.authProtocol = some proto ∧ cli.privProtocol = some priv ∧
      proto.digestLen < priv.keyLen := by
  cases level with
  | noAuthNoPriv => exact Or.inl ⟨.noAuthNoPriv, rfl, trivial, fun _ _ h => by cases h⟩
  | authNoPriv =>
    obtain ⟨⟨proto, hproto⟩, password, hpassword, hlen⟩ := hsecrets
    exact Or.inl ⟨_, buildV3Security_authNoPriv hc world e hproto hpassword hlen,
      localizedKey_length hc password e proto, fun _ _ h => by cases h⟩
  | authPriv =>
    obtain ⟨⟨proto, hproto⟩, ⟨password, hpassword, hlen⟩, ⟨priv, hpriv⟩, privPassword,
      hprivPassword, hlen'⟩ := hsecrets
    obtain hshort | hfits := Nat.lt_or_ge proto.digestLen priv.keyLen
    · obtain ⟨message, hrefused⟩ := buildV3Security_short hc world e hproto hpassword hlen hpriv
        hprivPassword hlen' hshort
      exact Or.inr ⟨message, proto, priv, hrefused, rfl, hproto, hpriv, hshort⟩
    · have hkey := localizedKey_length hc privPassword e proto
      refine Or.inl ⟨_, buildV3Security_authPriv hc world e hproto hpassword hlen hpriv
        hprivPassword hlen' hfits, ⟨localizedKey_length hc password e proto, ?_⟩, ?_⟩
      · rw [List.length_take]
        omega
      · intro proto' priv' _ hproto' hpriv'
        rw [hproto] at hproto'
        rw [hpriv] at hpriv'
        cases hproto'
        cases hpriv'
        exact hfits

theorem safe_buildV3Security (world : World) {cli : Cli} {level : SecurityLevel}
    (hsecrets : cli.HasSecrets level) (e : EngineId) :
    (buildV3Security c world cli level e).Safe := by
  obtain ⟨_, h, _⟩ | ⟨_, _, _, h, _⟩ := buildV3Security_cases hc world hsecrets e
  · rw [h]
    exact Outcome.safe_ok _
  · rw [h]
    exact Outcome.safe_fail _

theorem safe_buildV3Payload {r : Encoder} (hr : r.EmitsBer) (world : World) {cli : Cli}
    (hvalid : cli.Validated) (hv : cli.version = .v3) : (buildV3Payload r c world cli).Safe := by
  obtain ⟨level, user, hlevel, huser, hsecrets⟩ := hvalid.v3 hv
  refine Outcome.Safe.bind ?_ fun m hm => ?_
  · refine (safe_v3Positionals world cli.trapArgs).bind fun p hp => ?_
    obtain ⟨uptimeArg, trapOidArg, rest, hargs, hpositionals⟩ := v3Positionals_ok hp
    refine (safe_userAuthoritative cli).bind fun authEidUser _ => ?_
    refine (safe_resolve world authEidUser cli.srcAddrV4).bind fun authoritative _ => ?_
    refine (safe_contextEngineIdOf cli authoritative).bind fun context _ => ?_
    rw [hlevel, huser]
    refine (safe_buildV3Security hc world hsecrets authoritative).bind fun security _ => ?_
    refine (safe_v2cTrap_new _ _ ⟨by decide, cli.positionals_inMemory hargs hpositionals⟩).bind
      fun trap _ => ?_
    exact Outcome.safe_ok _
  · obtain ⟨_, _, level', _, _, _, _, _, hlevel', hsecurity⟩ := assembleV3_ok hm
    rw [hlevel] at hlevel'
    cases hlevel'
    refine safe_buildV3TrapMessage hc hr m ?_
    rcases buildV3Security_cases hc world hsecrets m.authoritativeEngineId with
      ⟨security, h, hfit, _⟩ | ⟨_, _, _, h, _⟩
    · rw [hsecurity] at h
      cases h
      exact hfit
    · rw [hsecurity] at h
      exact absurd h.symm (Outcome.fail_ne_ok _ _)

theorem passwords_localize {cli : Cli} {level : SecurityLevel} (hsecrets : cli.HasSecrets level) :
    (level ≠ .noAuthNoPriv → ∃ password, cli.authPassword = some password ∧ ∀ e proto,
      passwordToKey c password e proto = .ok (localizedKey c password e proto)) ∧
    (level = .authPriv → ∃ password, cli.privPassword = some password ∧ ∀ e proto,
      passwordToKey c password e proto = .ok (localizedKey c password e proto)) := by
  cases level with
  | noAuthNoPriv => exact ⟨fun h => absurd rfl h, fun h => by cases h⟩
  | authNoPriv =>
    obtain ⟨_, password, hpassword, hlen⟩ := hsecrets
    exact ⟨fun _ => ⟨password, hpassword,
        fun e proto => passwordToKey_eq hc.streaming password e proto hlen⟩,
      fun h => by cases h⟩
  | authPriv =>
    obtain ⟨_, ⟨password, hpassword, hlen⟩, _, privPassword, hprivPassword, hlen'⟩ := hsecrets
    exact ⟨fun _ => ⟨password, hpassword,
        fun e proto => passwordToKey_eq hc.streaming password e proto hlen⟩,
      fun _ => ⟨privPassword, hprivPassword,
        fun e proto => passwordToKey_eq hc.streaming privPassword e proto hlen'⟩⟩

theorem buildV3Security_fails_iff (world : World) {cli : Cli} {level : SecurityLevel}
    (hsecrets : cli.HasSecrets level) (e : EngineId) :
    (∃ error, buildV3Security c world cli level e = Outcome.fail error) ↔
      level = .authPriv ∧ ∃ proto priv, cli.authProtocol = some proto ∧
        cli.privProtocol = some priv ∧ proto.digestLen < priv.keyLen := by
  rcases buildV3Security_cases hc world hsecrets e with
    ⟨security, h, _, hfits⟩ | ⟨message, proto, priv, h, hlevel, hproto, hpriv, hshort⟩
  · rw [h]
    constructor
    · rintro ⟨error, herror⟩
      exact absurd herror.symm (Outcome.fail_ne_ok _ _)
    · rintro ⟨hlevel, proto, priv, hproto, hpriv, hshort⟩
      have := hfits proto priv hlevel hproto hpriv
      omega
  · exact ⟨fun _ => ⟨hlevel, proto, priv, hproto, hpriv, hshort⟩, fun _ => ⟨_, h⟩⟩

end Lawful

/-! ## Every version -/

/-- **No validated command line panics the builders.** Under v3 the passwords a level uses are
always localized, never refused as short, and key derivation fails exactly under `authPriv` with a
digest shorter than the cipher's key. -/
theorem validated_never_panics (r : Encoder) (hr : r.EmitsBer) (c : Crypto) (hc : c.Lawful)
    (world : World) (cli : Cli) (hvalid : cli.Validated) (dst : SocketAddrV4) :
    (buildPayload r c world cli dst).Safe ∧
    (cli.version = .v3 → ∃ level, cli.securityLevel = some level ∧
      (level ≠ .noAuthNoPriv → ∃ password, cli.authPassword = some password ∧ ∀ e proto,
        passwordToKey c password e proto = .ok (localizedKey c password e proto)) ∧
      (level = .authPriv → ∃ password, cli.privPassword = some password ∧ ∀ e proto,
        passwordToKey c password e proto = .ok (localizedKey c password e proto)) ∧
      ∀ e, (∃ error, buildV3Security c world cli level e = Outcome.fail error) ↔
        level = .authPriv ∧ ∃ proto priv, cli.authProtocol = some proto ∧
          cli.privProtocol = some priv ∧ proto.digestLen < priv.keyLen) := by
  constructor
  · unfold buildPayload
    split
    · exact (safe_assembleV1 world cli dst).bind fun t _ => safe_buildV1Trap r t
    · exact safe_buildV2cPayload r world cli
    · rename_i hv
      exact safe_buildV3Payload hc hr world hvalid hv
  · intro hv
    obtain ⟨level, _, hlevel, _, hsecrets⟩ := hvalid.v3 hv
    obtain ⟨hauth, hpriv⟩ := passwords_localize hc hsecrets
    exact ⟨level, hlevel, hauth, hpriv, buildV3Security_fails_iff hc world hsecrets⟩

theorem validated_never_panics_maplesyrup :
    (buildPayload x690 maplesyrupCrypto maplesyrupWorld maplesyrupCli
      ⟨⟨127, 0, 0, 1⟩, 162⟩).Safe :=
  (validated_never_panics x690 x690_emitsBer maplesyrupCrypto maplesyrupCrypto_lawful
    maplesyrupWorld maplesyrupCli maplesyrupCli_validated ⟨⟨127, 0, 0, 1⟩, 162⟩).1

end SnmpTrap
