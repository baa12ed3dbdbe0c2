import SnmpTrap.SameTrap

/-! The reserved var-binds: each encoded once and in front, and refused among the user's own. -/
namespace SnmpTrap
open Rust Ber
set_option autoImplicit false
set_option maxHeartbeats 250000
set_option maxRecDepth 120000

/-! ## Accepted arguments -/

/-- sysUpTime.0 stands at index 0 only, snmpTrapOID.0 at index 1 only, and behind them the user's
triplets in order. -/
structure ReservedFirst (args : List String) (bindings : List SnmpV2.VarBind) : Prop where
  uptime_iff : ∀ i, (bindings.map SnmpV2.VarBind.name)[i]? = some sysUptimeOid ↔ i = 0
  trapOid_iff : ∀ i, (bindings.map SnmpV2.VarBind.name)[i]? = some snmpTrapOidOid ↔ i = 1
  length_eq : bindings.length = 2 + (args.length - 2) / 3
  triplets : ∃ vbs, Triplets (args.drop 2) vbs ∧ bindings.drop 2 = vbs.map v2Varbind

theorem names_bindings (t : V2cTrap) :
    t.pdu.pdu.variableBindings.map SnmpV2.VarBind.name =
      sysUptimeOid :: snmpTrapOidOid :: t.varbinds.map Prod.fst := by
  simp only [V2cTrap.pdu, V2cTrap.bindings, List.map_cons, List.map_map, v2Varbind]
  rfl

theorem reservedFirst_pdu {world : World} {uptimeArg trapOidArg : String} {rest : List String}
    {p : Positionals} {t : V2cTrap} (hp : positionals world uptimeArg trapOidArg rest = .ok p)
    (ht : t.MadeOf world p) :
    ReservedFirst (uptimeArg :: trapOidArg :: rest) t.pdu.pdu.variableBindings := by
  obtain ⟨_, _, htriplets, hreserved⟩ := positionals_ok_iff.mp hp
  have hrest : ∀ (i : ℕ) (oid : List UInt32), Reserved oid →
      (t.varbinds.map Prod.fst)[i]? ≠ some oid := by
    intro i oid hoid h
    obtain ⟨vb, hvb, rfl⟩ := List.mem_map.mp (List.mem_of_getElem? h)
    rw [ht.varbinds] at hvb
    exact hreserved vb hvb hoid
  constructor
  · intro i
    rw [names_bindings]
    match i with
    | 0 => simp
    | 1 => simp [sysUptimeOid, snmpTrapOidOid]
    | i + 2 => simpa using hrest i _ (Or.inl rfl)
  · intro i
    rw [names_bindings]
    match i with
    | 0 => simp [sysUptimeOid, snmpTrapOidOid]
    | 1 => simp
    | i + 2 => simpa using hrest i _ (Or.inr rfl)
  · have hlen := htriplets.length
    simp only [V2cTrap.pdu, V2cTrap.bindings, List.length_map, List.length_cons, ht.varbinds]
    omega
  · refine ⟨p.varbinds, htriplets, ?_⟩
    rw [← ht.varbinds]
    rfl

/-! ## Refused arguments -/

/-- Some trailing OID, however spelled, is one of the two. -/
def NamesReserved (args : List String) : Prop :=
  ∃ i oidArg oid, args[2 + 3 * i]? = some oidArg ∧ parseOid oidArg = .ok oid ∧ Reserved oid

theorem Triplets.exists_of_getElem? {rest : List String}
    {vbs : List (List UInt32 × VarBindValue)} (h : Triplets rest vbs) {i : ℕ} {oidArg : String}
    (hi : rest[3 * i]? = some oidArg) : ∃ vb ∈ vbs, parseOid oidArg = .ok vb.1 := by
  induction h generalizing i with
  | nil => cases hi
  | @cons _ _ _ _ oid _ value vbs hoid _ _ _ ih =>
    cases i with
    | zero =>
      cases hi
      exact ⟨(oid, value), by simp, hoid⟩
    | succ i =>
      have hi' := hi
      rw [Nat.mul_succ] at hi'
      simp only [List.getElem?_cons_succ] at hi'
      obtain ⟨vb, hvb, hparse⟩ := ih hi'
      exact ⟨vb, by simp [hvb], hparse⟩

theorem positionals_ne_ok {world : World} {uptimeArg trapOidArg : String} {rest : List String}
    {p : Positionals} (h : NamesReserved (uptimeArg :: trapOidArg :: rest)) :
    positionals world uptimeArg trapOidArg rest ≠ .ok p := by
  intro hp
  obtain ⟨i, oidArg, oid, hi, hoid, hreserved⟩ := h
  obtain ⟨_, _, htriplets, hnone⟩ := positionals_ok_iff.mp hp
  have hi' : rest[3 * i]? = some oidArg := by
    rw [Nat.add_comm] at hi
    exact hi
  obtain ⟨vb, hvb, hparse⟩ := htriplets.exists_of_getElem? hi'
  rw [hoid] at hparse
  cases hparse
  exact hnone vb hvb hreserved

/-- Refused: with the host's own error where `''` asked for its uptime in vain, else with a usage
error. -/
def Refused {α : Type} (world : World) (args : List String) (x : Run α) : Prop :=
  match world.hostUptimeCentiseconds with
  | .error e =>
    if args[0]? = some "" then x = Outcome.fail (.other e) else ∃ message, x = usage message
  | .ok _ => ∃ message, x = usage message

/-- The same refusal, where errors pass on. -/
theorem Refused.of_fail {α β : Type} {world : World} {args : List String} {x : Run α} {y : Run β}
    (h : Refused world args x) (hfail : ∀ e, x = Outcome.fail e → y = Outcome.fail e) :
    Refused world args y := by
  have husage : (∃ message, x = usage message) → ∃ message, y = usage message := by
    rintro ⟨message, hx⟩
    exact ⟨message, hfail _ hx⟩
  unfold Refused at h ⊢
  cases he : world.hostUptimeCentiseconds with
  | ok ticks =>
    rw [he] at h
    exact husage h
  | error e =>
    rw [he] at h
    simp only at h ⊢
    split
    · rename_i hempty
      rw [if_pos hempty] at h
      exact hfail _ h
    · rename_i hempty
      rw [if_neg hempty] at h
      exact husage h

/-- The uptime comes first, so a host that fails to tell its own is all that is reported. -/
theorem positionals_of_hostError {world : World} {e : IoError}
    (he : world.hostUptimeCentiseconds = .error e) (trapOidArg : String) (rest : List String) :
    positionals world "" trapOidArg rest = Outcome.fail (.other e) := by
  rw [positionals, parseUptimeOrDefault, if_pos rfl, he]
  rfl

theorem refused_positionals (world : World) {uptimeArg trapOidArg : String} {rest : List String}
    (h : NamesReserved (uptimeArg :: trapOidArg :: rest)) :
    Refused world (uptimeArg :: trapOidArg :: rest)
      (positionals world uptimeArg trapOidArg rest) := by
  have hcases := positionals_cases world uptimeArg trapOidArg rest
  unfold Refused
  cases he : world.hostUptimeCentiseconds with
  | ok ticks =>
    obtain (⟨p, hp⟩ | husage) | ⟨_, e, he', _⟩ := hcases
    · exact absurd hp (positionals_ne_ok h)
    · exact husage
    · rw [he] at he'
      cases he'
  | error e =>
    simp only [List.getElem?_cons_zero, Option.some.injEq]
    split
    · rename_i hempty
      rw [hempty]
      exact positionals_of_hostError he trapOidArg rest
    · rename_i hempty
      obtain (⟨p, hp⟩ | husage) | ⟨hempty', _⟩ := hcases
      · exact absurd hp (positionals_ne_ok h)
      · exact husage
      · exact absurd hempty' hempty

theorem args_of_namesReserved {args : List String} (h : NamesReserved args) :
    ∃ uptimeArg trapOidArg rest, args = uptimeArg :: trapOidArg :: rest := by
  obtain ⟨i, oidArg, _, hi, _⟩ := h
  have hlt := (List.getElem?_eq_some_iff.mp hi).1
  obtain hlen | hargs := length_lt_two_or_cons args
  · omega
  · exact hargs

theorem refused_buildV2cPayload (r : Encoder) (world : World) (cli : Cli)
    (h : NamesReserved cli.trapArgs) :
    Refused world cli.trapArgs (buildV2cPayload r world cli) := by
  obtain ⟨uptimeArg, trapOidArg, rest, hargs⟩ := args_of_namesReserved h
  rw [hargs] at h ⊢
  refine (refused_positionals world h).of_fail fun e hp => ?_
  rw [← v2cPositionals_cons, ← hargs] at hp
  exact buildV2cPayload_error hp

theorem refused_buildV3Payload (r : Encoder) (c : Crypto) (world : World) (cli : Cli)
    (h : NamesReserved cli.trapArgs) :
    Refused world cli.trapArgs (buildV3Payload r c world cli) := by
  obtain ⟨uptimeArg, trapOidArg, rest, hargs⟩ := args_of_namesReserved h
  rw [hargs] at h ⊢
  refine (refused_positionals world h).of_fail fun e hp => ?_
  rw [← v3Positionals_cons, ← hargs] at hp
  exact buildV3Payload_error hp

/-! ## Both builders -/

/-- **Each reserved var-bind is encoded once and first.** What either builder encodes has the two
in front and nowhere else and the user's triplets behind them; and arguments that name one of the
two are refused: with the error of the host's uptime lookup where `''` asks for it and it fails,
and with a usage error everywhere else. -/
theorem reserved_varbinds_once (r : Encoder) (c : Crypto) (world : World) (cli : Cli) :
    (∀ w, buildV2cPayload r world cli = .ok w → ∃ t message,
      assembleV2c world cli = .ok t ∧ v2cMessage t = .ok message ∧
      encode r (message.toValue SnmpV2.Trap.toValue) = .ok w ∧
      ReservedFirst cli.trapArgs message.data.pdu.variableBindings) ∧
    (∀ w, buildV3Payload r c world cli = .ok w → ∃ m scopedPdu pdu,
      assembleV3 c world cli = .ok m ∧ buildV3TrapMessage r c m = .ok w ∧
      buildScopedPdu m = .ok scopedPdu ∧ scopedPdu.data = .trap ⟨pdu⟩ ∧
      ReservedFirst cli.trapArgs pdu.variableBindings) ∧
    (NamesReserved cli.trapArgs →
      Refused world cli.trapArgs (buildV2cPayload r world cli) ∧
      Refused world cli.trapArgs (buildV3Payload r c world cli)) := by
  refine ⟨fun w hw => ?_, fun w hw => ?_, fun h =>
    ⟨refused_buildV2cPayload r world cli h, refused_buildV3Payload r c world cli h⟩⟩
  · obtain ⟨t, ht, hw⟩ := Outcome.bind_ok_iff.mp hw
    obtain ⟨message, hmessage, hencode⟩ := Outcome.bind_ok_iff.mp hw
    obtain ⟨p, hp, _, hmade⟩ := assembleV2c_ok ht
    obtain ⟨uptimeArg, trapOidArg, rest, hargs, hpositionals⟩ := v2cPositionals_ok hp
    refine ⟨t, message, ht, hmessage, hencode, ?_⟩
    rw [v2cMessage_eq] at hmessage
    cases hmessage
    rw [hargs]
    exact reservedFirst_pdu hpositionals hmade
  · obtain ⟨m, hm, hw⟩ := Outcome.bind_ok_iff.mp hw
    obtain ⟨p, _, _, hp, hmade, _⟩ := assembleV3_ok hm
    obtain ⟨uptimeArg, trapOidArg, rest, hargs, hpositionals⟩ := v3Positionals_ok hp
    refine ⟨m, m.scopedPdu, m.trap.pdu.pdu, hm, hw, buildScopedPdu_eq m, rfl, ?_⟩
    rw [hargs]
    exact reservedFirst_pdu hpositionals hmade

theorem reserved_varbinds_once_maplesyrup :
    ∃ w m scopedPdu pdu,
      buildV3Payload x690 maplesyrupCrypto maplesyrupWorld maplesyrupCli = .ok w ∧
      assembleV3 maplesyrupCrypto maplesyrupWorld maplesyrupCli = .ok m ∧
      buildScopedPdu m = .ok scopedPdu ∧ scopedPdu.data = .trap ⟨pdu⟩ ∧
      ReservedFirst ["12345", "1.3.6.1.6.3.1.1.5.1", "1.3.6.1.2.1.1.5.0", "s", "host"]
        pdu.variableBindings := by
  obtain ⟨w, hv3⟩ := buildV3Payload_maplesyrup
  obtain ⟨m, scopedPdu, pdu, hm, _, hscoped, hdata, hfirst⟩ :=
    (reserved_varbinds_once x690 maplesyrupCrypto maplesyrupWorld maplesyrupCli).2.1 w hv3
  exact ⟨w, m, scopedPdu, pdu, hv3, hm, hscoped, hdata, hfirst⟩

/-! ## A host that does not tell its uptime -/

/-- `''` for the uptime, and `.1.03.6.1.2.1.1.3.0` among the trailing OIDs. -/
def hostUptimeCli : Cli where
  version := .v2c
  community := "public"
  retries := 0
  timeout := 1
  srcAddr := none
  srcPort := none
  securityLevel := none
  userName := none
  authProtocol := none
  authPassword := none
  privProtocol := none
  privPassword := none
  contextEngineId := none
  authoritativeEngineId := none
  contextName := none
  trapArgs := ["", "1.3.6.1.6.3.1.1.5.1", ".1.03.6.1.2.1.1.3.0", "t", "5"]
  inMemory := by decide +kernel

def uptimeError : IoError := ⟨.other, some 13, "Permission denied (os error 13)"⟩

/-- A trailing sysUpTime.0 is then refused with the host's error, not with a usage error. -/
theorem reserved_varbind_not_usage :
    ¬ ∀ (r : Encoder) (world : World) (cli : Cli), r.EmitsBer → cli.Validated →
      cli.version = .v2c → NamesReserved cli.trapArgs →
      ∃ message, buildV2cPayload r world cli = usage message := by
  intro hall
  have hnames : NamesReserved hostUptimeCli.trapArgs :=
    ⟨0, ".1.03.6.1.2.1.1.3.0", sysUptimeOid, rfl, by decide +kernel, Or.inl rfl⟩
  obtain ⟨message, h⟩ := hall x690
    { maplesyrupWorld with hostUptimeCentiseconds := .error uptimeError } hostUptimeCli
    x690_emitsBer ⟨hostUptimeCli, rfl⟩ rfl hnames
  have hother : v2cPositionals { maplesyrupWorld with hostUptimeCentiseconds := .error uptimeError }
      hostUptimeCli.trapArgs = Outcome.fail (.other uptimeError) := by decide +kernel
  rw [buildV2cPayload_error hother] at h
  cases h

end SnmpTrap
