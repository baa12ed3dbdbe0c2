import SnmpTrap.Positional
import SnmpTrap.Rust.Ipv4Text

/-! What `Cli::validate` lets through: exactly the acceptable command lines, completed by the
default security level. -/
namespace SnmpTrap
open Rust
set_option autoImplicit false
set_option maxHeartbeats 250000
set_option maxRecDepth 120000

/-! ## Acceptable command lines -/

/-- None of the v3 flags is there. -/
def Cli.NoV3Flags (cli : Cli) : Prop :=
  cli.securityLevel = none ∧ cli.userName = none ∧ cli.authProtocol = none ∧
    cli.authPassword = none ∧ cli.privProtocol = none ∧ cli.privPassword = none ∧
    cli.contextEngineId = none ∧ cli.authoritativeEngineId = none ∧ cli.contextName = none

/-- What v3 requires, at the level that is given or is the default. -/
def Cli.V3Complete (cli : Cli) : Prop :=
  (∃ user, cli.userName = some user ∧ user ≠ "") ∧
    cli.HasSecrets (cli.securityLevel.getD .noAuthNoPriv)

structure Cli.Acceptable (cli : Cli) : Prop where
  community : cli.version = .v3 ∨ cli.community ≠ ""
  timeout : cli.timeout ≠ 0
  srcPort : cli.srcPort ≠ some 0
  srcAddr : ∀ s, cli.srcAddr = some s → ∃ ip : Ipv4Addr, s = ip.display
  scope : cli.version ≠ .v3 → cli.NoV3Flags
  v3 : cli.version = .v3 → cli.V3Complete

/-- The default level filled in under v3. -/
def Cli.completed (cli : Cli) : Cli := if cli.version = .v3 then cli.withDefaultLevel else cli

/-! ## The checks -/

theorem refusePresent_ok_iff (vLabel : String) (pairs : List (String × Bool)) :
    refusePresent vLabel pairs = .ok () ↔ ∀ pair ∈ pairs, pair.2 = false := by
  induction pairs with
  | nil => simp [refusePresent]
  | cons pair pairs ih =>
    obtain ⟨flag, present⟩ := pair
    rw [refusePresent, List.forall_mem_cons]
    cases present with
    | true => simp [usage, Outcome.fail]
    | false => simp [ih]

theorem usageOrOk_refusePresent (vLabel : String) (pairs : List (String × Bool)) :
    UsageOrOk (refusePresent vLabel pairs) := by
  induction pairs with
  | nil => exact usageOrOk_ok _
  | cons pair pairs ih =>
    rw [refusePresent]
    split
    · exact usageOrOk_usage _
    · exact ih

theorem validateV3FlagScope_ok_iff (cli : Cli) :
    cli.validateV3FlagScope = .ok () ↔ (cli.version ≠ .v3 → cli.NoV3Flags) := by
  unfold Cli.validateV3FlagScope Cli.NoV3Flags
  split
  · rename_i hv
    simp [hv]
  · rename_i hv
    simp only [refusePresent_ok_iff, List.forall_mem_cons, Option.isSome_eq_false_iff,
      Option.isNone_iff_eq_none, List.not_mem_nil, false_imp_iff, implies_true, and_true]
    exact ⟨fun h _ => h, fun h => h hv⟩

theorem usageOrOk_validateV3FlagScope (cli : Cli) : UsageOrOk cli.validateV3FlagScope := by
  unfold Cli.validateV3FlagScope
  split
  · exact usageOrOk_ok _
  · exact usageOrOk_refusePresent _ _

theorem validateSrcAddr_ok_iff (cli : Cli) : cli.validateSrcAddr = .ok () ↔
    ∀ s, cli.srcAddr = some s → ∃ ip : Ipv4Addr, s = ip.display := by
  unfold Cli.validateSrcAddr
  cases hsrc : cli.srcAddr with
  | none => simp
  | some s =>
    simp only [Option.some.injEq, forall_eq']
    simp only [← parseIpv4Addr_iff, ← parseIpAddr_v4_iff]
    cases hparse : parseIpAddr s with
    | none => simp [usage, Outcome.fail]
    | some addr =>
      cases addr with
      | v4 ip => simp
      | v6 groups => simp [usage, Outcome.fail]

theorem usageOrOk_validateSrcAddr (cli : Cli) : UsageOrOk cli.validateSrcAddr := by
  unfold Cli.validateSrcAddr
  split
  · exact usageOrOk_ok _
  · split
    · exact usageOrOk_ok _
    · exact usageOrOk_usage _
    · exact usageOrOk_usage _

theorem usageOrOk_requireSome {α : Type} (value : Option α) (flag level : String) :
    UsageOrOk (requireSome value flag level) := by
  cases value with
  | none => exact usageOrOk_usage _
  | some a => exact usageOrOk_ok _

theorem usageOrOk_requirePassword (value : Option String) (flag level : String) :
    UsageOrOk (requirePassword value flag level) := by
  unfold requirePassword
  split
  · exact usageOrOk_usage _
  · split
    · exact usageOrOk_usage _
    · split
      · exact usageOrOk_usage _
      · exact usageOrOk_ok _

/-- The statements of a sequence all succeed. -/
theorem bind_unit_ok_iff {x y : Run Unit} : (x >>= fun _ => y) = .ok () ↔ x = .ok () ∧ y = .ok () := by
  rw [Outcome.bind_ok_iff]
  exact ⟨fun ⟨_, hx, hy⟩ => ⟨hx, hy⟩, fun ⟨hx, hy⟩ => ⟨(), hx, hy⟩⟩

section Required
variable {cli : Cli} {level : SecurityLevel} (hlevel : cli.securityLevel = some level)
include hlevel

theorem validateV3Required_ok_iff : cli.validateV3Required = .ok () ↔
    (∃ user, cli.userName = some user ∧ user ≠ "") ∧ cli.HasSecrets level := by
  have huser : (cli.userName.all (· = "")) = false ↔ ∃ user, cli.userName = some user ∧ user ≠ "" := by
    cases cli.userName <;> simp
  rw [Cli.validateV3Required, hlevel, Outcome.expect, Outcome.ok_bind, ← huser]
  split
  · rename_i hmissing
    simp [hmissing, usage, Outcome.fail]
  · rename_i hgiven
    rw [Bool.not_eq_true] at hgiven
    rw [hgiven, eq_self_iff_true, true_and]
    cases level with
    | noAuthNoPriv => simp [Cli.HasSecrets]
    | authNoPriv =>
      simp only [bind_unit_ok_iff, requireSome_ok_iff, requirePassword_ok_iff, Cli.HasSecrets]
    | authPriv =>
      simp only [bind_unit_ok_iff, requireSome_ok_iff, requirePassword_ok_iff, Cli.HasSecrets]

theorem usageOrOk_validateV3Required : UsageOrOk cli.validateV3Required := by
  rw [Cli.validateV3Required, hlevel, Outcome.expect, Outcome.ok_bind]
  split
  · exact usageOrOk_usage _
  · cases level with
    | noAuthNoPriv => exact usageOrOk_ok _
    | authNoPriv =>
      exact (usageOrOk_requireSome _ _ _).bind fun _ => usageOrOk_requirePassword _ _ _
    | authPriv =>
      refine (usageOrOk_requireSome _ _ _).bind fun _ => ?_
      refine (usageOrOk_requirePassword _ _ _).bind fun _ => ?_
      exact (usageOrOk_requireSome _ _ _).bind fun _ => usageOrOk_requirePassword _ _ _

end Required

/-! ## The default level -/

theorem withDefaultLevel_securityLevel (cli : Cli) :
    cli.withDefaultLevel.securityLevel = some (cli.securityLevel.getD .noAuthNoPriv) := by
  unfold Cli.withDefaultLevel
  cases hlevel : cli.securityLevel with
  | none => rfl
  | some level => simp [hlevel]

theorem withDefaultLevel_hasSecrets (cli : Cli) (level : SecurityLevel) :
    cli.withDefaultLevel.HasSecrets level ↔ cli.HasSecrets level := by
  unfold Cli.withDefaultLevel
  split <;> cases level <;> rfl

theorem withDefaultLevel_userName (cli : Cli) : cli.withDefaultLevel.userName = cli.userName := by
  unfold Cli.withDefaultLevel
  split <;> rfl

theorem withDefaultLevel_version (cli : Cli) : cli.withDefaultLevel.version = cli.version := by
  unfold Cli.withDefaultLevel
  split <;> rfl

theorem withDefaultLevel_of_some {cli : Cli} {level : SecurityLevel}
    (h : cli.securityLevel = some level) : cli.withDefaultLevel = cli := by
  rw [Cli.withDefaultLevel, h]
  rfl

theorem validateV3Required_default (cli : Cli) :
    cli.withDefaultLevel.validateV3Required = .ok () ↔ cli.V3Complete := by
  rw [validateV3Required_ok_iff (withDefaultLevel_securityLevel cli), withDefaultLevel_hasSecrets,
    withDefaultLevel_userName]
  exact Iff.rfl

/-! ## Validation -/

theorem usageOrOk_validate (cli : Cli) : UsageOrOk cli.validate := by
  unfold Cli.validate
  split
  · exact usageOrOk_usage _
  · split
    · exact usageOrOk_usage _
    · split
      · exact usageOrOk_usage _
      · refine (usageOrOk_validateSrcAddr cli).bind fun _ => ?_
        refine (usageOrOk_validateV3FlagScope cli).bind fun _ => ?_
        split
        · exact (usageOrOk_validateV3Required (withDefaultLevel_securityLevel cli)).bind
            fun _ => usageOrOk_ok _
        · exact usageOrOk_ok _

theorem Cli.Acceptable.validate {cli : Cli} (h : cli.Acceptable) :
    cli.validate = .ok cli.completed := by
  have hcommunity : ¬ (cli.version ≠ .v3 ∧ cli.community = "") := by
    rintro ⟨hv, hempty⟩
    exact h.community.elim hv fun hne => hne hempty
  rw [Cli.validate, if_neg hcommunity, if_neg h.timeout, if_neg h.srcPort,
    (validateSrcAddr_ok_iff cli).mpr h.srcAddr, Outcome.ok_bind,
    (validateV3FlagScope_ok_iff cli).mpr h.scope, Outcome.ok_bind, Cli.completed]
  split
  · rename_i hv
    simp only [(validateV3Required_default cli).mpr (h.v3 hv), Outcome.ok_bind]
  · rfl

theorem acceptable_of_validate {raw cli : Cli} (h : raw.validate = .ok cli) :
    raw.Acceptable ∧ cli = raw.completed := by
  obtain ⟨hcommunity, htimeout, hport, hsrc, hscope, hrest⟩ := validate_ok h
  have hacceptable : raw.Acceptable := by
    refine ⟨?_, htimeout, hport, (validateSrcAddr_ok_iff raw).mp hsrc,
      (validateV3FlagScope_ok_iff raw).mp hscope, fun hv => ?_⟩
    · by_cases hv : raw.version = .v3
      · exact Or.inl hv
      · exact Or.inr fun hempty => hcommunity ⟨hv, hempty⟩
    · obtain ⟨_, rfl, hreq⟩ | ⟨hne, _⟩ := hrest
      · exact (validateV3Required_default raw).mp hreq
      · exact absurd hv hne
  rw [hacceptable.validate] at h
  exact ⟨hacceptable, (Except.ok.inj h).symm⟩

theorem Cli.Acceptable.completed {cli : Cli} (h : cli.Acceptable) : cli.completed.Acceptable := by
  unfold Cli.completed
  split
  · rename_i hv
    have hlevel := withDefaultLevel_securityLevel cli
    have hv' := (withDefaultLevel_version cli).trans hv
    obtain ⟨⟨user, huser⟩, hsecrets⟩ := h.v3 hv
    constructor
    · exact Or.inl hv'
    · unfold Cli.withDefaultLevel
      split <;> exact h.timeout
    · unfold Cli.withDefaultLevel
      split <;> exact h.srcPort
    · rw [withDefaultLevel_srcAddr]
      exact h.srcAddr
    · exact fun hne => absurd hv' hne
    · intro _
      refine ⟨⟨user, by rw [withDefaultLevel_userName]; exact huser⟩, ?_⟩
      rw [hlevel, Option.getD_some, withDefaultLevel_hasSecrets]
      exact hsecrets
  · exact h

theorem completed_completed (cli : Cli) : cli.completed.completed = cli.completed := by
  unfold Cli.completed
  by_cases hv : cli.version = .v3
  · rw [if_pos hv, withDefaultLevel_version, if_pos hv,
      withDefaultLevel_of_some (withDefaultLevel_securityLevel cli)]
  · rw [if_neg hv, if_neg hv]

/-- **Validation accepts exactly the acceptable command lines and only fills in the level.**
`--src-addr` is acceptable as the dotted quad of an address and in no other spelling, a v3 flag
only under v3, and v3 only with what its level needs; all else is a usage error. To validate
again changes nothing. -/
theorem validate_accepts (raw : Cli) :
    (∀ cli, raw.validate = .ok cli ↔ raw.Acceptable ∧ cli = raw.completed) ∧
    ((∃ cli, raw.validate = .ok cli) ∨ ∃ message, raw.validate = usage message) ∧
    ∀ cli, raw.validate = .ok cli → cli.validate = .ok cli := by
  refine ⟨fun cli => ⟨acceptable_of_validate, ?_⟩, usageOrOk_validate raw, fun cli h => ?_⟩
  · rintro ⟨h, rfl⟩
    exact h.validate
  · obtain ⟨hacceptable, rfl⟩ := acceptable_of_validate h
    rw [hacceptable.completed.validate, completed_completed]

end SnmpTrap
