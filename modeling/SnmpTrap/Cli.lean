import SnmpTrap.Usm

/-! The parsed command line (`cli.rs`) and `Cli::validate`. What clap does before `validate` is
not here: a `Cli` is any value of the parsed type. -/
namespace SnmpTrap
open Rust
set_option autoImplicit false
set_option maxHeartbeats 250000
set_option maxRecDepth 120000

inductive SnmpVersion where
  | v1
  | v2c
  | v3
deriving DecidableEq, Repr

inductive SecurityLevel where
  | noAuthNoPriv
  | authNoPriv
  | authPriv
deriving DecidableEq, Repr

/-- The fields that the builders and the transports read. A string or a vector takes less than
`2 ^ 63` octets of memory. -/
structure Cli where
  version : SnmpVersion
  community : String
  retries : UInt8
  timeout : UInt32
  srcAddr : Option String
  srcPort : Option UInt16
  securityLevel : Option SecurityLevel
  userName : Option String
  authProtocol : Option AuthProtocol
  authPassword : Option String
  privProtocol : Option PrivProtocol
  privPassword : Option String
  contextEngineId : Option String
  authoritativeEngineId : Option String
  contextName : Option String
  trapArgs : List String
  inMemory : (asBytes community).length < 2 ^ 63 ∧ trapArgs.length < 2 ^ 63 ∧
    ∀ a ∈ trapArgs, (asBytes a).length < 2 ^ 63

def Cli.srcAddrV4 (cli : Cli) : Option Ipv4Addr := cli.srcAddr.bind parseIpv4Addr

/-! ## Validation -/

/-- The loop over the flag table: the first flag present is refused. -/
def refusePresent (vLabel : String) : List (String × Bool) → Run Unit
  | [] => .ok ()
  | (flag, present) :: pairs =>
    if present then usage s!"{flag} is an SNMPv3 flag and is not valid with {vLabel}"
    else refusePresent vLabel pairs

def Cli.validateV3FlagScope (cli : Cli) : Run Unit :=
  match cli.version with
  | .v3 => .ok ()
  | version =>
    let vLabel := if version = .v1 then "-v 1" else "-v 2c"
    refusePresent vLabel
      [("-l/--security-level", cli.securityLevel.isSome),
        ("-u/--user", cli.userName.isSome),
        ("-a/--auth-protocol", cli.authProtocol.isSome),
        ("-A/--auth-password", cli.authPassword.isSome),
        ("-x/--priv-protocol", cli.privProtocol.isSome),
        ("-X/--priv-password", cli.privPassword.isSome),
        ("-e/--context-engine-id", cli.contextEngineId.isSome),
        ("-E/--authoritative-engine-id", cli.authoritativeEngineId.isSome),
        ("-n/--context-name", cli.contextName.isSome)]

def requireSome {α : Type} (value : Option α) (flag level : String) : Run Unit :=
  match value with
  | none => usage s!"{flag} is required with -l {level}"
  | some _ => .ok ()

def requirePassword (value : Option String) (flag level : String) : Run Unit :=
  match value with
  | none => usage s!"{flag} is required with -l {level}"
  | some s =>
    if s = "" then usage s!"{flag} must be a non-empty password"
    else if (asBytes s).length < minUsmPasswordLen then
      usage (s!"{flag} must be at least {minUsmPasswordLen} characters (RFC 3414 §11.2); " ++
        s!"got {(asBytes s).length}")
    else .ok ()

def Cli.validateV3Required (cli : Cli) : Run Unit := do
  let level ← Outcome.expect "defaulted in validate()" cli.securityLevel
  if cli.userName.all (· = "") then
    usage "-u <USER> is required with -v 3 (USM identifies the sender by user name)"
  else
    match level with
    | .noAuthNoPriv => .ok ()
    | .authNoPriv => do
      requireSome cli.authProtocol "-a" "authNoPriv"
      requirePassword cli.authPassword "-A" "authNoPriv"
    | .authPriv => do
      requireSome cli.authProtocol "-a" "authPriv"
      requirePassword cli.authPassword "-A" "authPriv"
      requireSome cli.privProtocol "-x" "authPriv"
      requirePassword cli.privPassword "-X" "authPriv"

def Cli.validateSrcAddr (cli : Cli) : Run Unit :=
  match cli.srcAddr with
  | none => .ok ()
  | some s =>
    match parseIpAddr s with
    | some (.v4 _) => .ok ()
    | some (.v6 _) =>
      usage "--src-addr accepts IPv4 only; IPv6 source spoofing is not supported"
    | none => usage s!"--src-addr must be a valid IPv4 literal, got '{s}'"

def Cli.withDefaultLevel (cli : Cli) : Cli :=
  if cli.securityLevel.isNone then { cli with securityLevel := some .noAuthNoPriv } else cli

def Cli.validate (cli : Cli) : Run Cli :=
  if cli.version ≠ .v3 ∧ cli.community = "" then
    usage "community string (-c) must be non-empty for SNMPv1 and SNMPv2c"
  else if cli.timeout = 0 then usage "--timeout must be > 0 (in seconds)"
  else if cli.srcPort = some 0 then
    usage ("--src-port 0 is not allowed; on UDP it means 'kernel-selected ephemeral'. " ++
      "Omit the flag to get an ephemeral port.")
  else do
    cli.validateSrcAddr
    cli.validateV3FlagScope
    if cli.version = .v3 then do
      let cli := cli.withDefaultLevel
      cli.validateV3Required
      .ok cli
    else .ok cli

/-! ## What a validated command line is -/

def Cli.Validated (cli : Cli) : Prop := ∃ raw : Cli, raw.validate = .ok cli

theorem requireSome_ok_iff {α : Type} {value : Option α} {flag level : String} {u : Unit} :
    requireSome value flag level = .ok u ↔ ∃ a, value = some a := by
  cases value <;> simp [requireSome, usage, Outcome.fail]

theorem requirePassword_ok_iff {value : Option String} {flag level : String} {u : Unit} :
    requirePassword value flag level = .ok u ↔
      ∃ s, value = some s ∧ minUsmPasswordLen ≤ (asBytes s).length := by
  cases value with
  | none => simp [requirePassword, usage, Outcome.fail]
  | some s =>
    rw [requirePassword]
    split
    · rename_i hs
      subst hs
      simp [usage, Outcome.fail, asBytes, encodeUtf8, minUsmPasswordLen]
    · split
      · rename_i hlen
        simp [usage, Outcome.fail, Nat.not_le.mpr hlen]
      · rename_i hlen
        simp [Nat.le_of_not_lt hlen]

/-- What the conditional requirements establish for a level. -/
def Cli.HasSecrets (cli : Cli) : SecurityLevel → Prop
  | .noAuthNoPriv => True
  | .authNoPriv =>
    (∃ p, cli.authProtocol = some p) ∧
      ∃ s, cli.authPassword = some s ∧ minUsmPasswordLen ≤ (asBytes s).length
  | .authPriv =>
    (∃ p, cli.authProtocol = some p) ∧
      (∃ s, cli.authPassword = some s ∧ minUsmPasswordLen ≤ (asBytes s).length) ∧
      (∃ p, cli.privProtocol = some p) ∧
      ∃ s, cli.privPassword = some s ∧ minUsmPasswordLen ≤ (asBytes s).length

theorem validateV3Required_ok {cli : Cli} {u : Unit} (h : cli.validateV3Required = .ok u) :
    ∃ level user, cli.securityLevel = some level ∧ cli.userName = some user ∧
      cli.HasSecrets level := by
  obtain ⟨level, hlevel, h⟩ := Outcome.bind_ok_iff.mp h
  rw [Outcome.expect_ok_iff] at hlevel
  split at h
  · exact absurd h (Outcome.fail_ne_ok _ _)
  · rename_i huser
    obtain ⟨user, huser⟩ : ∃ user, cli.userName = some user := by
      cases hu : cli.userName with
      | none => simp [hu] at huser
      | some user => exact ⟨user, rfl⟩
    refine ⟨level, user, hlevel, huser, ?_⟩
    cases level with
    | noAuthNoPriv => trivial
    | authNoPriv =>
      obtain ⟨_, hproto, h⟩ := Outcome.bind_ok_iff.mp h
      exact ⟨requireSome_ok_iff.mp hproto, requirePassword_ok_iff.mp h⟩
    | authPriv =>
      obtain ⟨_, hproto, h⟩ := Outcome.bind_ok_iff.mp h
      obtain ⟨_, hpassword, h⟩ := Outcome.bind_ok_iff.mp h
      obtain ⟨_, hpriv, h⟩ := Outcome.bind_ok_iff.mp h
      exact ⟨requireSome_ok_iff.mp hproto, requirePassword_ok_iff.mp hpassword,
        requireSome_ok_iff.mp hpriv, requirePassword_ok_iff.mp h⟩

/-- Everything `validate` lets through, read off its branches in order. -/
theorem validate_ok {raw cli : Cli} (h : raw.validate = .ok cli) :
    ¬ (raw.version ≠ .v3 ∧ raw.community = "") ∧ raw.timeout ≠ 0 ∧ raw.srcPort ≠ some 0 ∧
      raw.validateSrcAddr = .ok () ∧ raw.validateV3FlagScope = .ok () ∧
      ((raw.version = .v3 ∧ cli = raw.withDefaultLevel ∧ cli.validateV3Required = .ok ()) ∨
        (raw.version ≠ .v3 ∧ cli = raw)) := by
  unfold Cli.validate at h
  split at h
  · exact absurd h (Outcome.fail_ne_ok _ _)
  · rename_i hcommunity
    split at h
    · exact absurd h (Outcome.fail_ne_ok _ _)
    · rename_i htimeout
      split at h
      · exact absurd h (Outcome.fail_ne_ok _ _)
      · rename_i hport
        obtain ⟨_, hsrc, h⟩ := Outcome.bind_ok_iff.mp h
        obtain ⟨_, hscope, h⟩ := Outcome.bind_ok_iff.mp h
        refine ⟨hcommunity, htimeout, hport, hsrc, hscope, ?_⟩
        split at h
        · rename_i hv
          obtain ⟨_, hreq, h⟩ := Outcome.bind_ok_iff.mp h
          cases h
          exact Or.inl ⟨hv, rfl, hreq⟩
        · rename_i hv
          cases h
          exact Or.inr ⟨hv, rfl⟩

@[simp] theorem withDefaultLevel_srcAddr (cli : Cli) :
    cli.withDefaultLevel.srcAddr = cli.srcAddr := by
  unfold Cli.withDefaultLevel
  split <;> rfl

theorem Cli.Validated.v3 {cli : Cli} (h : cli.Validated) (hv : cli.version = .v3) :
    ∃ level user, cli.securityLevel = some level ∧ cli.userName = some user ∧
      cli.HasSecrets level := by
  obtain ⟨raw, h⟩ := h
  obtain ⟨_, _, _, _, _, h⟩ := validate_ok h
  obtain ⟨_, _, hreq⟩ | ⟨hne, rfl⟩ := h
  · exact validateV3Required_ok hreq
  · exact absurd hv hne

end SnmpTrap
