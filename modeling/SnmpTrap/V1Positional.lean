import SnmpTrap.NoPanic

/-! The positional arguments of a v1 trap: exactly which of them make a trap, and which. -/
namespace SnmpTrap
open Rust Ber
set_option autoImplicit false
set_option maxHeartbeats 250000
set_option maxRecDepth 120000

/-- The checks past the argument count. -/
def v1Checks (world : World) (cli : Cli) (dst : SocketAddrV4)
    (enterpriseArg agentArg genericArg specificArg uptimeArg : String) (rest : List String) :
    Run V1Trap := do
  let enterprise ← v1Enterprise enterpriseArg
  let agentAddr ← resolveV1AgentAddr world agentArg cli.srcAddrV4 dst
  let generic ← Outcome.mapErr
    (fun e => .usage s!"invalid generic-trap '{genericArg}': {IntErrorKind.text e}")
    (Outcome.ofExcept (parseI32 genericArg.toList))
  if ¬ (0 ≤ generic ∧ generic ≤ 6) then
    usage s!"generic-trap must be 0..=6, got {generic.toInt}"
  else do
    let specific ← Outcome.mapErr
      (fun e => .usage s!"invalid specific-trap '{specificArg}': {IntErrorKind.text e}")
      (Outcome.ofExcept (parseI32 specificArg.toList))
    if specific < 0 then
      usage s!"specific-trap must be non-negative (RFC 1157), got {specific.toInt}"
    else do
      let uptime ← parseUptimeOrDefault world uptimeArg
      let varbinds ← parseTrailingVarbinds rest
      V1Trap.new (asBytes cli.community) enterprise agentAddr generic specific uptime varbinds

theorem length_lt_five_or_cons (args : List String) : args.length < 5 ∨
    ∃ a b c d e rest, args = a :: b :: c :: d :: e :: rest := by
  rcases args with _ | ⟨a, _ | ⟨b, _ | ⟨c, _ | ⟨d, _ | ⟨e, rest⟩⟩⟩⟩⟩
  · exact Or.inl (by decide)
  · exact Or.inl (by simp)
  · exact Or.inl (by simp)
  · exact Or.inl (by simp)
  · exact Or.inl (by simp)
  · exact Or.inr ⟨a, b, c, d, e, rest, rfl⟩

section Args
variable {world : World} {cli : Cli} {dst : SocketAddrV4}
  {enterpriseArg agentArg genericArg specificArg uptimeArg : String} {rest : List String}

theorem assembleV1_cons (hargs : cli.trapArgs =
    enterpriseArg :: agentArg :: genericArg :: specificArg :: uptimeArg :: rest) :
    assembleV1 world cli dst = v1Checks world cli dst enterpriseArg agentArg genericArg
      specificArg uptimeArg rest := by
  have hrest : (Outcome.sliceFrom cli.trapArgs 5 : Run (List String)) = .ok rest := by
    rw [hargs]
    exact Outcome.sliceFrom_eq_ok (by simp)
  unfold assembleV1
  simp only [hrest]
  rw [hargs, if_neg (by simp)]
  rfl

/-- The trap is the one that the arguments say: an empty enterprise stands for the default, an
empty agent address for that of `--src-addr` or of the interface, an empty uptime for the
host's. -/
structure V1Args (world : World) (cli : Cli) (dst : SocketAddrV4) (t : V1Trap)
    (enterpriseArg agentArg genericArg specificArg uptimeArg : String) (rest : List String) :
    Prop where
  args : cli.trapArgs =
    enterpriseArg :: agentArg :: genericArg :: specificArg :: uptimeArg :: rest
  community : t.community = asBytes cli.community
  enterprise : v1Enterprise enterpriseArg = .ok t.enterprise
  agentAddr : resolveV1AgentAddr world agentArg cli.srcAddrV4 dst = .ok t.agentAddr
  generic : parseI32 genericArg.toList = .ok t.generic
  genericRange : 0 ≤ t.generic ∧ t.generic ≤ 6
  specific : parseI32 specificArg.toList = .ok t.specific
  specificRange : 0 ≤ t.specific
  uptime : parseUptimeOrDefault world uptimeArg = .ok t.uptimeCentiseconds
  varbinds : Triplets rest t.varbinds

theorem V1Trap.new_ok {community : List UInt8} {enterprise : List UInt32} {agentAddr : Ipv4Addr}
    {generic specific : Int32} {uptime : UInt32}
    {varbinds : List (List UInt32 × VarBindValue)} {t : V1Trap}
    (h : V1Trap.new community enterprise agentAddr generic specific uptime varbinds = .ok t) :
    t.community = community ∧ t.enterprise = enterprise ∧ t.agentAddr = agentAddr ∧
      t.generic = generic ∧ t.specific = specific ∧ t.uptimeCentiseconds = uptime ∧
      t.varbinds = varbinds := by
  unfold V1Trap.new at h
  split at h
  · cases h
    exact ⟨rfl, rfl, rfl, rfl, rfl, rfl, rfl⟩
  · cases h

theorem v1Checks_ok {t : V1Trap} (hargs : cli.trapArgs =
      enterpriseArg :: agentArg :: genericArg :: specificArg :: uptimeArg :: rest)
    (h : v1Checks world cli dst enterpriseArg agentArg genericArg specificArg uptimeArg rest =
      .ok t) :
    V1Args world cli dst t enterpriseArg agentArg genericArg specificArg uptimeArg rest := by
  obtain ⟨enterprise, henterprise, h⟩ := Outcome.bind_ok_iff.mp h
  obtain ⟨agentAddr, hagent, h⟩ := Outcome.bind_ok_iff.mp h
  obtain ⟨generic, hgeneric, h⟩ := Outcome.bind_ok_iff.mp h
  split at h
  · exact absurd h (Outcome.fail_ne_ok _ _)
  · rename_i hrange
    obtain ⟨specific, hspecific, h⟩ := Outcome.bind_ok_iff.mp h
    split at h
    · exact absurd h (Outcome.fail_ne_ok _ _)
    · rename_i hneg
      obtain ⟨uptime, huptime, h⟩ := Outcome.bind_ok_iff.mp h
      obtain ⟨varbinds, hvarbinds, h⟩ := Outcome.bind_ok_iff.mp h
      obtain ⟨hcommunity, rfl, rfl, rfl, rfl, rfl, rfl⟩ := V1Trap.new_ok h
      rw [Outcome.mapErr_ok_iff, Outcome.ofExcept_ok_iff] at hgeneric hspecific
      exact ⟨hargs, hcommunity, henterprise, hagent, hgeneric, not_not.mp hrange, hspecific,
        Int32.not_lt.mp hneg, huptime, (parseTrailingVarbinds_ok_iff rest _).mp hvarbinds⟩

theorem V1Args.assemble {t : V1Trap} (h : V1Args world cli dst t enterpriseArg agentArg genericArg
    specificArg uptimeArg rest) : assembleV1 world cli dst = .ok t := by
  rw [assembleV1_cons h.args, v1Checks, h.enterprise, Outcome.ok_bind, h.agentAddr,
    Outcome.ok_bind, h.generic]
  simp only [Outcome.ofExcept, Outcome.mapErr, Outcome.ok_bind]
  rw [if_neg (not_not.mpr h.genericRange), h.specific]
  simp only [Outcome.ok_bind]
  rw [if_neg (Int32.not_lt.mpr h.specificRange), h.uptime, Outcome.ok_bind,
    (parseTrailingVarbinds_ok_iff rest t.varbinds).mpr h.varbinds, Outcome.ok_bind, ← h.community]
  exact dif_pos t.inMemory

end Args

/-- The builder makes a trap of exactly the arguments that say it. -/
theorem assembleV1_ok_iff {world : World} {cli : Cli} {dst : SocketAddrV4} {t : V1Trap} :
    assembleV1 world cli dst = .ok t ↔ ∃ enterpriseArg agentArg genericArg specificArg uptimeArg
      rest, V1Args world cli dst t enterpriseArg agentArg genericArg specificArg uptimeArg
        rest := by
  constructor
  · intro h
    obtain hlen | ⟨a, b, c, d, e, rest, hargs⟩ := length_lt_five_or_cons cli.trapArgs
    · unfold assembleV1 at h
      simp only at h
      rw [if_pos hlen] at h
      exact absurd h (Outcome.fail_ne_ok _ _)
    · rw [assembleV1_cons hargs] at h
      exact ⟨a, b, c, d, e, rest, v1Checks_ok hargs h⟩
  · rintro ⟨_, _, _, _, _, _, h⟩
    exact h.assemble

end SnmpTrap
