import SnmpTrap.Payload
import SnmpTrap.VarbindBounds

/-! The positional arguments of a v2-style trap. The two builders check them in code of their own;
past the argument count both are `positionals`. -/
namespace SnmpTrap
open Rust Ber
set_option autoImplicit false
set_option maxHeartbeats 250000
set_option maxRecDepth 120000

/-! ## A value or a usage error -/

def UsageOrOk {α : Type} (x : Run α) : Prop := (∃ a, x = .ok a) ∨ ∃ message, x = usage message

section UsageOrOk
variable {α β : Type}

theorem usageOrOk_ok (a : α) : UsageOrOk (.ok a : Run α) := Or.inl ⟨a, rfl⟩

theorem usageOrOk_usage (message : String) : UsageOrOk (usage message : Run α) :=
  Or.inr ⟨message, rfl⟩

theorem UsageOrOk.bind {x : Run α} {f : α → Run β} (hx : UsageOrOk x)
    (hf : ∀ a, UsageOrOk (f a)) : UsageOrOk (x >>= f) := by
  obtain ⟨a, rfl⟩ | ⟨message, rfl⟩ := hx
  · exact hf a
  · exact usageOrOk_usage message

theorem UsageOrOk.safe {x : Run α} (hx : UsageOrOk x) : x.Safe := by
  obtain ⟨a, rfl⟩ | ⟨message, rfl⟩ := hx
  · exact Outcome.safe_ok a
  · exact Outcome.safe_fail _

theorem usageOrOk_mapErr {ε : Type} {x : Outcome ε α} (hx : x.Safe) (f : ε → Error)
    (hf : ∀ e, ∃ message, f e = .usage message) : UsageOrOk (Outcome.mapErr f x) := by
  obtain ⟨a, rfl⟩ | ⟨e, rfl⟩ := hx.cases
  · exact usageOrOk_ok a
  · obtain ⟨message, hmessage⟩ := hf e
    exact Or.inr ⟨message, congrArg Outcome.fail hmessage⟩

theorem usageOrOk_mapM {f : α → Run β} (xs : List α) (h : ∀ x ∈ xs, UsageOrOk (f x)) :
    UsageOrOk (xs.mapM f) := by
  induction xs with
  | nil => exact usageOrOk_ok _
  | cons x xs ih =>
    rw [Outcome.mapM_cons]
    refine (h x (by simp)).bind fun y => ?_
    exact (ih fun z hz => h z (by simp [hz])).bind fun ys => usageOrOk_ok _

end UsageOrOk

/-! ## Triplets -/

/-- The arguments are triplets of an OID, a letter and a value that parse to the var-binds one by
one. -/
inductive Triplets : List String → List (List UInt32 × VarBindValue) → Prop
  | nil : Triplets [] []
  | cons {oidArg letterArg valueArg : String} {rest : List String} {oid : List UInt32}
      {letter : Char} {value : VarBindValue} {vbs : List (List UInt32 × VarBindValue)}
      (hoid : parseOid oidArg = .ok oid) (hletter : letterArg.toList = [letter])
      (hvalue : parseTypedValue letter valueArg = .ok value) (hrest : Triplets rest vbs) :
      Triplets (oidArg :: letterArg :: valueArg :: rest) ((oid, value) :: vbs)

theorem Triplets.length {rest : List String} {vbs : List (List UInt32 × VarBindValue)}
    (h : Triplets rest vbs) : rest.length = 3 * vbs.length := by
  induction h with
  | nil => rfl
  | cons _ _ _ _ ih =>
    simp only [List.length_cons]
    omega

theorem parseTriplet_ok_iff (oidArg letterArg valueArg : String)
    (vb : List UInt32 × VarBindValue) :
    parseTriplet [oidArg, letterArg, valueArg] = .ok vb ↔
      parseOid oidArg = .ok vb.1 ∧ ∃ letter, letterArg.toList = [letter] ∧
        parseTypedValue letter valueArg = .ok vb.2 := by
  rw [parseTriplet, Outcome.index_eq_ok (by simp), Outcome.ok_bind, Outcome.bind_ok_iff]
  simp only [List.getElem_cons_zero, Outcome.mapErr_ok_iff]
  constructor
  · rintro ⟨oid, hoid, h⟩
    rw [Outcome.index_eq_ok (by simp), Outcome.ok_bind] at h
    simp only [List.getElem_cons_succ, List.getElem_cons_zero] at h
    split at h
    · exact absurd h (Outcome.fail_ne_ok _ _)
    · rename_i letter hletter
      rw [Outcome.index_eq_ok (by simp), Outcome.ok_bind] at h
      obtain ⟨value, hvalue, h⟩ := Outcome.bind_ok_iff.mp h
      cases h
      exact ⟨hoid, letter, hletter, Outcome.mapErr_ok_iff.mp hvalue⟩
    · exact absurd h (Outcome.fail_ne_ok _ _)
  · rintro ⟨hoid, letter, hletter, hvalue⟩
    refine ⟨vb.1, hoid, ?_⟩
    rw [Outcome.index_eq_ok (by simp), Outcome.ok_bind]
    simp only [List.getElem_cons_succ, List.getElem_cons_zero, hletter]
    rw [Outcome.index_eq_ok (by simp), Outcome.ok_bind]
    exact Outcome.bind_ok_iff.mpr ⟨vb.2, Outcome.mapErr_ok_iff.mpr hvalue, rfl⟩

theorem chunks_three (a b c : String) (rest : List String) :
    chunks 3 (a :: b :: c :: rest) = [a, b, c] :: chunks 3 rest :=
  chunks_cons 3 (by decide) _ (by simp)

theorem mapM_parseTriplet_ok_iff : ∀ (rest : List String)
    (vbs : List (List UInt32 × VarBindValue)), rest.length % 3 = 0 →
    ((chunks 3 rest).mapM parseTriplet = .ok vbs ↔ Triplets rest vbs)
  | [], vbs, _ => by
    rw [chunks_nil, Outcome.mapM_nil]
    constructor
    · intro h
      cases h
      exact .nil
    · intro h
      cases h
      rfl
  | [_], _, h => absurd h (by simp)
  | [_, _], _, h => absurd h (by simp)
  | a :: b :: c :: rest, vbs, h => by
    have hrest : rest.length % 3 = 0 := by
      simp only [List.length_cons] at h
      omega
    rw [chunks_three, Outcome.mapM_cons, Outcome.bind_ok_iff]
    constructor
    · rintro ⟨vb, hvb, h⟩
      obtain ⟨hoid, letter, hletter, hvalue⟩ := (parseTriplet_ok_iff a b c vb).mp hvb
      obtain ⟨tail, htail, h⟩ := Outcome.bind_ok_iff.mp h
      cases h
      exact .cons hoid hletter hvalue ((mapM_parseTriplet_ok_iff rest tail hrest).mp htail)
    · rintro (_ | ⟨hoid, hletter, hvalue, htail⟩)
      refine ⟨(_, _), (parseTriplet_ok_iff a b c (_, _)).mpr ⟨hoid, _, hletter, hvalue⟩, ?_⟩
      exact Outcome.bind_ok_iff.mpr ⟨_, (mapM_parseTriplet_ok_iff rest _ hrest).mpr htail, rfl⟩

theorem parseTrailingVarbinds_ok_iff (rest : List String)
    (vbs : List (List UInt32 × VarBindValue)) :
    parseTrailingVarbinds rest = .ok vbs ↔ Triplets rest vbs := by
  unfold parseTrailingVarbinds
  split
  · rename_i hlen
    constructor
    · intro h
      exact absurd h (Outcome.fail_ne_ok _ _)
    · intro h
      have := h.length
      omega
  · rename_i hlen
    exact mapM_parseTriplet_ok_iff rest vbs (by omega)

theorem usageOrOk_parseTriplet (triplet : List String) (h : triplet.length = 3) :
    UsageOrOk (parseTriplet triplet) := by
  rw [parseTriplet, Outcome.index_eq_ok (by omega), Outcome.ok_bind]
  refine (usageOrOk_mapErr (safe_parseOid _) _ fun e => ⟨e, rfl⟩).bind fun oid => ?_
  rw [Outcome.index_eq_ok (by omega), Outcome.ok_bind]
  split
  · exact usageOrOk_usage _
  · rw [Outcome.index_eq_ok (by omega), Outcome.ok_bind]
    refine (usageOrOk_mapErr (safe_parseTypedValue _ _) _ fun e => ?_).bind fun value =>
      usageOrOk_ok _
    cases e with
    | unknownLetter letter => exact ⟨_, rfl⟩
    | badValue letter detail => exact ⟨_, rfl⟩
  · exact usageOrOk_usage _

theorem usageOrOk_parseTrailingVarbinds (rest : List String) :
    UsageOrOk (parseTrailingVarbinds rest) := by
  unfold parseTrailingVarbinds
  split
  · exact usageOrOk_usage _
  · rename_i hlen
    refine usageOrOk_mapM _ fun triplet htriplet => usageOrOk_parseTriplet triplet ?_
    exact length_of_mem_chunks 3 (rest.length / 3) (by decide) rest (by omega) triplet htriplet

/-! ## Reserved OIDs -/

def Reserved (oid : List UInt32) : Prop := oid = sysUptimeOid ∨ oid = snmpTrapOidOid

theorem refuseReserved_ok_iff (vbs : List (List UInt32 × VarBindValue)) :
    refuseReserved vbs = .ok () ↔ ∀ vb ∈ vbs, ¬ Reserved vb.1 := by
  induction vbs with
  | nil => simp [refuseReserved]
  | cons vb vbs ih =>
    rw [refuseReserved, List.forall_mem_cons, Reserved, not_or]
    split
    · rename_i huptime
      simp [huptime, usage, Outcome.fail]
    · rename_i huptime
      split
      · rename_i htrap
        simp [htrap, usage, Outcome.fail]
      · rename_i htrap
        rw [ih]
        simp [huptime, htrap]

theorem usageOrOk_refuseReserved (vbs : List (List UInt32 × VarBindValue)) :
    UsageOrOk (refuseReserved vbs) := by
  induction vbs with
  | nil => exact usageOrOk_ok _
  | cons vb vbs ih =>
    rw [refuseReserved]
    split
    · exact usageOrOk_usage _
    · split
      · exact usageOrOk_usage _
      · exact ih

/-! ## Both builders' positionals -/

/-- The checks from the uptime on. -/
def positionals (world : World) (uptimeArg trapOidArg : String) (rest : List String) :
    Run Positionals := do
  let uptime ← parseUptimeOrDefault world uptimeArg
  let trapOid ← Outcome.mapErr .usage (parseOid trapOidArg)
  let varbinds ← parseTrailingVarbinds rest
  refuseReserved varbinds
  .ok ⟨uptime, trapOid, varbinds⟩

theorem v2cPositionals_cons (world : World) (uptimeArg trapOidArg : String)
    (rest : List String) :
    v2cPositionals world (uptimeArg :: trapOidArg :: rest) =
      positionals world uptimeArg trapOidArg rest := by
  have hrest : (Outcome.sliceFrom (uptimeArg :: trapOidArg :: rest) 2 : Run (List String)) =
      .ok rest := Outcome.sliceFrom_eq_ok (by simp)
  rw [v2cPositionals, if_neg (by simp)]
  simp only [hrest, Outcome.ok_bind]
  rfl

theorem v3Positionals_cons (world : World) (uptimeArg trapOidArg : String)
    (rest : List String) :
    v3Positionals world (uptimeArg :: trapOidArg :: rest) =
      positionals world uptimeArg trapOidArg rest := by
  have hrest : (Outcome.sliceFrom (uptimeArg :: trapOidArg :: rest) 2 : Run (List String)) =
      .ok rest := Outcome.sliceFrom_eq_ok (by simp)
  rw [v3Positionals, if_neg (by simp)]
  simp only [hrest, Outcome.ok_bind]
  rfl

theorem parseUptimeOrDefault_congr {world world' : World}
    (h : world'.hostUptimeCentiseconds = world.hostUptimeCentiseconds) (s : String) :
    parseUptimeOrDefault world' s = parseUptimeOrDefault world s := by
  rw [parseUptimeOrDefault, parseUptimeOrDefault, h]

theorem positionals_congr {world world' : World}
    (h : world'.hostUptimeCentiseconds = world.hostUptimeCentiseconds)
    (uptimeArg trapOidArg : String) (rest : List String) :
    positionals world' uptimeArg trapOidArg rest =
      positionals world uptimeArg trapOidArg rest := by
  rw [positionals, positionals, parseUptimeOrDefault_congr h]

theorem positionals_ok_iff {world : World} {uptimeArg trapOidArg : String} {rest : List String}
    {p : Positionals} :
    positionals world uptimeArg trapOidArg rest = .ok p ↔
      parseUptimeOrDefault world uptimeArg = .ok p.uptime ∧ parseOid trapOidArg = .ok p.trapOid ∧
      Triplets rest p.varbinds ∧ ∀ vb ∈ p.varbinds, ¬ Reserved vb.1 := by
  constructor
  · intro h
    obtain ⟨uptime, huptime, h⟩ := Outcome.bind_ok_iff.mp h
    obtain ⟨trapOid, htrapOid, h⟩ := Outcome.bind_ok_iff.mp h
    obtain ⟨varbinds, hvarbinds, h⟩ := Outcome.bind_ok_iff.mp h
    obtain ⟨_, hreserved, h⟩ := Outcome.bind_ok_iff.mp h
    cases h
    exact ⟨huptime, Outcome.mapErr_ok_iff.mp htrapOid,
      (parseTrailingVarbinds_ok_iff rest varbinds).mp hvarbinds,
      (refuseReserved_ok_iff varbinds).mp hreserved⟩
  · rintro ⟨huptime, htrapOid, htriplets, hreserved⟩
    rw [positionals, huptime, Outcome.ok_bind, Outcome.mapErr_ok_iff.mpr htrapOid,
      Outcome.ok_bind, (parseTrailingVarbinds_ok_iff rest _).mpr htriplets, Outcome.ok_bind,
      (refuseReserved_ok_iff _).mpr hreserved, Outcome.ok_bind]

/-- The uptime is refused as a usage error, or is empty on a host that does not tell its own. -/
theorem parseUptimeOrDefault_cases (world : World) (s : String) :
    UsageOrOk (parseUptimeOrDefault world s) ∨
      s = "" ∧ ∃ e, world.hostUptimeCentiseconds = .error e ∧
        parseUptimeOrDefault world s = Outcome.fail (.other e) := by
  unfold parseUptimeOrDefault
  split
  · rename_i hs
    cases hhost : world.hostUptimeCentiseconds with
    | ok ticks => exact Or.inl (usageOrOk_ok ticks)
    | error e => exact Or.inr ⟨hs, e, rfl, rfl⟩
  · exact Or.inl (usageOrOk_mapErr (Outcome.safe_ofExcept _) _ fun e => ⟨_, rfl⟩)

theorem positionals_cases (world : World) (uptimeArg trapOidArg : String) (rest : List String) :
    UsageOrOk (positionals world uptimeArg trapOidArg rest) ∨
      uptimeArg = "" ∧ ∃ e, world.hostUptimeCentiseconds = .error e ∧
        positionals world uptimeArg trapOidArg rest = Outcome.fail (.other e) := by
  unfold positionals
  obtain huptime | ⟨hs, e, hhost, huptime⟩ := parseUptimeOrDefault_cases world uptimeArg
  · refine Or.inl (huptime.bind fun uptime => ?_)
    refine (usageOrOk_mapErr (safe_parseOid _) _ fun e => ⟨e, rfl⟩).bind fun trapOid => ?_
    refine (usageOrOk_parseTrailingVarbinds rest).bind fun varbinds => ?_
    exact (usageOrOk_refuseReserved varbinds).bind fun _ => usageOrOk_ok _
  · refine Or.inr ⟨hs, e, hhost, ?_⟩
    rw [huptime]
    rfl

theorem safe_positionals (world : World) (uptimeArg trapOidArg : String) (rest : List String) :
    (positionals world uptimeArg trapOidArg rest).Safe := by
  obtain h | ⟨_, e, _, h⟩ := positionals_cases world uptimeArg trapOidArg rest
  · exact h.safe
  · rw [h]
    exact Outcome.safe_fail _

/-! ## In memory -/

theorem Triplets.inMemory {rest : List String} {vbs : List (List UInt32 × VarBindValue)}
    (h : Triplets rest vbs) (hrest : ∀ a ∈ rest, (asBytes a).length < 2 ^ 63) :
    ∀ vb ∈ vbs, InVec vb.1 ∧ vb.2.InMemory := by
  induction h with
  | nil =>
    intro vb hvb
    cases hvb
  | @cons oidArg letterArg valueArg rest oid letter value vbs hoid _ hvalue _ ih =>
    intro vb hvb
    obtain rfl | hvb := List.mem_cons.mp hvb
    · have hlen := parseOid_length hoid
      have harg := hrest oidArg (by simp)
      refine ⟨?_, parseTypedValue_inMemory (hrest valueArg (by simp)) hvalue⟩
      change oid.length < 2 ^ 64
      omega
    · exact ih (fun a ha => hrest a (by simp [ha])) vb hvb

theorem Triplets.bindingsInMemory {rest : List String}
    {vbs : List (List UInt32 × VarBindValue)} (h : Triplets rest vbs)
    (hlen : rest.length < 2 ^ 63) (hrest : ∀ a ∈ rest, (asBytes a).length < 2 ^ 63) :
    BindingsInMemory vbs := by
  refine ⟨?_, h.inMemory hrest⟩
  have := h.length
  unfold InVec
  omega

end SnmpTrap
