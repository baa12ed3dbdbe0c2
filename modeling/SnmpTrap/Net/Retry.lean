import Mathlib

/-! Calls that are made again until one succeeds or a budget of failures is used up; an answer
that only says that the call was interrupted costs nothing. `retry` is the policy, `LastCall` says
without it at which call it ends. -/
namespace SnmpTrap.Net
set_option autoImplicit false
set_option maxHeartbeats 250000
set_option maxRecDepth 120000
variable {ε : Type} {interrupted : ε → Bool}

/-! ## Answers -/

def settled (interrupted : ε → Bool) : Except ε Unit → Bool
  | .ok _ => true
  | .error e => !interrupted e

/-- The answers to successive calls: from no call on are all of them interruptions. -/
structure Replies (interrupted : ε → Bool) where
  reply : ℕ → Except ε Unit
  settles : ∀ i, ∃ k, settled interrupted (reply (i + k)) = true

namespace Replies
variable (r : Replies interrupted)

def Sent (i : ℕ) : Prop := r.reply i = .ok ()

/-- An error that is no interruption. -/
def Failed (i : ℕ) : Prop := ∃ e, r.reply i = .error e ∧ interrupted e = false

def Interrupted (i : ℕ) : Prop := ∃ e, r.reply i = .error e ∧ interrupted e = true

instance instDecidablePredFailed : DecidablePred r.Failed := fun i =>
  match h : r.reply i with
  | .ok _ => isFalse fun ⟨_, he, _⟩ => by rw [h] at he; cases he
  | .error e => decidable_of_iff (interrupted e = false)
      ⟨fun he => ⟨e, h, he⟩, fun ⟨e', he', hi⟩ => by rw [h] at he'; cases he'; exact hi⟩

/-- How many calls there are from call `i` until one that is not interrupted. -/
def wait (i : ℕ) : ℕ := Nat.find (r.settles i)

theorem wait_succ_lt {i : ℕ} {e : ε} (h : r.reply i = .error e) (he : interrupted e = true) :
    r.wait (i + 1) < r.wait i := by
  have hsettled := Nat.find_spec (r.settles i)
  cases hw : Nat.find (r.settles i) with
  | zero =>
    rw [hw, Nat.add_zero, h, settled, he] at hsettled
    cases hsettled
  | succ k =>
    rw [hw, ← Nat.add_assoc, Nat.add_right_comm] at hsettled
    rw [wait, wait, hw]
    exact Nat.lt_succ_of_le (Nat.find_min' _ hsettled)

/-! ## The policy -/

/-- The number of calls from call `i` on and how they end: the last failure, if there is one,
where the budget is used up. -/
def retry (i budget : ℕ) (last : Option ε) : ℕ × Except (Option ε) Unit :=
  match budget with
  | 0 => (0, .error last)
  | left + 1 =>
    match h : r.reply i with
    | .ok _ => (1, .ok ())
    | .error e =>
      if he : interrupted e = true then
        let rest := retry (i + 1) (left + 1) last
        (rest.1 + 1, rest.2)
      else
        let rest := retry (i + 1) left (some e)
        (rest.1 + 1, rest.2)
termination_by (budget, r.wait i)
decreasing_by
  · exact Prod.Lex.right _ (r.wait_succ_lt h he)
  · exact Prod.Lex.left _ _ (Nat.lt_succ_self left)

theorem retry_zero (i : ℕ) (last : Option ε) : r.retry i 0 last = (0, .error last) := by
  rw [retry]

/-- One step of the policy. -/
theorem retry_succ (i left : ℕ) (last : Option ε) : r.retry i (left + 1) last =
    match r.reply i with
    | .ok _ => (1, .ok ())
    | .error e =>
      if interrupted e = true then
        ((r.retry (i + 1) (left + 1) last).1 + 1, (r.retry (i + 1) (left + 1) last).2)
      else ((r.retry (i + 1) left (some e)).1 + 1, (r.retry (i + 1) left (some e)).2) := by
  rw [retry]
  split
  · rename_i h
    rw [h]
  · rename_i h
    rw [h]
    exact dite_eq_ite

section Step
variable {r} {i : ℕ} {e : ε}

theorem retry_sent (h : r.reply i = .ok ()) (left : ℕ) (last : Option ε) :
    r.retry i (left + 1) last = (1, .ok ()) := by
  rw [retry_succ, h]

theorem retry_interrupted (h : r.reply i = .error e) (he : interrupted e = true) (left : ℕ)
    (last : Option ε) : r.retry i (left + 1) last =
      ((r.retry (i + 1) (left + 1) last).1 + 1, (r.retry (i + 1) (left + 1) last).2) := by
  rw [retry_succ, h]
  exact if_pos he

theorem retry_failed (h : r.reply i = .error e) (he : interrupted e = false) (left : ℕ)
    (last : Option ε) : r.retry i (left + 1) last =
      ((r.retry (i + 1) left (some e)).1 + 1, (r.retry (i + 1) left (some e)).2) := by
  rw [retry_succ, h]
  exact if_neg (by simp [he])

end Step

/-! ## Where it ends -/

/-- The failures among the first `n` calls. -/
def failures (n : ℕ) : ℕ := Nat.count r.Failed n

/-- Call `n` is the first that succeeds, or the failure that uses up the budget. -/
structure LastCall (budget n : ℕ) : Prop where
  noneSent : ∀ k < n, ¬ r.Sent k
  within : r.failures n < budget
  ends : r.Sent n ∨ (r.Failed n ∧ r.failures n + 1 = budget)

variable {r}

theorem failures_succ_of_failed {i : ℕ} (h : r.Failed i) :
    r.failures (i + 1) = r.failures i + 1 := by
  rw [failures, Nat.count_succ, if_pos h, failures]

theorem failures_succ_of_not_failed {i : ℕ} (h : ¬ r.Failed i) :
    r.failures (i + 1) = r.failures i := by
  rw [failures, Nat.count_succ, if_neg h, Nat.add_zero, failures]

theorem failures_mono {m n : ℕ} (h : m ≤ n) : r.failures m ≤ r.failures n := Nat.count_monotone _ h

theorem not_sent_succ {i : ℕ} {e : ε} (hsent : ∀ k < i, ¬ r.Sent k) (h : r.reply i = .error e) :
    ∀ k < i + 1, ¬ r.Sent k := by
  intro k hk hs
  obtain hlt | rfl := Nat.lt_succ_iff_lt_or_eq.mp hk
  · exact hsent k hlt hs
  · rw [Sent, h] at hs
    cases hs

/-- The loop invariant: no call has succeeded, and the failures so far with the budget left make
up the budget. -/
theorem retry_eq (i left : ℕ) (last : Option ε) (hleft : 0 < left)
    (hsent : ∀ k < i, ¬ r.Sent k) :
    ∃ n, i ≤ n ∧ r.LastCall (r.failures i + left) n ∧
      r.retry i left last = (n + 1 - i, (r.reply n).mapError some) := by
  induction i, left, last using retry.induct r with
  | case1 i last => exact absurd hleft (lt_irrefl 0)
  | case2 i last left u h =>
    refine ⟨i, le_rfl, ⟨hsent, by omega, Or.inl h⟩, ?_⟩
    rw [retry_sent h, h, Nat.add_sub_cancel_left]
    rfl
  | case3 i last left e h he ih =>
    have hfailures : r.failures (i + 1) = r.failures i := by
      apply failures_succ_of_not_failed
      rintro ⟨e', he', hnot⟩
      rw [h] at he'
      cases he'
      rw [he] at hnot
      cases hnot
    obtain ⟨n, hin, hlast, heq⟩ := ih hleft (not_sent_succ hsent h)
    rw [hfailures] at hlast
    refine ⟨n, by omega, hlast, ?_⟩
    rw [retry_interrupted h he, heq, show n + 1 - (i + 1) + 1 = n + 1 - i by omega]
  | case4 i last left e h he ih =>
    have he' : interrupted e = false := by simpa using he
    have hfailures := failures_succ_of_failed (r := r) ⟨e, h, he'⟩
    obtain rfl | hpos := Nat.eq_zero_or_pos left
    · refine ⟨i, le_rfl, ⟨hsent, by omega, Or.inr ⟨⟨e, h, he'⟩, rfl⟩⟩, ?_⟩
      rw [retry_failed h he', retry_zero, h, Nat.add_sub_cancel_left]
      rfl
    · obtain ⟨n, hin, hlast, heq⟩ := ih hpos (not_sent_succ hsent h)
      rw [hfailures, Nat.add_assoc, Nat.add_comm 1 left] at hlast
      refine ⟨n, by omega, hlast, ?_⟩
      rw [retry_failed h he', heq, show n + 1 - (i + 1) + 1 = n + 1 - i by omega]

theorem retry_start {budget : ℕ} (h : 0 < budget) :
    ∃ n, r.LastCall budget n ∧
      r.retry 0 budget none = (n + 1, (r.reply n).mapError some) := by
  obtain ⟨n, _, hlast, heq⟩ := retry_eq (r := r) 0 budget none h (by simp)
  rw [failures, Nat.count_zero, Nat.zero_add] at hlast
  exact ⟨n, hlast, heq⟩

namespace LastCall
variable {budget n : ℕ} (h : r.LastCall budget n)
include h

/-- The last call succeeds exactly when some call does before the budget is used up. -/
theorem sent_iff : r.Sent n ↔ ∃ k, r.Sent k ∧ r.failures k < budget := by
  constructor
  · intro hs
    exact ⟨n, hs, h.within⟩
  · rintro ⟨k, hk, hlt⟩
    obtain hs | ⟨hf, hn⟩ := h.ends
    · exact hs
    · by_cases hkn : k ≤ n
      · obtain hkn | rfl := Nat.lt_or_eq_of_le hkn
        · exact absurd hk (h.noneSent k hkn)
        · exact hk
      · have hmono := failures_mono (r := r) (show n + 1 ≤ k by omega)
        rw [failures_succ_of_failed hf] at hmono
        omega

theorem failures_le : r.failures (n + 1) ≤ budget := by
  have hlt := h.within
  obtain hs | ⟨hf, hn⟩ := h.ends
  · rw [failures_succ_of_not_failed]
    · omega
    · rintro ⟨e, he, _⟩
      rw [Sent, he] at hs
      cases hs
  · rw [failures_succ_of_failed hf]
    omega

/-- Where no call succeeds in time the last one is the failure that uses up the budget. -/
theorem failed_of_not_sent (hs : ¬ r.Sent n) : ∃ e, r.reply n = .error e ∧
    interrupted e = false ∧ r.failures n + 1 = budget := by
  obtain hsent | ⟨⟨e, he, hi⟩, hn⟩ := h.ends
  · exact absurd hsent hs
  · exact ⟨e, he, hi, hn⟩

theorem unique {m : ℕ} (h' : r.LastCall budget m) : n = m := by
  have aux : ∀ {a b : ℕ}, r.LastCall budget a → r.LastCall budget b → ¬ a < b := by
    intro a b ha hb hlt
    obtain hs | ⟨hf, ha⟩ := ha.ends
    · exact hb.noneSent a hlt hs
    · have hmono := failures_mono (r := r) (Nat.succ_le_of_lt hlt)
      have hwithin := hb.within
      rw [failures_succ_of_failed hf] at hmono
      omega
  exact Nat.le_antisymm (Nat.le_of_not_lt (aux h' h)) (Nat.le_of_not_lt (aux h h'))

end LastCall

/-! ## Loops that follow the policy -/

/-- A loop that makes `call i` as call number `i` and ends with `stop` takes the policy's steps. -/
structure Follows {κ γ : Type} (r : Replies interrupted)
    (loop : ℕ → ℕ → Option ε → List κ × γ) (call : ℕ → κ)
    (stop : Except (Option ε) Unit → γ) : Prop where
  exhausted : ∀ i last, loop i 0 last = ([], stop (.error last))
  sent : ∀ i left last, r.reply i = .ok () → loop i (left + 1) last = ([call i], stop (.ok ()))
  again : ∀ i left last e, r.reply i = .error e → interrupted e = true →
    loop i (left + 1) last =
      (call i :: (loop (i + 1) (left + 1) last).1, (loop (i + 1) (left + 1) last).2)
  failed : ∀ i left last e, r.reply i = .error e → interrupted e = false →
    loop i (left + 1) last =
      (call i :: (loop (i + 1) left (some e)).1, (loop (i + 1) left (some e)).2)

theorem Follows.eq {κ γ : Type} {loop : ℕ → ℕ → Option ε → List κ × γ} {call : ℕ → κ}
    {stop : Except (Option ε) Unit → γ} (h : r.Follows loop call stop) (i budget : ℕ)
    (last : Option ε) : loop i budget last =
      ((List.range' i (r.retry i budget last).1).map call, stop (r.retry i budget last).2) := by
  induction i, budget, last using retry.induct r with
  | case1 i last => rw [h.exhausted, retry_zero, List.range'_zero, List.map_nil]
  | case2 i last left u hr =>
    rw [h.sent i left last hr, retry_sent hr]
    rfl
  | case3 i last left e hr he ih =>
    rw [h.again i left last e hr he, retry_interrupted hr he, ih, List.range'_succ,
      List.map_cons]
  | case4 i last left e hr he ih =>
    have he' : interrupted e = false := by simpa using he
    rw [h.failed i left last e hr he', retry_failed hr he', ih, List.range'_succ, List.map_cons]

/-- From the start, with a budget, the loop makes calls up to the last call. -/
theorem Follows.start {κ γ : Type} {loop : ℕ → ℕ → Option ε → List κ × γ} {call : ℕ → κ}
    {stop : Except (Option ε) Unit → γ} (h : r.Follows loop call stop) {budget : ℕ}
    (hbudget : 0 < budget) :
    ∃ n, r.LastCall budget n ∧ loop 0 budget none =
      ((List.range (n + 1)).map call, stop ((r.reply n).mapError some)) := by
  obtain ⟨n, hlast, heq⟩ := retry_start (r := r) hbudget
  refine ⟨n, hlast, ?_⟩
  rw [h.eq, heq, List.range_eq_range']

end Replies
end SnmpTrap.Net
