import Mathlib.Algebra.Order.Ring.Int

/-! The time window of RFC 3414 (3.2, step 7b): what a receiver keeps of an engine's clock, and
which messages it takes by it. Its own clock is in nanoseconds, an engine's in seconds. -/
namespace SnmpTrap.Net
set_option autoImplicit false
set_option maxHeartbeats 250000
set_option maxRecDepth 120000

/-- An engine's boots, the latest time it has told, and when that was heard. -/
structure Notion where
  boots : ℕ
  latest : ℕ
  heard : ℕ
deriving DecidableEq

namespace Notion

/-- Never heard of. -/
def unheard : Notion := ⟨0, 0, 0⟩

/-- What the engine's clock shows by now, as far as the local one tells. -/
def time (n : Notion) (now : ℕ) : ℕ := n.latest + (now - n.heard) / 10 ^ 9

/-- A message that is ahead of all before sets the notion. -/
def update (n : Notion) (boots time now : ℕ) : Notion :=
  if n.boots < boots ∨ n.boots = boots ∧ n.latest < time then ⟨boots, time, now⟩ else n

/-- Boots not used up, none of an earlier boot, and no more than 150 seconds behind. -/
def InWindow (n : Notion) (boots time now : ℕ) : Prop :=
  n.boots ≠ 2 ^ 31 - 1 ∧ n.boots ≤ boots ∧ (n.boots = boots → n.time now ≤ time + 150)

instance decidableInWindow (n : Notion) (boots time now : ℕ) :
    Decidable (n.InWindow boots time now) :=
  inferInstanceAs (Decidable (_ ∧ _ ∧ (_ → _)))

/-! ## One clock, any order -/

/-- A message sent when the engine's clock had run since `start`, and received `lag` or up to 150
seconds more after. -/
structure Sent (start : ℕ) (lag : ℤ) (time now : ℕ) : Prop where
  exists_sent : ∃ sent, start ≤ sent ∧ time = (sent - start) / 10 ^ 9 ∧ sent + lag ≤ now ∧
    now ≤ sent + lag + 150 * 10 ^ 9

/-- The notion is of an earlier boot, or of a message received by now. -/
def Follows (start : ℕ) (lag : ℤ) (boots now : ℕ) (n : Notion) : Prop :=
  n.boots < boots ∨ n.boots = boots ∧ n.heard ≤ now ∧ Sent start lag n.latest n.heard

theorem Follows.later {start : ℕ} {lag : ℤ} {boots now now' : ℕ} {n : Notion}
    (h : Follows start lag boots now n) (hle : now ≤ now') : Follows start lag boots now' n := by
  obtain h | ⟨hboots, hheard, hsent⟩ := h
  · exact Or.inl h
  · exact Or.inr ⟨hboots, hheard.trans hle, hsent⟩

section Step
variable {start : ℕ} {lag : ℤ} {boots now time : ℕ} {n : Notion}

theorem Follows.update (h : Follows start lag boots now n) (hsent : Sent start lag time now) :
    Follows start lag boots now (n.update boots time now) := by
  unfold Notion.update
  split
  · exact Or.inr ⟨rfl, le_rfl, hsent⟩
  · exact h

/-- One that is not ahead of the latest is not far behind it: what the local clock has added since
is made up for by how much earlier the message was sent, but for 150 seconds. -/
theorem Sent.time_le {heard latest : ℕ} (hlatest : Sent start lag latest heard)
    (hsent : Sent start lag time now) (hle : heard ≤ now) :
    latest + (now - heard) / 10 ^ 9 ≤ time + 150 := by
  obtain ⟨⟨sent, hstart, rfl, _, hnow⟩⟩ := hsent
  obtain ⟨⟨sent', hstart', rfl, hheard, _⟩⟩ := hlatest
  omega

theorem Follows.inWindow (hboots : boots < 2 ^ 31 - 1) (h : Follows start lag boots now n)
    (hsent : Sent start lag time now) : (n.update boots time now).InWindow boots time now := by
  unfold Notion.update
  split
  · refine ⟨hboots.ne, le_rfl, fun _ => ?_⟩
    rw [Notion.time, Nat.sub_self, Nat.zero_div]
    exact Nat.le_add_right time 150
  · rename_i hbehind
    obtain hlt | ⟨hsame, hheard, hlatest⟩ := h
    · exact absurd (Or.inl hlt) hbehind
    · rw [← hsame] at hboots
      exact ⟨hboots.ne, hsame.le, fun _ => hlatest.time_le hsent hheard⟩

end Step

/-! ## A clock that always shows zero -/

/-- What the first message from an engine that always tells time 0 leaves, no other changes. -/
theorem update_zero {boots heard now : ℕ} :
    (⟨boots, 0, heard⟩ : Notion).update boots 0 now = ⟨boots, 0, heard⟩ := by
  rw [update, if_neg]
  rintro (h | ⟨_, h⟩)
  · exact absurd h (Nat.lt_irrefl _)
  · exact absurd h (Nat.lt_irrefl _)

theorem inWindow_zero_iff {boots heard now : ℕ} (hboots : boots < 2 ^ 31 - 1) :
    (⟨boots, 0, heard⟩ : Notion).InWindow boots 0 now ↔ (now - heard) / 10 ^ 9 ≤ 150 := by
  rw [InWindow, time, Nat.zero_add, Nat.zero_add]
  constructor
  · rintro ⟨_, _, h⟩
    exact h rfl
  · exact fun h => ⟨hboots.ne, le_rfl, fun _ => h⟩

end Notion
end SnmpTrap.Net
