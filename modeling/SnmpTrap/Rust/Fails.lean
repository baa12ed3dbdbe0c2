import SnmpTrap.Rust.Outcome

/-! Which errors a function returns, a panic aside. The rules follow the structure of the code. -/
namespace SnmpTrap.Rust.Outcome
set_option autoImplicit false
set_option maxHeartbeats 250000
set_option maxRecDepth 120000
variable {ε ε' α β : Type} {P Q : ε → Prop}

/-- Every error that is returned satisfies `P`. -/
def FailsWith (P : ε → Prop) (x : Outcome ε α) : Prop := ∀ e, x = fail e → P e

theorem failsWith_ok (a : α) : FailsWith P (.ok a : Outcome ε α) := by
  intro e h
  cases h

theorem failsWith_panicked (message : String) : FailsWith P (panicked message : Outcome ε α) := by
  intro e h
  cases h

theorem failsWith_fail {e : ε} (h : P e) : FailsWith P (fail e : Outcome ε α) := by
  intro e' he
  cases he
  exact h

theorem FailsWith.bind {x : Outcome ε α} {f : α → Outcome ε β} (hx : FailsWith P x)
    (hf : ∀ a, x = .ok a → FailsWith P (f a)) : FailsWith P (x >>= f) := by
  intro e h
  obtain h | ⟨a, ha, h⟩ := bind_error_iff.mp h
  · exact hx e h
  · exact hf a ha e h

theorem failsWith_mapErr {P : ε' → Prop} {f : ε → ε'} {x : Outcome ε α}
    (h : FailsWith (fun e => P (f e)) x) : FailsWith P (mapErr f x) := by
  intro e he
  obtain (e' | message) | a := x
  · cases he
    exact h _ rfl
  · cases he
  · cases he

theorem failsWith_ofExcept {x : Except ε α} (h : ∀ e, x = .error e → P e) :
    FailsWith P (ofExcept x) := by
  intro e he
  cases x with
  | error e' =>
    cases he
    exact h _ rfl
  | ok a => cases he

theorem failsWith_expect (message : String) (x : Option α) :
    FailsWith P (expect message x : Outcome ε α) := by
  cases x with
  | none => exact failsWith_panicked message
  | some a => exact failsWith_ok a

theorem failsWith_assert (p : Prop) [Decidable p] (message : String) :
    FailsWith P (assert p message : Outcome ε Unit) := by
  unfold assert
  split
  · exact failsWith_ok ()
  · exact failsWith_panicked message

theorem failsWith_index (xs : List α) (i : ℕ) : FailsWith P (index xs i : Outcome ε α) := by
  unfold index
  split
  · exact failsWith_ok _
  · exact failsWith_panicked _

theorem failsWith_sliceTo (xs : List α) (n : ℕ) :
    FailsWith P (sliceTo xs n : Outcome ε (List α)) := by
  unfold sliceTo
  split
  · exact failsWith_ok _
  · exact failsWith_panicked _

theorem failsWith_sliceFrom (xs : List α) (n : ℕ) :
    FailsWith P (sliceFrom xs n : Outcome ε (List α)) := by
  unfold sliceFrom
  split
  · exact failsWith_ok _
  · exact failsWith_panicked _

theorem failsWith_mapM {f : α → Outcome ε β} (xs : List α) (h : ∀ x ∈ xs, FailsWith P (f x)) :
    FailsWith P (xs.mapM f) := by
  induction xs with
  | nil => exact failsWith_ok _
  | cons x xs ih =>
    rw [mapM_cons]
    refine (h x List.mem_cons_self).bind fun y _ => ?_
    exact (ih fun z hz => h z (List.mem_cons_of_mem x hz)).bind fun ys _ => failsWith_ok _

theorem FailsWith.mono {x : Outcome ε α} (h : FailsWith P x) (hPQ : ∀ e, P e → Q e) :
    FailsWith Q x := fun e he => hPQ e (h e he)

end SnmpTrap.Rust.Outcome
