import Mathlib.Control.Monad.Basic

/-! Writers: programs over a state that only append to what the state has been given. A program is
described by the text it appends, and the rules follow the program. -/
namespace SnmpTrap.Rust
set_option autoImplicit false
set_option maxHeartbeats 250000
set_option maxRecDepth 120000

/-- A result that threads the writer. -/
abbrev Writing (ε σ α : Type) := StateT σ (Except ε) α

section Emits
variable {ε σ γ α : Type} {emitted : σ → List γ}

/-- The program succeeds at every state and appends `text`; `emitted` is what a state has got. -/
def Emits (emitted : σ → List γ) (m : Writing ε σ Unit) (text : List γ) : Prop :=
  ∀ out, ∃ out', m.run out = .ok ((), out') ∧ emitted out' = emitted out ++ text

theorem Emits.pure : Emits emitted (pure () : Writing ε σ Unit) [] := by
  intro out
  exact ⟨out, rfl, (List.append_nil _).symm⟩

theorem Emits.bind {m n : Writing ε σ Unit} {text rest : List γ} (hm : Emits emitted m text)
    (hn : Emits emitted n rest) : Emits emitted (m >>= fun _ => n) (text ++ rest) := by
  intro out
  obtain ⟨mid, hrun, hmid⟩ := hm out
  obtain ⟨out', hrun', hout⟩ := hn mid
  refine ⟨out', ?_, ?_⟩
  · rw [StateT.run_bind, hrun]
    exact hrun'
  · rw [hout, hmid, List.append_assoc]

/-- A statement with a condition and no other branch. -/
theorem Emits.when {p : Prop} [Decidable p] {m : Writing ε σ Unit} {text : List γ}
    (hm : Emits emitted m text) :
    Emits emitted (if p then m else Pure.pure ()) (if p then text else []) := by
  by_cases hp : p
  · rw [if_pos hp, if_pos hp]
    exact hm
  · rw [if_neg hp, if_neg hp]
    exact Emits.pure

theorem Emits.forM {xs : List α} {f : α → Writing ε σ Unit} {text : α → List γ}
    (hf : ∀ x ∈ xs, Emits emitted (f x) (text x)) :
    Emits emitted (xs.forM f) (xs.flatMap text) := by
  induction xs with
  | nil => exact Emits.pure
  | cons x xs ih =>
    rw [List.forM_eq_forM, List.forM_cons, List.flatMap_cons]
    exact (hf x List.mem_cons_self).bind (ih fun y hy => hf y (List.mem_cons_of_mem x hy))

end Emits

/-! ## Writers that fail -/

section Appends
variable {ε σ γ α : Type} {emitted : σ → List γ}

/-- The state that a program leaves behind, where an error carries the state it came from. -/
def leftIn (m : Writing (ε × σ) σ Unit) (out : σ) : σ :=
  match m.run out with
  | .ok (_, out') => out'
  | .error (_, out') => out'

theorem Emits.leftIn {m : Writing (ε × σ) σ Unit} {text : List γ} (h : Emits emitted m text)
    (out : σ) : emitted (leftIn m out) = emitted out ++ text := by
  obtain ⟨out', hrun, hout⟩ := h out
  rw [Rust.leftIn, hrun]
  exact hout

/-- The program appends `text`, or fails with a part of it appended. -/
def Appends (emitted : σ → List γ) (m : Writing (ε × σ) σ Unit) (text : List γ) : Prop :=
  ∀ out, (∃ out', m.run out = .ok ((), out') ∧ emitted out' = emitted out ++ text) ∨
    ∃ e out' part, m.run out = .error (e, out') ∧ emitted out' = emitted out ++ part ∧
      part <+: text

theorem Emits.appends {m : Writing (ε × σ) σ Unit} {text : List γ} (h : Emits emitted m text) :
    Appends emitted m text := fun out => Or.inl (h out)

theorem Appends.pure : Appends emitted (Pure.pure () : Writing (ε × σ) σ Unit) [] :=
  Emits.pure.appends

theorem Appends.bind {m n : Writing (ε × σ) σ Unit} {text rest : List γ}
    (hm : Appends emitted m text) (hn : Appends emitted n rest) :
    Appends emitted (m >>= fun _ => n) (text ++ rest) := by
  intro out
  obtain ⟨mid, hrun, hmid⟩ | ⟨e, mid, part, hrun, hmid, hpart⟩ := hm out
  · obtain ⟨out', hrun', hout⟩ | ⟨e, out', part, hrun', hout, hpart⟩ := hn mid
    · refine Or.inl ⟨out', ?_, ?_⟩
      · rw [StateT.run_bind, hrun]
        exact hrun'
      · rw [hout, hmid, List.append_assoc]
    · refine Or.inr ⟨e, out', text ++ part, ?_, ?_, ?_⟩
      · rw [StateT.run_bind, hrun]
        exact hrun'
      · rw [hout, hmid, List.append_assoc]
      · exact (List.prefix_append_right_inj text).mpr hpart
  · refine Or.inr ⟨e, mid, part, ?_, hmid, hpart.trans (List.prefix_append text rest)⟩
    rw [StateT.run_bind, hrun]
    rfl

theorem Appends.when {p : Prop} [Decidable p] {m : Writing (ε × σ) σ Unit} {text : List γ}
    (hm : Appends emitted m text) :
    Appends emitted (if p then m else Pure.pure ()) (if p then text else []) := by
  by_cases hp : p
  · rw [if_pos hp, if_pos hp]
    exact hm
  · rw [if_neg hp, if_neg hp]
    exact Appends.pure

theorem Appends.forM {xs : List α} {f : α → Writing (ε × σ) σ Unit} {text : α → List γ}
    (hf : ∀ x ∈ xs, Appends emitted (f x) (text x)) :
    Appends emitted (xs.forM f) (xs.flatMap text) := by
  induction xs with
  | nil => exact Appends.pure
  | cons x xs ih =>
    rw [List.forM_eq_forM, List.forM_cons, List.flatMap_cons]
    exact (hf x List.mem_cons_self).bind (ih fun y hy => hf y (List.mem_cons_of_mem x hy))

theorem Appends.leftIn {m : Writing (ε × σ) σ Unit} {text : List γ} (h : Appends emitted m text)
    (out : σ) : ∃ part, emitted (leftIn m out) = emitted out ++ part ∧ part <+: text := by
  obtain ⟨out', hrun, hout⟩ | ⟨e, out', part, hrun, hout, hpart⟩ := h out
  · rw [Rust.leftIn, hrun]
    exact ⟨text, hout, List.prefix_rfl⟩
  · rw [Rust.leftIn, hrun]
    exact ⟨part, hout, hpart⟩

end Appends

end SnmpTrap.Rust
