import SnmpTrap.Rust.Traced

/-! Two runs side by side. They are alike where both give values, which are related, or both stop
in one way; with calls, where these too are related, one by one. The rules follow the structure of
the code, and a branch that one run takes the other takes as well. -/
namespace SnmpTrap.Rust
set_option autoImplicit false
set_option maxHeartbeats 250000
set_option maxRecDepth 120000
variable {ε α α' β β' κ κ' : Type}

/-! ## Outcomes -/

namespace Outcome
variable {R : α → α' → Prop} {S : β → β' → Prop}

inductive Alike (R : α → α' → Prop) : Outcome ε α → Outcome ε α' → Prop
  | ok {a : α} {a' : α'} (h : R a a') : Alike R (.ok a) (.ok a')
  | stopped (s : Stop ε) : Alike R (.error s) (.error s)

theorem alike_refl {R : α → α → Prop} (hR : ∀ a, R a a) (x : Outcome ε α) : Alike R x x := by
  cases x with
  | error s => exact .stopped s
  | ok a => exact .ok (hR a)

theorem Alike.bind {x : Outcome ε α} {x' : Outcome ε α'} {f : α → Outcome ε β}
    {f' : α' → Outcome ε β'} (h : Alike R x x')
    (hf : ∀ a a', x = .ok a → R a a' → Alike S (f a) (f' a')) :
    Alike S (x >>= f) (x' >>= f') := by
  cases h with
  | ok ha => exact hf _ _ rfl ha
  | stopped s => exact .stopped s

/-- The first step is the same in both runs. -/
theorem alike_bind_same {f : α → Outcome ε β} {f' : α → Outcome ε β'} (x : Outcome ε α)
    (hf : ∀ a, x = .ok a → Alike S (f a) (f' a)) : Alike S (x >>= f) (x >>= f') := by
  refine (alike_refl (fun _ => rfl) x).bind fun a a' ha heq => ?_
  cases heq
  exact hf a ha

theorem Alike.mono {R' : α → α' → Prop} {x : Outcome ε α} {x' : Outcome ε α'} (h : Alike R x x')
    (hR : ∀ a a', R a a' → R' a a') : Alike R' x x' := by
  cases h with
  | ok ha => exact .ok (hR _ _ ha)
  | stopped s => exact .stopped s

end Outcome

/-! ## Calls -/

namespace Traced
variable {R : α → α' → Prop} {S : β → β' → Prop} {K : κ → κ' → Prop}

structure Alike (K : κ → κ' → Prop) (R : α → α' → Prop) (x : Traced κ ε α)
    (x' : Traced κ' ε α') : Prop where
  calls : List.Forall₂ K x.calls x'.calls
  outcome : x.outcome.Alike R x'.outcome

theorem alike_ofOutcome {x : Outcome ε α} {x' : Outcome ε α'} (h : x.Alike R x') :
    Alike K R (ofOutcome x) (ofOutcome x') := ⟨.nil, h⟩

theorem Alike.bind {x : Traced κ ε α} {x' : Traced κ' ε α'} {f : α → Traced κ ε β}
    {f' : α' → Traced κ' ε β'} (h : Alike K R x x')
    (hf : ∀ a a', x.outcome = .ok a → R a a' → Alike K S (f a) (f' a')) :
    Alike K S (x >>= f) (x' >>= f') := by
  obtain ⟨calls, outcome⟩ := x
  obtain ⟨calls', outcome'⟩ := x'
  obtain ⟨hcalls, houtcome⟩ := h
  simp only at hcalls houtcome hf
  cases houtcome with
  | ok ha =>
    have hrest := hf _ _ rfl ha
    exact ⟨List.rel_append hcalls hrest.calls, hrest.outcome⟩
  | stopped s => exact ⟨hcalls, .stopped s⟩

theorem Alike.mapCalls {ι ι' : Type} {I : ι → ι' → Prop} {g : κ → ι} {g' : κ' → ι'}
    {x : Traced κ ε α} {x' : Traced κ' ε α'} (h : Alike K R x x')
    (hg : ∀ k k', K k k' → I (g k) (g' k')) : Alike I R (x.mapCalls g) (x'.mapCalls g') := by
  refine ⟨?_, h.outcome⟩
  rw [Traced.mapCalls, Traced.mapCalls]
  simp only [List.forall₂_map_left_iff, List.forall₂_map_right_iff]
  exact h.calls.imp fun {k k'} hk => hg k k' hk

end Traced
end SnmpTrap.Rust
