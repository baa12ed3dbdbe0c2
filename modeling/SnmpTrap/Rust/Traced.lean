import SnmpTrap.Rust.Outcome

/-! Rust functions that call on the host. `Traced` keeps the calls in the order in which they are
made; what the host answers is an argument of the function. -/
namespace SnmpTrap.Rust
set_option autoImplicit false
set_option maxHeartbeats 250000
set_option maxRecDepth 120000

structure Traced (κ ε α : Type) where
  calls : List κ
  outcome : Outcome ε α

namespace Traced
variable {κ ε α β : Type}

def ofOutcome (x : Outcome ε α) : Traced κ ε α := ⟨[], x⟩

/-- One call and its answer. -/
def call (k : κ) (answer : α) : Traced κ ε α := ⟨[k], .ok answer⟩

/-- After a failure nothing more is called. -/
def bind (x : Traced κ ε α) (f : α → Traced κ ε β) : Traced κ ε β :=
  match x.outcome with
  | .ok a => ⟨x.calls ++ (f a).calls, (f a).outcome⟩
  | .error s => ⟨x.calls, .error s⟩

instance instMonadTraced : Monad (Traced κ ε) where
  pure a := ofOutcome (.ok a)
  bind := bind

@[simp] theorem ofOutcome_ok_bind (a : α) (f : α → Traced κ ε β) :
    (ofOutcome (.ok a) : Traced κ ε α) >>= f = f a := rfl

@[simp] theorem ofOutcome_error_bind (s : Stop ε) (f : α → Traced κ ε β) :
    (ofOutcome (.error s) : Traced κ ε α) >>= f = ofOutcome (.error s) := rfl

@[simp] theorem call_bind (k : κ) (a : α) (f : α → Traced κ ε β) :
    (call k a : Traced κ ε α) >>= f = ⟨k :: (f a).calls, (f a).outcome⟩ := rfl

@[simp] theorem calls_ofOutcome (x : Outcome ε α) : (ofOutcome x : Traced κ ε α).calls = [] := rfl

@[simp] theorem outcome_ofOutcome (x : Outcome ε α) :
    (ofOutcome x : Traced κ ε α).outcome = x := rfl

/-! ## Calls -/

def mapCalls {κ' : Type} (f : κ → κ') (x : Traced κ ε α) : Traced κ' ε α :=
  ⟨x.calls.map f, x.outcome⟩

theorem bind_of_ok {x : Traced κ ε α} {a : α} (h : x.outcome = .ok a) (f : α → Traced κ ε β) :
    x >>= f = ⟨x.calls ++ (f a).calls, (f a).outcome⟩ := by
  change bind x f = _
  rw [bind, h]

end Traced
end SnmpTrap.Rust
