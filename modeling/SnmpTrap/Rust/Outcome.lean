import Mathlib

/-! Results of Rust functions: a value, a returned error, or a panic. `fail`, `expect`, `assert`,
`index`, `sliceTo` and `sliceFrom` are `return Err(e)`, `Option::expect`, `assert!`, `xs[i]`,
`&xs[..n]` and `&xs[n..]`. `Safe` is the absence of a panic; its rules follow the structure of the
code. -/
namespace SnmpTrap.Rust
set_option autoImplicit false
set_option maxHeartbeats 250000
set_option maxRecDepth 120000

inductive Stop (ε : Type) where
  | error (e : ε)
  | panic (message : String)
deriving DecidableEq, Repr

abbrev Outcome (ε α : Type) := Except (Stop ε) α

namespace Outcome
variable {ε ε' α β : Type}

def fail (e : ε) : Outcome ε α := .error (.error e)

def panicked (message : String) : Outcome ε α := .error (.panic message)

/-- `Result::map_err`; a panic passes through. -/
def mapErr (f : ε → ε') : Outcome ε α → Outcome ε' α
  | .ok a => .ok a
  | .error (.error e) => .error (.error (f e))
  | .error (.panic message) => .error (.panic message)

def ofExcept : Except ε α → Outcome ε α
  | .ok a => .ok a
  | .error e => fail e

def expect (message : String) : Option α → Outcome ε α
  | some a => .ok a
  | none => panicked message

def assert (p : Prop) [Decidable p] (message : String) : Outcome ε Unit :=
  if p then .ok () else panicked message

def index (xs : List α) (i : ℕ) : Outcome ε α :=
  match xs[i]? with
  | some a => .ok a
  | none => panicked
    s!"index out of bounds: the len is {xs.length} but the index is {i}"

def sliceTo (xs : List α) (n : ℕ) : Outcome ε (List α) :=
  if n ≤ xs.length then .ok (xs.take n)
  else panicked s!"range end index {n} out of range for slice of length {xs.length}"

def sliceFrom (xs : List α) (n : ℕ) : Outcome ε (List α) :=
  if n ≤ xs.length then .ok (xs.drop n)
  else panicked s!"range start index {n} out of range for slice of length {xs.length}"

/-! ## Inversion -/

theorem bind_ok_iff {x : Except ε α} {f : α → Except ε β} {b : β} :
    x >>= f = .ok b ↔ ∃ a, x = .ok a ∧ f a = .ok b := by
  cases x with
  | error s => simp [bind, Except.bind]
  | ok a => simp [bind, Except.bind]

theorem bind_error_iff {x : Outcome ε α} {f : α → Outcome ε β} {s : Stop ε} :
    x >>= f = .error s ↔ x = .error s ∨ ∃ a, x = .ok a ∧ f a = .error s := by
  cases x with
  | error s' => simp [bind, Except.bind]
  | ok a => simp [bind, Except.bind]

@[simp] theorem ok_bind (a : α) (f : α → Outcome ε β) :
    (Except.ok a : Outcome ε α) >>= f = f a := rfl

@[simp] theorem fail_bind (e : ε) (f : α → Outcome ε β) :
    (fail e : Outcome ε α) >>= f = fail e := rfl

theorem fail_ne_ok (e : ε) (a : α) : (fail e : Outcome ε α) ≠ .ok a := by simp [fail]

theorem map_ok_iff {x : Outcome ε α} {f : α → β} {b : β} :
    f <$> x = .ok b ↔ ∃ a, x = .ok a ∧ f a = b := by
  cases x <;> simp [Functor.map, Except.map]

theorem mapErr_ok_iff {f : ε → ε'} {x : Outcome ε α} {a : α} :
    mapErr f x = .ok a ↔ x = .ok a := by
  rcases x with (e | message) | b <;> simp [mapErr]

@[simp] theorem ofExcept_ok_iff {x : Except ε α} {a : α} : ofExcept x = .ok a ↔ x = .ok a := by
  cases x <;> simp [ofExcept, fail]

theorem expect_ok_iff {message : String} {x : Option α} {a : α} :
    (expect message x : Outcome ε α) = .ok a ↔ x = some a := by
  cases x <;> simp [expect, panicked]

theorem assert_ok_iff {p : Prop} [Decidable p] {message : String} {u : Unit} :
    (assert p message : Outcome ε Unit) = .ok u ↔ p := by
  unfold assert
  split <;> simp [panicked, *]

theorem index_ok_iff {xs : List α} {i : ℕ} {a : α} :
    (index xs i : Outcome ε α) = .ok a ↔ xs[i]? = some a := by
  unfold index
  cases xs[i]? <;> simp [panicked]

theorem index_eq_ok {xs : List α} {i : ℕ} (h : i < xs.length) :
    (index xs i : Outcome ε α) = .ok xs[i] :=
  index_ok_iff.mpr (List.getElem?_eq_getElem h)

theorem sliceTo_ok_iff {xs ys : List α} {n : ℕ} :
    (sliceTo xs n : Outcome ε (List α)) = .ok ys ↔ n ≤ xs.length ∧ ys = xs.take n := by
  unfold sliceTo
  split <;> simp [panicked, *, eq_comm]

theorem sliceTo_eq_ok {xs : List α} {n : ℕ} (h : n ≤ xs.length) :
    (sliceTo xs n : Outcome ε (List α)) = .ok (xs.take n) := if_pos h

theorem sliceFrom_eq_ok {xs : List α} {n : ℕ} (h : n ≤ xs.length) :
    (sliceFrom xs n : Outcome ε (List α)) = .ok (xs.drop n) := if_pos h

theorem toOption_eq_some_iff {x : Except ε α} {a : α} : x.toOption = some a ↔ x = .ok a := by
  cases x with
  | error e => simp [Except.toOption]
  | ok b => simp [Except.toOption]

/-! ## Loops over a list that stop at the first failure -/

theorem mapM_nil (f : α → Except ε β) : ([] : List α).mapM f = .ok [] := rfl

theorem mapM_cons (f : α → Except ε β) (x : α) (xs : List α) :
    (x :: xs).mapM f = f x >>= fun y => xs.mapM f >>= fun ys => .ok (y :: ys) := by
  rw [List.mapM_cons]
  rfl

theorem mapM_ok (f : α → β) (xs : List α) :
    (xs.mapM fun x => (.ok (f x) : Outcome ε β)) = .ok (xs.map f) := by
  induction xs with
  | nil => rfl
  | cons x xs ih => rw [mapM_cons, ok_bind, ih, ok_bind, List.map_cons]

theorem mapM_ok_iff {f : α → Except ε β} {xs : List α} {ys : List β} :
    xs.mapM f = .ok ys ↔ List.Forall₂ (fun x y => f x = .ok y) xs ys := by
  induction xs generalizing ys with
  | nil =>
    rw [mapM_nil, List.forall₂_nil_left_iff]
    simp [eq_comm]
  | cons x xs ih =>
    rw [mapM_cons, List.forall₂_cons_left_iff, bind_ok_iff]
    constructor
    · rintro ⟨y, hy, h⟩
      obtain ⟨zs, hzs, h⟩ := bind_ok_iff.mp h
      cases h
      exact ⟨y, zs, hy, ih.mp hzs, rfl⟩
    · rintro ⟨y, zs, hy, hzs, rfl⟩
      exact ⟨y, hy, bind_ok_iff.mpr ⟨zs, ih.mpr hzs, rfl⟩⟩

/-- The loop fails exactly where some element does. -/
theorem mapM_ok_or (f : α → Outcome ε β) (xs : List α) :
    (∃ ys, xs.mapM f = .ok ys) ∨ ∃ x ∈ xs, ∃ s, f x = .error s ∧ xs.mapM f = .error s := by
  induction xs with
  | nil => exact Or.inl ⟨[], rfl⟩
  | cons x xs ih =>
    rw [mapM_cons]
    cases hx : f x with
    | error s => exact Or.inr ⟨x, by simp, s, hx, rfl⟩
    | ok y =>
      obtain ⟨ys, hys⟩ | ⟨z, hz, s, hs, hm⟩ := ih
      · exact Or.inl ⟨y :: ys, by rw [hys]; rfl⟩
      · exact Or.inr ⟨z, by simp [hz], s, hs, by rw [hm]; rfl⟩

/-! ## Absence of panics -/

/-- No panic: a value or a returned error. -/
def Safe (x : Outcome ε α) : Prop := ∀ message, x ≠ .error (.panic message)

theorem safe_ok (a : α) : Safe (.ok a : Outcome ε α) := by
  intro message h
  cases h

theorem safe_fail (e : ε) : Safe (fail e : Outcome ε α) := by
  intro message h
  cases h

theorem Safe.bind {x : Outcome ε α} {f : α → Outcome ε β} (hx : Safe x)
    (hf : ∀ a, x = .ok a → Safe (f a)) : Safe (x >>= f) := by
  intro message h
  obtain h | ⟨a, ha, h⟩ := bind_error_iff.mp h
  · exact hx message h
  · exact hf a ha message h

theorem Safe.map {x : Outcome ε α} (hx : Safe x) (f : α → β) : Safe (f <$> x) := by
  intro message h
  obtain s | a := x
  · exact hx message (by simpa [Functor.map, Except.map] using h)
  · simp [Functor.map, Except.map] at h

theorem Safe.mapErr {x : Outcome ε α} (hx : Safe x) (f : ε → ε') : Safe (mapErr f x) := by
  intro message h
  obtain (e | m) | a := x
  · cases h
  · exact hx m rfl
  · cases h

theorem safe_ofExcept (x : Except ε α) : Safe (ofExcept x) := by
  cases x with
  | error e => exact safe_fail e
  | ok a => exact safe_ok a

theorem safe_expect {message : String} {x : Option α} (h : x.isSome) :
    Safe (expect message x : Outcome ε α) := by
  obtain ⟨a, rfl⟩ := Option.isSome_iff_exists.mp h
  exact safe_ok a

theorem safe_assert {p : Prop} [Decidable p] {message : String} (h : p) :
    Safe (assert p message : Outcome ε Unit) := by
  rw [assert, if_pos h]
  exact safe_ok ()

theorem safe_index {xs : List α} {i : ℕ} (h : i < xs.length) :
    Safe (index xs i : Outcome ε α) := by
  rw [index_eq_ok h]
  exact safe_ok _

theorem safe_mapM {f : α → Outcome ε β} (xs : List α) (h : ∀ x ∈ xs, Safe (f x)) :
    Safe (xs.mapM f) := by
  induction xs with
  | nil => exact safe_ok _
  | cons x xs ih =>
    rw [mapM_cons]
    refine (h x (by simp)).bind fun y _ => ?_
    exact (ih fun z hz => h z (by simp [hz])).bind fun ys _ => safe_ok _

theorem Safe.cases {x : Outcome ε α} (h : Safe x) : (∃ a, x = .ok a) ∨ ∃ e, x = fail e := by
  obtain (e | message) | a := x
  · exact Or.inr ⟨e, rfl⟩
  · exact absurd rfl (h message)
  · exact Or.inl ⟨a, rfl⟩

end Outcome
end SnmpTrap.Rust
