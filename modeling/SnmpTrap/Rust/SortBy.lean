import Mathlib.Order.Basic

/-! `slice::sort_by` under a comparator that is a total order, and a search for the first success
in the sorted list: it is a minimum over the members that succeed, so it does not depend on how
the list was ordered. -/
namespace SnmpTrap.Rust
set_option autoImplicit false
set_option maxHeartbeats 250000
set_option maxRecDepth 120000

section SortBy
variable {α β : Type} (cmp : α → α → Ordering)

/-- `slice::sort_by`, a stable sort. -/
def sortBy (xs : List α) : List α := xs.mergeSort fun a b => (cmp a b).isLE

theorem mem_sortBy {a : α} {xs : List α} : a ∈ sortBy cmp xs ↔ a ∈ xs := List.mem_mergeSort

theorem pairwise_sortBy [Std.TransCmp cmp] (xs : List α) :
    (sortBy cmp xs).Pairwise fun a b => (cmp a b).isLE := by
  apply List.pairwise_mergeSort
  · intro a b c hab hbc
    exact Std.TransCmp.isLE_trans hab hbc
  · intro a b
    -- one of the two comparisons is not a greater-than
    have hswap : cmp b a = (cmp a b).swap := Std.OrientedCmp.eq_swap
    rw [hswap]
    cases cmp a b <;> rfl

/-! ## The least success -/

/-- `f` succeeds at `a` with `b`, and at no member before `a`. -/
structure LeastSuccess (f : α → Option β) (xs : List α) (a : α) (b : β) : Prop where
  mem : a ∈ xs
  success : f a = some b
  least : ∀ c ∈ xs, (f c).isSome → (cmp a c).isLE

variable {cmp}
variable {f : α → Option β} {xs ys : List α} {a a' : α} {b b' : β}

theorem LeastSuccess.of_members (hmem : ∀ c, (f c).isSome → (c ∈ xs ↔ c ∈ ys))
    (h : LeastSuccess cmp f xs a b) : LeastSuccess cmp f ys a b := by
  refine ⟨(hmem a ?_).mp h.mem, h.success, ?_⟩
  · rw [h.success]
    rfl
  · intro c hc hsome
    exact h.least c ((hmem c hsome).mpr hc) hsome

/-- Only the members that succeed matter. -/
theorem LeastSuccess.congr (hmem : ∀ c, (f c).isSome → (c ∈ xs ↔ c ∈ ys)) :
    LeastSuccess cmp f xs a b ↔ LeastSuccess cmp f ys a b :=
  ⟨of_members hmem, of_members fun c hc => (hmem c hc).symm⟩

theorem LeastSuccess.cons_of_none {x : α} (hx : f x = none) :
    LeastSuccess cmp f (x :: xs) a b ↔ LeastSuccess cmp f xs a b := by
  apply LeastSuccess.congr
  intro c hc
  have hne : c ≠ x := by
    rintro rfl
    rw [hx] at hc
    cases hc
  rw [List.mem_cons, or_iff_right hne]

variable [Std.TransCmp cmp] [Std.LawfulEqCmp cmp]

theorem LeastSuccess.unique (h : LeastSuccess cmp f xs a b) (h' : LeastSuccess cmp f xs a' b') :
    a = a' ∧ b = b' := by
  have hle : (cmp a a').isLE := h.least a' h'.mem (by rw [h'.success]; rfl)
  have hge : (cmp a' a).isLE := h'.least a h.mem (by rw [h.success]; rfl)
  obtain rfl : a = a' := Std.LawfulEqCmp.eq_of_compare (Std.OrientedCmp.isLE_antisymm hle hge)
  exact ⟨rfl, Option.some.inj (h.success.symm.trans h'.success)⟩

/-- In a sorted list the first success is the least one. -/
theorem findSome?_of_pairwise (hxs : xs.Pairwise fun a b => (cmp a b).isLE) :
    xs.findSome? f = some b ↔ ∃ a, LeastSuccess cmp f xs a b := by
  induction xs with
  | nil =>
    rw [List.findSome?_nil]
    constructor
    · intro h
      cases h
    · rintro ⟨a, h⟩
      cases h.mem
  | cons x xs ih =>
    obtain ⟨hx, htail⟩ := List.pairwise_cons.mp hxs
    rw [List.findSome?_cons]
    cases hfx : f x with
    | none =>
      rw [ih htail]
      exact exists_congr fun a => (LeastSuccess.cons_of_none hfx).symm
    | some b' =>
      have hhead : LeastSuccess cmp f (x :: xs) x b' := by
        refine ⟨List.mem_cons_self, hfx, ?_⟩
        intro c hc _
        obtain rfl | hc := List.mem_cons.mp hc
        · have hself : cmp c c = .eq := Std.ReflCmp.compare_self
          rw [hself]
          rfl
        · exact hx c hc
      constructor
      · intro h
        cases h
        exact ⟨x, hhead⟩
      · rintro ⟨a, h⟩
        rw [(hhead.unique h).2]

theorem findSome?_sortBy :
    (sortBy cmp xs).findSome? f = some b ↔ ∃ a, LeastSuccess cmp f xs a b := by
  rw [findSome?_of_pairwise (pairwise_sortBy cmp xs)]
  exact exists_congr fun a => LeastSuccess.congr fun c _ => mem_sortBy cmp

theorem findSome?_sortBy_congr (hmem : ∀ c, (f c).isSome → (c ∈ xs ↔ c ∈ ys)) :
    (sortBy cmp xs).findSome? f = (sortBy cmp ys).findSome? f := by
  apply Option.ext
  intro b
  rw [findSome?_sortBy, findSome?_sortBy]
  exact exists_congr fun a => LeastSuccess.congr hmem

omit [Std.TransCmp cmp] [Std.LawfulEqCmp cmp] in
theorem findSome?_sortBy_eq_none_iff :
    (sortBy cmp xs).findSome? f = none ↔ ∀ a ∈ xs, f a = none := by
  rw [List.findSome?_eq_none_iff]
  exact forall_congr' fun a => by rw [mem_sortBy]

end SortBy

end SnmpTrap.Rust
