import SnmpTrap.Rust.Outcome

/-! `slice::chunks`, and lists by their first elements. -/
namespace SnmpTrap.Rust
set_option autoImplicit false
set_option maxHeartbeats 250000
set_option maxRecDepth 120000
variable {α : Type}

theorem length_lt_two_or_cons (xs : List α) :
    xs.length < 2 ∨ ∃ a b rest, xs = a :: b :: rest := by
  cases xs with
  | nil => exact Or.inl (by simp)
  | cons a xs =>
    cases xs with
    | nil => exact Or.inl (by simp)
    | cons b rest => exact Or.inr ⟨a, b, rest, rfl⟩

def chunksAux (n : ℕ) : ℕ → List α → List (List α)
  | 0, _ => []
  | _ + 1, [] => []
  | fuel + 1, x :: xs => (x :: xs).take n :: chunksAux n fuel ((x :: xs).drop n)

/-- Runs of `n` elements, the last possibly shorter. -/
def chunks (n : ℕ) (xs : List α) : List (List α) := chunksAux n xs.length xs

/-- Any two amounts of fuel that cover the elements give the same chunks. -/
theorem chunksAux_fuel (n : ℕ) (hn : 0 < n) (fuel fuel' : ℕ) (xs : List α)
    (h : xs.length ≤ fuel) (h' : xs.length ≤ fuel') :
    chunksAux n fuel xs = chunksAux n fuel' xs := by
  induction fuel generalizing fuel' xs with
  | zero =>
    rw [List.length_eq_zero_iff.mp (Nat.le_zero.mp h)]
    cases fuel' <;> rfl
  | succ fuel ih =>
    cases xs with
    | nil => cases fuel' <;> rfl
    | cons x xs =>
      rw [List.length_cons] at h h'
      obtain ⟨fuel', rfl⟩ : ∃ f, fuel' = f + 1 := ⟨fuel' - 1, by omega⟩
      have hd : ((x :: xs).drop n).length ≤ xs.length := by
        rw [List.length_drop, List.length_cons]
        omega
      rw [chunksAux, chunksAux, ih fuel' _ (by omega) (by omega)]

@[simp] theorem chunks_nil (n : ℕ) : chunks n ([] : List α) = [] := rfl

theorem chunks_cons (n : ℕ) (hn : 0 < n) (xs : List α) (hxs : xs ≠ []) :
    chunks n xs = xs.take n :: chunks n (xs.drop n) := by
  cases xs with
  | nil => contradiction
  | cons x xs =>
    have hd : ((x :: xs).drop n).length ≤ xs.length := by
      rw [List.length_drop, List.length_cons]
      omega
    rw [chunks, List.length_cons, chunksAux, chunksAux_fuel n hn xs.length _ _ hd le_rfl]
    rfl

/-- Induction over a list by what is left after its first `n` elements. -/
theorem chunks_induction {motive : List α → Prop} {n : ℕ} (hn : 0 < n) (nil : motive [])
    (cons : ∀ xs, xs ≠ [] → motive (xs.drop n) → motive xs) (xs : List α) : motive xs := by
  by_cases hxs : xs = []
  · rw [hxs]
    exact nil
  · exact cons xs hxs (chunks_induction hn nil cons (xs.drop n))
termination_by xs.length
decreasing_by
  have := List.length_pos_iff.mpr hxs
  rw [List.length_drop]
  omega

theorem chunks_flatten {n : ℕ} (hn : 0 < n) (xs : List α) : (chunks n xs).flatten = xs := by
  induction xs using chunks_induction hn with
  | nil => rfl
  | cons xs hxs ih =>
    rw [chunks_cons n hn xs hxs, List.flatten_cons, ih, List.take_append_drop]

/-- As many chunks as `n` goes into the length, rounded up. -/
theorem chunks_length {n : ℕ} (hn : 0 < n) (xs : List α) :
    (chunks n xs).length = (xs.length + (n - 1)) / n := by
  induction xs using chunks_induction hn with
  | nil =>
    show 0 = (0 + (n - 1)) / n
    rw [Nat.zero_add, Nat.div_eq_of_lt (by omega)]
  | cons xs hxs ih =>
    have hpos := List.length_pos_iff.mpr hxs
    rw [chunks_cons n hn xs hxs, List.length_cons, ih, List.length_drop, ← Nat.add_div_right _ hn]
    by_cases hle : n ≤ xs.length
    · congr 1
      omega
    · -- the only chunk
      have hrest : xs.length - n + (n - 1) + n = (n - 1) + 1 * n := by omega
      have hall : xs.length + (n - 1) = (xs.length - 1) + 1 * n := by omega
      rw [hrest, hall, Nat.add_mul_div_right _ _ hn, Nat.add_mul_div_right _ _ hn,
        Nat.div_eq_of_lt (by omega), Nat.div_eq_of_lt (by omega)]

theorem chunks_getElem? {n k : ℕ} (hn : 0 < n) {xs c : List α} (h : (chunks n xs)[k]? = some c) :
    c = (xs.drop (n * k)).take n := by
  induction xs using chunks_induction hn generalizing k with
  | nil =>
    rw [chunks_nil, List.getElem?_nil] at h
    cases h
  | cons xs hxs ih =>
    rw [chunks_cons n hn xs hxs] at h
    cases k with
    | zero =>
      rw [List.getElem?_cons_zero] at h
      exact (Option.some.inj h).symm
    | succ k =>
      rw [List.getElem?_cons_succ] at h
      rw [ih h, List.drop_drop, Nat.mul_succ, Nat.add_comm]

theorem length_of_mem_chunks (n k : ℕ) (hn : 0 < n) :
    ∀ xs : List α, xs.length = k * n → ∀ c ∈ chunks n xs, c.length = n := by
  induction k with
  | zero =>
    intro xs h c hc
    rw [Nat.zero_mul, List.length_eq_zero_iff] at h
    subst h
    simp at hc
  | succ k ih =>
    intro xs h c hc
    rw [Nat.succ_mul] at h
    have hne : xs ≠ [] := by
      intro he
      rw [he, List.length_nil] at h
      omega
    rw [chunks_cons n hn xs hne] at hc
    obtain rfl | hc := List.mem_cons.mp hc
    · rw [List.length_take]
      omega
    · exact ih _ (by rw [List.length_drop]; omega) c hc

theorem chunksAux_length_le (n fuel : ℕ) (xs : List α) : (chunksAux n fuel xs).length ≤ fuel := by
  induction fuel generalizing xs with
  | zero => exact le_rfl
  | succ fuel ih =>
    cases xs with
    | nil => exact Nat.zero_le _
    | cons x xs =>
      rw [chunksAux, List.length_cons]
      exact Nat.succ_le_succ (ih _)

theorem chunks_length_le (n : ℕ) (xs : List α) : (chunks n xs).length ≤ xs.length :=
  chunksAux_length_le n _ xs

theorem mem_of_mem_chunksAux (n fuel : ℕ) (xs : List α) :
    ∀ c ∈ chunksAux n fuel xs, ∀ x ∈ c, x ∈ xs := by
  induction fuel generalizing xs with
  | zero =>
    intro c hc
    cases hc
  | succ fuel ih =>
    cases xs with
    | nil =>
      intro c hc
      cases hc
    | cons y ys =>
      intro c hc x hx
      rw [chunksAux] at hc
      obtain rfl | hc := List.mem_cons.mp hc
      · exact List.mem_of_mem_take hx
      · exact List.mem_of_mem_drop (ih _ c hc x hx)

theorem mem_of_mem_chunks (n : ℕ) (xs : List α) : ∀ c ∈ chunks n xs, ∀ x ∈ c, x ∈ xs :=
  mem_of_mem_chunksAux n _ xs

end SnmpTrap.Rust
