import Mathlib

/-! Big-endian numerals with a least number of digits, in any base: the common arithmetic of
definite lengths, INTEGER contents and OBJECT IDENTIFIER sub-identifiers. -/
namespace SnmpTrap.Numeral
set_option autoImplicit false
set_option maxHeartbeats 250000
set_option maxRecDepth 120000

/-- Most significant digit first; `fuel` bounds the number of divisions. -/
def digitsAux (b : ℕ) : ℕ → ℕ → List ℕ
  | 0, n => [n]
  | fuel + 1, n => if n < b then [n] else digitsAux b fuel (n / b) ++ [n % b]

/-- The shortest nonempty big-endian numeral of `n` in base `b`. -/
def digits (b n : ℕ) : List ℕ := digitsAux b n n

def ofDigits (b : ℕ) (ds : List ℕ) : ℕ := ds.foldl (fun acc d => acc * b + d) 0

theorem ofDigits_nil (b : ℕ) : ofDigits b [] = 0 := rfl

theorem ofDigits_singleton (b d : ℕ) : ofDigits b [d] = d := by simp [ofDigits]

theorem ofDigits_concat (b : ℕ) (ds : List ℕ) (d : ℕ) :
    ofDigits b (ds ++ [d]) = ofDigits b ds * b + d := by
  simp [ofDigits]

theorem ofDigits_append (b : ℕ) (xs ys : List ℕ) :
    ofDigits b (xs ++ ys) = ofDigits b xs * b ^ ys.length + ofDigits b ys := by
  induction ys using List.reverseRecOn with
  | nil => simp [ofDigits_nil]
  | append_singleton ys d ih =>
    rw [← List.append_assoc, ofDigits_concat, ofDigits_concat, ih, List.length_append,
      List.length_singleton, pow_succ]
    ring

theorem ofDigits_cons (b d : ℕ) (ds : List ℕ) :
    ofDigits b (d :: ds) = d * b ^ ds.length + ofDigits b ds := by
  have h := ofDigits_append b [d] ds
  rwa [List.singleton_append, ofDigits_singleton] at h

theorem ofDigits_lt (b : ℕ) (ds : List ℕ) (h : ∀ d ∈ ds, d < b) :
    ofDigits b ds < b ^ ds.length := by
  induction ds using List.reverseRecOn with
  | nil => simp [ofDigits_nil]
  | append_singleton ds d ih =>
    have hd : d < b := h d (by simp)
    have hi := ih (fun e he => h e (by simp [he]))
    rw [ofDigits_concat, List.length_append, List.length_singleton, pow_succ]
    calc ofDigits b ds * b + d < ofDigits b ds * b + b := by omega
      _ = (ofDigits b ds + 1) * b := by ring
      _ ≤ b ^ ds.length * b := Nat.mul_le_mul_right b hi

/-! ## The numeral of a number -/

section Numeral
variable {b : ℕ} (hb : 2 ≤ b)
include hb

theorem ofDigits_digitsAux : ∀ fuel n, n ≤ fuel → ofDigits b (digitsAux b fuel n) = n
  | 0, n, _ => ofDigits_singleton b n
  | fuel + 1, n, h => by
      rw [digitsAux]
      split
      · exact ofDigits_singleton b n
      · have hn : n / b ≤ fuel := by
          have := Nat.div_lt_self (show 0 < n by omega) (show 1 < b by omega)
          omega
        rw [ofDigits_concat, ofDigits_digitsAux fuel (n / b) hn]
        exact Nat.div_add_mod' n b

theorem ofDigits_digits (n : ℕ) : ofDigits b (digits b n) = n :=
  ofDigits_digitsAux hb n n le_rfl

theorem digitsAux_lt : ∀ fuel n, n ≤ fuel → ∀ d ∈ digitsAux b fuel n, d < b
  | 0, n, h => by
      intro d hd
      rw [digitsAux, List.mem_singleton] at hd
      omega
  | fuel + 1, n, h => by
      intro d hd
      rw [digitsAux] at hd
      split at hd
      · rw [List.mem_singleton] at hd
        omega
      · have hn : n / b ≤ fuel := by
          have := Nat.div_lt_self (show 0 < n by omega) (show 1 < b by omega)
          omega
        obtain hd | hd := List.mem_append.mp hd
        · exact digitsAux_lt fuel (n / b) hn d hd
        · rw [List.mem_singleton] at hd
          rw [hd]
          exact Nat.mod_lt n (by omega)

theorem digits_lt (n : ℕ) : ∀ d ∈ digits b n, d < b := digitsAux_lt hb n n le_rfl

theorem digitsAux_length_le : ∀ fuel n k, n ≤ fuel → 0 < k → n < b ^ k →
    (digitsAux b fuel n).length ≤ k
  | 0, _, _, _, hk, _ => hk
  | fuel + 1, n, k, h, hk, hn => by
      rw [digitsAux]
      split
      · exact hk
      · rename_i hlt
        have hn' : n / b ≤ fuel := by
          have := Nat.div_lt_self (show 0 < n by omega) (show 1 < b by omega)
          omega
        obtain ⟨j, rfl⟩ : ∃ j, k = j + 1 := ⟨k - 1, by omega⟩
        have hj : 0 < j := by
          obtain rfl | hj := Nat.eq_zero_or_pos j
          · rw [zero_add, pow_one] at hn
            omega
          · exact hj
        have hdiv : n / b < b ^ j := Nat.div_lt_of_lt_mul (by rwa [pow_succ, mul_comm] at hn)
        have := digitsAux_length_le fuel (n / b) j hn' hj hdiv
        rw [List.length_append, List.length_singleton]
        omega

theorem digits_length_le {n k : ℕ} (hk : 0 < k) (hn : n < b ^ k) : (digits b n).length ≤ k :=
  digitsAux_length_le hb n n k le_rfl hk hn

theorem lt_pow_digits_length (n : ℕ) : n < b ^ (digits b n).length := by
  have h := ofDigits_lt b (digits b n) (digits_lt hb n)
  rwa [ofDigits_digits hb] at h

end Numeral

theorem digits_length_pos (b n : ℕ) : 0 < (digits b n).length := by
  unfold digits
  cases n with
  | zero => simp [digitsAux]
  | succ n =>
    rw [digitsAux]
    split <;> simp

end SnmpTrap.Numeral
