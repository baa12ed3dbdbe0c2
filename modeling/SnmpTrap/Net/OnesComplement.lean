import Mathlib

/-! The one's-complement sum of 16-bit words. Sums are taken in the naturals; a sum's one's
complement value is 0 for no bits at all and otherwise the representative in `1 .. 65535` of the
sum modulo 65535, which folding carries does not change. -/
namespace SnmpTrap.Net
set_option autoImplicit false
set_option maxHeartbeats 250000
set_option maxRecDepth 120000

/-! ## Words -/

/-- Big-endian 16-bit words; an odd last octet is padded with zero on the right. -/
def words : List UInt8 → List ℕ
  | [] => []
  | [a] => [256 * a.toNat]
  | a :: b :: rest => (256 * a.toNat + b.toNat) :: words rest

def wordSum (bs : List UInt8) : ℕ := (words bs).sum

@[simp] theorem wordSum_nil : wordSum [] = 0 := rfl

@[simp] theorem wordSum_singleton (a : UInt8) : wordSum [a] = 256 * a.toNat := by
  simp [wordSum, words]

@[simp] theorem wordSum_cons_cons (a b : UInt8) (rest : List UInt8) :
    wordSum (a :: b :: rest) = 256 * a.toNat + b.toNat + wordSum rest := by
  simp [wordSum, words]

/-- Only the last run of octets may be of odd length. -/
theorem wordSum_append : ∀ as bs : List UInt8, as.length % 2 = 0 →
    wordSum (as ++ bs) = wordSum as + wordSum bs
  | [], bs, _ => by simp
  | [_], _, h => by simp at h
  | a :: b :: as, bs, h => by
    have hlen : as.length % 2 = 0 := by
      rw [List.length_cons, List.length_cons] at h
      omega
    rw [List.cons_append, List.cons_append, wordSum_cons_cons, wordSum_cons_cons,
      wordSum_append as bs hlen]
    omega

theorem wordSum_le : ∀ bs : List UInt8, wordSum bs ≤ 65535 * ((bs.length + 1) / 2)
  | [] => by simp
  | [a] => by
    have := a.toNat_lt
    rw [wordSum_singleton, List.length_singleton]
    omega
  | a :: b :: rest => by
    have ha := a.toNat_lt
    have hb := b.toNat_lt
    have hrest := wordSum_le rest
    rw [wordSum_cons_cons, List.length_cons, List.length_cons]
    omega

theorem words_lt : ∀ bs : List UInt8, ∀ w ∈ words bs, w < 65536
  | [] => by simp [words]
  | [a] => by
    have := a.toNat_lt
    simp only [words, List.mem_singleton]
    omega
  | a :: b :: rest => by
    have ha := a.toNat_lt
    have hb := b.toNat_lt
    intro w hw
    rw [words] at hw
    obtain rfl | hw := List.mem_cons.mp hw
    · omega
    · exact words_lt rest w hw

theorem wordSum_eq_zero_iff : ∀ bs : List UInt8, wordSum bs = 0 ↔ ∀ b ∈ bs, b = 0
  | [] => by simp
  | [a] => by
    have hzero : a = 0 ↔ a.toNat = 0 := by rw [← UInt8.toNat_inj, UInt8.toNat_zero]
    simp only [wordSum_singleton, List.mem_singleton, forall_eq, hzero]
    omega
  | a :: b :: rest => by
    have ha : a = 0 ↔ a.toNat = 0 := by rw [← UInt8.toNat_inj, UInt8.toNat_zero]
    have hb : b = 0 ↔ b.toNat = 0 := by rw [← UInt8.toNat_inj, UInt8.toNat_zero]
    simp only [wordSum_cons_cons, List.forall_mem_cons, ← wordSum_eq_zero_iff rest, ha, hb]
    omega

/-! ## One's-complement values -/

/-- The value that folding all carries leads to. -/
def onesComplement (s : ℕ) : ℕ := if s = 0 then 0 else (s - 1) % 65535 + 1

theorem onesComplement_of_lt (s : ℕ) (h : s < 65536) : onesComplement s = s := by
  unfold onesComplement
  split
  · omega
  · rw [Nat.mod_eq_of_lt (by omega)]
    omega

theorem onesComplement_fold (s : ℕ) :
    onesComplement (s % 65536 + s / 65536) = onesComplement s := by
  unfold onesComplement
  split
  · rw [if_pos (by omega)]
  · rw [if_neg (by omega)]
    omega

theorem onesComplement_le (s : ℕ) : onesComplement s ≤ 65535 := by
  unfold onesComplement
  split <;> omega

theorem onesComplement_modEq (s : ℕ) : onesComplement s ≡ s [MOD 65535] := by
  unfold onesComplement Nat.ModEq
  split <;> omega

theorem onesComplement_eq_zero_iff (s : ℕ) : onesComplement s = 0 ↔ s = 0 := by
  unfold onesComplement
  split <;> omega

/-! ## The sum with end-around carry -/

/-- Addition of two words where a carry out of the top is added in at the bottom. -/
def endAroundAdd (a b : ℕ) : ℕ := if a + b < 65536 then a + b else a + b - 65535

/-- The one's-complement sum, word by word. -/
def onesComplementSum (bs : List UInt8) : ℕ := (words bs).foldl endAroundAdd 0

theorem endAroundAdd_onesComplement (s w : ℕ) (hw : w < 65536) :
    endAroundAdd (onesComplement s) w = onesComplement (s + w) := by
  unfold endAroundAdd onesComplement
  by_cases hs : s = 0
  · subst hs
    rw [if_pos rfl, if_pos (by omega)]
    split <;> omega
  · rw [if_neg hs, if_neg (show ¬ s + w = 0 by omega)]
    split <;> omega

theorem foldl_endAroundAdd (ws : List ℕ) (h : ∀ w ∈ ws, w < 65536) (s : ℕ) :
    ws.foldl endAroundAdd (onesComplement s) = onesComplement (s + ws.sum) := by
  induction ws generalizing s with
  | nil => simp
  | cons w ws ih =>
    rw [List.foldl_cons, endAroundAdd_onesComplement s w (h w (by simp)),
      ih (fun x hx => h x (by simp [hx])), List.sum_cons, Nat.add_assoc]

theorem onesComplementSum_eq (bs : List UInt8) :
    onesComplementSum bs = onesComplement (wordSum bs) := by
  have h := foldl_endAroundAdd (words bs) (words_lt bs) 0
  rwa [Nat.zero_add] at h

/-! ## Verification -/

/-- A receiver's check: the sum over everything, checksum included, has all bits set. -/
def Verifies (bs : List UInt8) : Prop := onesComplement (wordSum bs) = 65535

instance : DecidablePred Verifies := fun bs =>
  inferInstanceAs (Decidable (onesComplement (wordSum bs) = 65535))

theorem onesComplement_add_complement (s : ℕ) :
    onesComplement (s + (65535 - onesComplement s)) = 65535 := by
  unfold onesComplement
  split
  · rename_i h
    subst h
    decide
  · rw [if_neg (by omega)]
    omega

/-- So does all ones in place of a complement that came out as zero. -/
theorem onesComplement_add_allOnes (s : ℕ) (h : 65535 - onesComplement s = 0) :
    onesComplement (s + 65535) = 65535 := by
  have hc := onesComplement_add_complement s
  rw [h, Nat.add_zero] at hc
  unfold onesComplement at hc ⊢
  split at hc
  · contradiction
  · rw [if_neg (by omega)]
    omega

end SnmpTrap.Net
