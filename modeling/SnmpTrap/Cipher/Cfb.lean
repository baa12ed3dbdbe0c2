import Mathlib

/-! Cipher feedback with full-block feedback over an arbitrary block function: the key stream of
each block is the function's value at the ciphertext block before it, at the initialization
vector for the first. A last short block takes the front of its key stream. -/
namespace SnmpTrap.Cipher
set_option autoImplicit false
set_option maxHeartbeats 250000
set_option maxRecDepth 120000

/-! ## Exclusive or -/

/-- Octet by octet, as long as the shorter argument. -/
def xorOctets (ks bs : List UInt8) : List UInt8 := List.zipWith (· ^^^ ·) ks bs

theorem xorOctets_length (ks bs : List UInt8) (h : bs.length ≤ ks.length) :
    (xorOctets ks bs).length = bs.length := by
  rw [xorOctets, List.length_zipWith]
  omega

theorem xorOctets_cancel (ks bs : List UInt8) (h : bs.length ≤ ks.length) :
    xorOctets ks (xorOctets ks bs) = bs := by
  induction ks generalizing bs with
  | nil =>
    rw [List.length_nil] at h
    rw [List.length_eq_zero_iff.mp (Nat.le_zero.mp h)]
    rfl
  | cons k ks ih =>
    cases bs with
    | nil => rfl
    | cons b bs =>
      rw [List.length_cons, List.length_cons] at h
      have hb : k ^^^ (k ^^^ b) = b := by rw [← UInt8.xor_assoc, UInt8.xor_self, UInt8.zero_xor]
      have ht := ih bs (by omega)
      simp only [xorOctets, List.zipWith_cons_cons] at ht ⊢
      rw [hb, ht]

/-! ## The mode -/

section Mode
variable (block : List UInt8 → List UInt8) (n : ℕ)

def encryptAux : ℕ → List UInt8 → List UInt8 → List UInt8
  | 0, _, _ => []
  | _ + 1, _, [] => []
  | fuel + 1, feedback, b :: bs =>
    let cipher := xorOctets (block feedback) ((b :: bs).take n)
    cipher ++ encryptAux fuel cipher ((b :: bs).drop n)

def decryptAux : ℕ → List UInt8 → List UInt8 → List UInt8
  | 0, _, _ => []
  | _ + 1, _, [] => []
  | fuel + 1, feedback, b :: bs =>
    let cipher := (b :: bs).take n
    xorOctets (block feedback) cipher ++ decryptAux fuel cipher ((b :: bs).drop n)

/-- The mode with block length `n`; there are at most as many blocks as octets. -/
def encrypt (iv bs : List UInt8) : List UInt8 := encryptAux block n bs.length iv bs

def decrypt (iv bs : List UInt8) : List UInt8 := decryptAux block n bs.length iv bs

variable {block n} (hn : 0 < n) (hblock : ∀ x, x.length = n → (block x).length = n)
include hn hblock

theorem encryptAux_length (fuel : ℕ) (feedback bs : List UInt8) (hf : feedback.length = n)
    (h : bs.length ≤ fuel) : (encryptAux block n fuel feedback bs).length = bs.length := by
  induction fuel generalizing feedback bs with
  | zero => rw [List.length_eq_zero_iff.mp (Nat.le_zero.mp h)]; rfl
  | succ fuel ih =>
    cases bs with
    | nil => rfl
    | cons b bs =>
      have hk := hblock feedback hf
      have hc : (xorOctets (block feedback) ((b :: bs).take n)).length =
          ((b :: bs).take n).length := by
        apply xorOctets_length
        rw [hk, List.length_take]
        omega
      rw [List.length_cons] at h
      rw [encryptAux, List.length_append, hc]
      obtain hlt | hge := Nat.lt_or_ge (b :: bs).length n
      · -- a short block is the last one
        rw [List.drop_eq_nil_of_le (by omega), List.take_of_length_le (by omega)]
        cases fuel <;> rfl
      · rw [List.length_take, Nat.min_eq_left hge] at hc
        rw [ih _ _ hc (by rw [List.length_drop, List.length_cons]; omega), List.length_take,
          List.length_drop]
        omega

/-- Block by block: the ciphertext block is both what is decrypted and the next feedback. -/
theorem decryptAux_encryptAux (fuel fuel' : ℕ) (feedback bs : List UInt8)
    (hf : feedback.length = n) (h : bs.length ≤ fuel) (h' : bs.length ≤ fuel') :
    decryptAux block n fuel' feedback (encryptAux block n fuel feedback bs) = bs := by
  induction fuel generalizing fuel' feedback bs with
  | zero =>
    rw [List.length_eq_zero_iff.mp (Nat.le_zero.mp h)]
    cases fuel' <;> rfl
  | succ fuel ih =>
    cases bs with
    | nil => cases fuel' <;> rfl
    | cons b bs =>
      rw [List.length_cons] at h h'
      obtain ⟨fuel', rfl⟩ : ∃ f, fuel' = f + 1 := ⟨fuel' - 1, by omega⟩
      have hk := hblock feedback hf
      have htake : ((b :: bs).take n).length ≤ (block feedback).length := by
        rw [hk, List.length_take]
        omega
      have hc := xorOctets_length _ _ htake
      rw [encryptAux]
      generalize hcipher : xorOctets (block feedback) ((b :: bs).take n) = cipher at hc ⊢
      have hplain : xorOctets (block feedback) cipher = (b :: bs).take n := by
        rw [← hcipher, xorOctets_cancel _ _ htake]
      cases cipher with
      | nil =>
        rw [List.length_take, List.length_nil, List.length_cons] at hc
        omega
      | cons c cs =>
        rw [List.cons_append, decryptAux]
        rw [← List.cons_append]
        obtain hlt | hge := Nat.lt_or_ge (b :: bs).length n
        · have hnil : (b :: bs).drop n = [] := List.drop_eq_nil_of_le (by omega)
          have hall : (b :: bs).take n = b :: bs := List.take_of_length_le (by omega)
          have htail : ∀ f x, encryptAux block n f x [] = [] := by
            intro f x
            cases f <;> rfl
          rw [hall] at hc hplain
          rw [hnil, htail, List.append_nil, List.take_of_length_le (by omega),
            List.drop_eq_nil_of_le (by omega), hplain]
          cases fuel' <;> simp [decryptAux]
        · rw [List.length_take, Nat.min_eq_left hge] at hc
          have hfront : (c :: cs ++ encryptAux block n fuel (c :: cs) ((b :: bs).drop n)).take n =
              c :: cs := List.take_left' hc
          have hback : (c :: cs ++ encryptAux block n fuel (c :: cs) ((b :: bs).drop n)).drop n =
              encryptAux block n fuel (c :: cs) ((b :: bs).drop n) := List.drop_left' hc
          have hdrop : ((b :: bs).drop n).length ≤ bs.length := by
            rw [List.length_drop, List.length_cons]
            omega
          rw [hfront, hback, hplain, ih fuel' _ _ hc (by omega) (by omega), List.take_append_drop]

theorem encrypt_length (iv bs : List UInt8) (hiv : iv.length = n) :
    (encrypt block n iv bs).length = bs.length :=
  encryptAux_length hn hblock bs.length iv bs hiv le_rfl

/-- **Round trip.** Decryption under the same initialization vector undoes encryption. -/
theorem decrypt_encrypt (iv bs : List UInt8) (hiv : iv.length = n) :
    decrypt block n iv (encrypt block n iv bs) = bs := by
  rw [decrypt, encrypt_length hn hblock iv bs hiv, encrypt]
  exact decryptAux_encryptAux hn hblock _ _ iv bs hiv le_rfl le_rfl

end Mode
end SnmpTrap.Cipher
