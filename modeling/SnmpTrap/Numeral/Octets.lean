import SnmpTrap.Numeral.Digits

/-! Octet strings as base-256 numerals, most significant octet first: in the least number of
octets, or in a fixed number of them. -/
namespace SnmpTrap.Numeral
set_option autoImplicit false
set_option maxHeartbeats 250000
set_option maxRecDepth 120000

/-- The least number of octets that hold `n`, most significant first. -/
def octets (n : ℕ) : List UInt8 := (digits 256 n).map UInt8.ofNat

def ofOctets (bs : List UInt8) : ℕ := ofDigits 256 (bs.map UInt8.toNat)

theorem map_toNat_ofNat (ds : List ℕ) (h : ∀ d ∈ ds, d < 256) :
    (ds.map UInt8.ofNat).map UInt8.toNat = ds := by
  rw [List.map_map]
  conv_rhs => rw [← List.map_id ds]
  apply List.map_congr_left
  intro d hd
  have := h d hd
  simp only [Function.comp_apply, UInt8.toNat_ofNat', id_eq]
  omega

@[simp] theorem octets_length (n : ℕ) : (octets n).length = (digits 256 n).length := by
  simp [octets]

theorem ofOctets_octets (n : ℕ) : ofOctets (octets n) = n := by
  unfold ofOctets octets
  rw [map_toNat_ofNat _ (digits_lt (by decide) n)]
  exact ofDigits_digits (by decide) n

theorem ofOctets_lt (bs : List UInt8) : ofOctets bs < 256 ^ bs.length := by
  have h := ofDigits_lt 256 (bs.map UInt8.toNat) (by
    intro d hd
    obtain ⟨b, _, rfl⟩ := List.mem_map.mp hd
    exact b.toNat_lt)
  rwa [List.length_map] at h

theorem ofOctets_cons (b : UInt8) (bs : List UInt8) :
    ofOctets (b :: bs) = b.toNat * 256 ^ bs.length + ofOctets bs := by
  simp [ofOctets, ofDigits_cons]

theorem octets_length_pos (n : ℕ) : 0 < (octets n).length := by
  rw [octets_length]
  exact digits_length_pos 256 n

/-! ## A fixed number of octets -/

/-- Big-endian octets of `n`, exactly `k` of them. -/
def fixedOctets : ℕ → ℕ → List UInt8
  | 0, _ => []
  | k + 1, n => fixedOctets k (n / 256) ++ [UInt8.ofNat (n % 256)]

@[simp] theorem fixedOctets_length (k n : ℕ) : (fixedOctets k n).length = k := by
  induction k generalizing n with
  | zero => rfl
  | succ k ih => simp [fixedOctets, ih]

theorem ofOctets_concat (bs : List UInt8) (b : UInt8) :
    ofOctets (bs ++ [b]) = ofOctets bs * 256 + b.toNat := by
  simp [ofOctets, ofDigits_concat]

theorem ofOctets_fixedOctets (k n : ℕ) (h : n < 256 ^ k) : ofOctets (fixedOctets k n) = n := by
  induction k generalizing n with
  | zero =>
    have : n = 0 := by simpa using h
    subst this
    rfl
  | succ k ih =>
    have hd : n / 256 < 256 ^ k := Nat.div_lt_of_lt_mul (by rwa [pow_succ, mul_comm] at h)
    have hb : (UInt8.ofNat (n % 256)).toNat = n % 256 := by
      rw [UInt8.toNat_ofNat']
      omega
    rw [fixedOctets, ofOctets_concat, ih (n / 256) hd, hb]
    exact Nat.div_add_mod' n 256

end SnmpTrap.Numeral
