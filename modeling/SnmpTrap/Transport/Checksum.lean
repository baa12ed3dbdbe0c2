import SnmpTrap.Transport.Receiver

/-! `ip_checksum` on slices up to the length at which its accumulator could wrap. -/
namespace SnmpTrap.Transport
open Rust Numeral
set_option autoImplicit false
set_option maxHeartbeats 250000
set_option maxRecDepth 120000

theorem not_ipChecksum_toNat (data : List UInt8) (h : data.length ≤ 131074) :
    (~~~ ipChecksum data).toNat = Net.onesComplement (Net.wordSum data) := by
  have hle := Net.onesComplement_le (Net.wordSum data)
  have hsize : UInt16.size = 65536 := rfl
  rw [UInt16.toNat_not, ipChecksum_toNat data h]
  omega

theorem ipChecksum_eq_zero_iff (data : List UInt8) (h : data.length ≤ 131074) :
    ipChecksum data = 0 ↔ Net.Verifies data := by
  have hle := Net.onesComplement_le (Net.wordSum data)
  rw [← UInt16.toNat_inj, ipChecksum_toNat data h, UInt16.toNat_zero, Net.Verifies]
  omega

/-- No addition wraps: after any number of octets the accumulator is the sum of the words. -/
theorem addWords_take (data : List UInt8) (h : data.length ≤ 131074) (k : ℕ) :
    (addWords 0 (data.take k)).toNat = Net.wordSum (data.take k) := by
  have hsum := Net.wordSum_le (data.take k)
  have hlen : (data.take k).length ≤ 131074 := by
    rw [List.length_take]
    omega
  rw [addWords_toNat _ 0 (by simp only [UInt32.toNat_zero]; omega), UInt32.toNat_zero,
    Nat.zero_add]

/-- **`ip_checksum` is the RFC 1071 checksum on its whole safe range.** The accumulator never
wraps and what is left of it after folding fits 16 bits; the complement of the result is the
one's-complement sum of the words, zero for zeros alone and else the representative in
`1 .. 65535`; and the checksum, written into its field, makes the slice sum to all ones. -/
theorem ipChecksum_rfc1071 (data : List UInt8) (h : data.length ≤ 131074) :
    (∀ k, (addWords 0 (data.take k)).toNat = Net.wordSum (data.take k)) ∧
    (foldCarries (addWords 0 data)).toNat < 2 ^ 16 ∧
    (~~~ ipChecksum data).toNat = Net.onesComplementSum data ∧
    ((∀ b ∈ data, b = 0) → ~~~ ipChecksum data = 0) ∧
    ((∃ b ∈ data, b ≠ 0) → 1 ≤ (~~~ ipChecksum data).toNat ∧
      (~~~ ipChecksum data).toNat ≤ 65535 ∧
      (~~~ ipChecksum data).toNat ≡ Net.wordSum data [MOD 65535]) ∧
    ∀ before after, data = before ++ [0, 0] ++ after → before.length % 2 = 0 →
      ipChecksum (before ++ toBeBytes (ipChecksum data) ++ after) = 0 := by
  have hnot := not_ipChecksum_toNat data h
  have hle := Net.onesComplement_le (Net.wordSum data)
  refine ⟨addWords_take data h, ?_, ?_, fun hzero => ?_, fun hsome => ?_, ?_⟩
  · rw [foldCarries_toNat]
    have hle' := Net.onesComplement_le (addWords 0 data).toNat
    omega
  · rw [hnot, Net.onesComplementSum_eq]
  · rw [(Net.wordSum_eq_zero_iff data).mpr hzero] at hnot
    exact UInt16.toNat_inj.mp hnot
  · have hne : Net.onesComplement (Net.wordSum data) ≠ 0 := by
      rw [ne_eq, Net.onesComplement_eq_zero_iff, Net.wordSum_eq_zero_iff]
      intro hall
      obtain ⟨b, hb, hb0⟩ := hsome
      exact hb0 (hall b hb)
    rw [hnot]
    exact ⟨Nat.one_le_iff_ne_zero.mpr hne, hle, Net.onesComplement_modEq _⟩
  · rintro before after rfl heven
    have hlen := toBeBytes_length (ipChecksum (before ++ [0, 0] ++ after))
    rw [ipChecksum_eq_zero_iff]
    · exact verifies_splice before after heven h
    · simp only [List.length_append, List.length_cons, List.length_nil] at h ⊢
      omega

/-- The example of RFC 1071. -/
theorem ipChecksum_rfc1071_example :
    (~~~ ipChecksum [0x00, 0x01, 0xF2, 0x03, 0xF4, 0xF5, 0xF6, 0xF7]).toNat = 0xDDF2 := by
  have h := (ipChecksum_rfc1071 [0x00, 0x01, 0xF2, 0x03, 0xF4, 0xF5, 0xF6, 0xF7]
    (by decide)).2.2.1
  rw [h]
  decide

end SnmpTrap.Transport
