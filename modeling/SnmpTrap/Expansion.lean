import SnmpTrap.SameTrap

/-! Password expansion: what `incremental_digest` feeds to any hash is the password repeated to
1 MiB, and the key is a function of that stream. -/
namespace SnmpTrap
open Rust
set_option autoImplicit false
set_option maxHeartbeats 250000
set_option maxRecDepth 120000

/-! ## The slices that are fed -/

/-- A hash that keeps the slices it is fed. -/
def Crypto.recorder : Crypto where
  Hasher _ := List (List UInt8)
  new _ := []
  update fed slice := fed ++ [slice]
  finalize fed := fed.flatten
  digest _ bs := bs
  hmac _ _ _ := none
  cfbEncrypt _ _ _ _ := none
  aes _ _ block := block

/-- The slices that `incremental_digest` feeds to the hasher. -/
def fedSlices (pw : List UInt8) (proto : AuthProtocol) : Run (List (List UInt8)) :=
  incrementalLoop Crypto.recorder pw target target (Crypto.recorder.new proto) 0

theorem recorder_foldl {proto : AuthProtocol} (slices : List (List UInt8))
    (fed : Crypto.recorder.Hasher proto) :
    slices.foldl Crypto.recorder.update fed = List.append fed slices := by
  induction slices generalizing fed with
  | nil => exact (List.append_nil fed).symm
  | cons slice slices ih =>
    rw [List.foldl_cons, ih]
    exact List.append_assoc fed [slice] slices

/-- Octet `i` of the expansion is octet `i` modulo the length. -/
theorem expansion_getElem? {pw : List UInt8} {n i : ℕ} (hpw : 0 < pw.length) (hi : i < n) :
    (expansion pw n)[i]? = pw[i % pw.length]? := by
  have hmod := Nat.mod_lt i hpw
  rw [expansion, List.getElem?_map, List.getElem?_range hi, Option.map_some,
    List.getD_eq_getElem _ _ hmod, List.getElem?_eq_getElem hmod]

/-! ## The key -/

/-- **The expansion of RFC 3414 A.2**, for every password and every streaming hash. -/
theorem passwordToKey_rfc3414 (password : String) (hlen : 8 ≤ (asBytes password).length) :
    ∃ slices : List (List UInt8),
      (∀ proto, fedSlices (asBytes password) proto = .ok slices) ∧
      (∀ (c : Crypto) (proto : AuthProtocol), incrementalDigest c (asBytes password) target proto =
        .ok (c.finalize (slices.foldl c.update (c.new proto)))) ∧
      slices.flatten.length = 1048576 ∧
      (∀ i < 1048576, slices.flatten[i]? = (asBytes password)[i % (asBytes password).length]?) ∧
      ∀ c : Crypto, c.Streaming → ∀ (engineId : EngineId) (proto : AuthProtocol),
        passwordToKey c password engineId proto =
          .ok (c.digest proto (c.digest proto slices.flatten ++ engineId.bytes ++
            c.digest proto slices.flatten)) ∧
        ∀ other, 8 ≤ (asBytes other).length →
          expansion (asBytes other) 1048576 = expansion (asBytes password) 1048576 →
          passwordToKey c other engineId proto = passwordToKey c password engineId proto := by
  have hpos : 0 < (asBytes password).length := by omega
  obtain ⟨slices, hexp, hloop⟩ := incrementalLoop_start (asBytes password) target hpos
  refine ⟨slices, ?_, ?_, ?_, ?_, ?_⟩
  · intro proto
    have hfed := recorder_foldl slices (Crypto.recorder.new proto)
    exact (hloop Crypto.recorder _).trans (congrArg Except.ok hfed)
  · intro c proto
    rw [incrementalDigest, hloop, Outcome.ok_bind]
  · rw [hexp, expansion_length]
    rfl
  · intro i hi
    rw [hexp]
    exact expansion_getElem? hpos hi
  · intro c hs engineId proto
    rw [passwordToKey_eq hs password engineId proto hlen]
    constructor
    · rw [hexp]
      rfl
    · intro other hother hsame
      rw [passwordToKey_eq hs other engineId proto hother, localizedKey, hsame]
      rfl

theorem expansion_maplesyrup (n : ℕ) :
    expansion (asBytes "maplesyrupmaplesyrup") n = expansion (asBytes "maplesyrup") n := by
  apply List.map_congr_left
  intro i _
  have hlong : (asBytes "maplesyrupmaplesyrup").length = 20 := by decide
  have hshort : (asBytes "maplesyrup").length = 10 := by decide
  have hcycle : ∀ j < 20, (asBytes "maplesyrupmaplesyrup").getD j 0 =
      (asBytes "maplesyrup").getD (j % 10) 0 := by decide +kernel
  rw [hlong, hshort, hcycle (i % 20) (Nat.mod_lt i (by decide)), Nat.mod_mod_of_dvd i (by decide)]

/-- The SHA-1 vector of RFC 3414 A.3, also for the password written twice. -/
theorem passwordToKey_rfc3414_maplesyrup :
    8 ≤ (asBytes "maplesyrup").length ∧ maplesyrupCrypto.Streaming ∧
      passwordToKey maplesyrupCrypto "maplesyrup" engineId2 .sha1 = .ok maplesyrupKey ∧
      passwordToKey maplesyrupCrypto "maplesyrupmaplesyrup" engineId2 .sha1 = .ok maplesyrupKey := by
  have hlen : 8 ≤ (asBytes "maplesyrup").length := by decide
  have hs : maplesyrupCrypto.Streaming := maplesyrupCrypto_lawful.streaming
  have hvector : passwordToKey maplesyrupCrypto "maplesyrup" engineId2 .sha1 =
      .ok maplesyrupKey := by
    rw [passwordToKey_eq hs "maplesyrup" engineId2 .sha1 hlen, localizedKey_maplesyrup]
  obtain ⟨slices, _, _, _, _, hkey⟩ := passwordToKey_rfc3414 "maplesyrup" hlen
  obtain ⟨_, hsame⟩ := hkey maplesyrupCrypto hs engineId2 .sha1
  have htwice := hsame "maplesyrupmaplesyrup" (by decide) (expansion_maplesyrup 1048576)
  exact ⟨hlen, hs, hvector, htwice.trans hvector⟩

end SnmpTrap
