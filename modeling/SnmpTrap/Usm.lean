import SnmpTrap.Cipher.Cfb
import SnmpTrap.Engine

/-! USM cryptography (`usm.rs`): password localization, the truncated HMAC and AES in cipher
feedback. The hash, HMAC and cipher crates are a parameter, `Crypto`. -/
namespace SnmpTrap
open Rust Numeral
set_option autoImplicit false
set_option maxHeartbeats 250000
set_option maxRecDepth 120000

inductive AuthProtocol where
  | sha1
  | sha224
  | sha256
  | sha384
  | sha512
deriving DecidableEq, Repr

def AuthProtocol.digestLen : AuthProtocol → ℕ
  | .sha1 => 20
  | .sha224 => 28
  | .sha256 => 32
  | .sha384 => 48
  | .sha512 => 64

def AuthProtocol.authParamLen : AuthProtocol → ℕ
  | .sha1 => 12
  | .sha224 => 16
  | .sha256 => 24
  | .sha384 => 32
  | .sha512 => 48

def AuthProtocol.display : AuthProtocol → String
  | .sha1 => "SHA-1"
  | .sha224 => "SHA-224"
  | .sha256 => "SHA-256"
  | .sha384 => "SHA-384"
  | .sha512 => "SHA-512"

inductive PrivProtocol where
  | aes128
  | aes192
  | aes256
deriving DecidableEq, Repr

def PrivProtocol.keyLen : PrivProtocol → ℕ
  | .aes128 => 16
  | .aes192 => 24
  | .aes256 => 32

def PrivProtocol.display : PrivProtocol → String
  | .aes128 => "AES-128"
  | .aes192 => "AES-192"
  | .aes256 => "AES-256"

theorem AuthProtocol.authParamLen_le (p : AuthProtocol) : p.authParamLen ≤ p.digestLen := by
  cases p <;> decide

theorem AuthProtocol.authParamLen_le_max (p : AuthProtocol) : p.authParamLen ≤ 64 := by
  cases p <;> decide

/-! ## The crates -/

/-- `sha1`, `sha2`, `hmac`, `aes` and `cfb-mode`: a streaming hash and a one-shot one, an HMAC
that may refuse a key, an encryptor that may refuse a key or an IV, and the block cipher in it. -/
structure Crypto where
  Hasher : AuthProtocol → Type
  new : (p : AuthProtocol) → Hasher p
  update : {p : AuthProtocol} → Hasher p → List UInt8 → Hasher p
  finalize : {p : AuthProtocol} → Hasher p → List UInt8
  digest : AuthProtocol → List UInt8 → List UInt8
  hmac : AuthProtocol → (key message : List UInt8) → Option (List UInt8)
  cfbEncrypt : PrivProtocol → (key iv plaintext : List UInt8) → Option (List UInt8)
  aes : PrivProtocol → (key block : List UInt8) → List UInt8

/-- What is relied on: updates concatenate, digests and tags have the protocol's length, every
HMAC key is accepted, and keys and IVs of the right length give full-block cipher feedback. -/
structure Crypto.Lawful (c : Crypto) : Prop where
  stream : ∀ (p : AuthProtocol) (slices : List (List UInt8)),
    c.finalize (slices.foldl c.update (c.new p)) = c.digest p slices.flatten
  digest_length : ∀ (p : AuthProtocol) (bs : List UInt8), (c.digest p bs).length = p.digestLen
  hmac : ∀ (p : AuthProtocol) (key message : List UInt8),
    ∃ tag, c.hmac p key message = some tag ∧ tag.length = p.digestLen
  cfb : ∀ (p : PrivProtocol) (key iv plaintext : List UInt8), key.length = p.keyLen →
    iv.length = 16 →
    c.cfbEncrypt p key iv plaintext = some (Cipher.encrypt (c.aes p key) 16 iv plaintext)
  aes_length : ∀ (p : PrivProtocol) (key block : List UInt8), key.length = p.keyLen →
    block.length = 16 → (c.aes p key block).length = 16

/-- A hash of slices is the hash of their concatenation. -/
def Crypto.Streaming (c : Crypto) : Prop :=
  ∀ (p : AuthProtocol) (slices : List (List UInt8)),
    c.finalize (slices.foldl c.update (c.new p)) = c.digest p slices.flatten

theorem Crypto.Lawful.streaming {c : Crypto} (hc : c.Lawful) : c.Streaming := hc.stream

/-- The first `n` octets, with zeros where there are fewer. -/
def resize (n : ℕ) (bs : List UInt8) : List UInt8 := (bs ++ List.replicate n 0).take n

@[simp] theorem resize_length (n : ℕ) (bs : List UInt8) : (resize n bs).length = n := by
  simp [resize]

/-- The crates of any digest, HMAC and block function, cut to the protocols' lengths. -/
def Crypto.ofFunctions (digest : AuthProtocol → List UInt8 → List UInt8)
    (hmac : AuthProtocol → List UInt8 → List UInt8 → List UInt8)
    (aes : PrivProtocol → List UInt8 → List UInt8 → List UInt8) : Crypto where
  Hasher _ := List UInt8
  new _ := []
  update hasher bs := hasher ++ bs
  finalize {p} hasher := resize p.digestLen (digest p hasher)
  digest p bs := resize p.digestLen (digest p bs)
  hmac p key message := some (resize p.digestLen (hmac p key message))
  cfbEncrypt p key iv plaintext :=
    if key.length = p.keyLen ∧ iv.length = 16 then
      some (Cipher.encrypt (fun block => resize 16 (aes p key block)) 16 iv plaintext)
    else none
  aes p key block := resize 16 (aes p key block)

theorem foldl_append_flatten (slices : List (List UInt8)) (start : List UInt8) :
    slices.foldl (· ++ ·) start = start ++ slices.flatten := by
  induction slices generalizing start with
  | nil => simp
  | cons slice slices ih => rw [List.foldl_cons, ih, List.flatten_cons, List.append_assoc]

theorem Crypto.ofFunctions_lawful (digest : AuthProtocol → List UInt8 → List UInt8)
    (hmac : AuthProtocol → List UInt8 → List UInt8 → List UInt8)
    (aes : PrivProtocol → List UInt8 → List UInt8 → List UInt8) :
    (Crypto.ofFunctions digest hmac aes).Lawful where
  stream p slices := by
    have h := foldl_append_flatten slices []
    rw [List.nil_append] at h
    exact congrArg (fun bs => resize p.digestLen (digest p bs)) h
  digest_length p bs := resize_length _ _
  hmac p key message := ⟨_, rfl, resize_length _ _⟩
  cfb p key iv plaintext hkey hiv := if_pos ⟨hkey, hiv⟩
  aes_length p key block _ _ := resize_length _ _

/-! ## Password localization -/

def minUsmPasswordLen : ℕ := 8

def target : ℕ := 1024 * 1024

/-- The `while written < target` loop. Running out of fuel stands for a loop without end. -/
def incrementalLoop (c : Crypto) {p : AuthProtocol} (pw : List UInt8) (target : ℕ) :
    ℕ → c.Hasher p → ℕ → Run (c.Hasher p)
  | fuel, hasher, written =>
    if written < target then
      match fuel with
      | 0 => Outcome.panicked "loop without end"
      | fuel + 1 => do
        let take := min (target - written) pw.length
        let slice ← Outcome.sliceTo pw take
        incrementalLoop c pw target fuel (c.update hasher slice) (written + take)
    else .ok hasher

def incrementalDigest (c : Crypto) (pw : List UInt8) (target : ℕ) (proto : AuthProtocol) :
    Run (List UInt8) := do
  let hasher ← incrementalLoop c pw target target (c.new proto) 0
  .ok (c.finalize hasher)

def passwordIntermediateDigest (c : Crypto) (password : String) (proto : AuthProtocol) :
    Run (List UInt8) :=
  let pw := asBytes password
  if pw = [] then .ok (c.digest proto []) else incrementalDigest c pw target proto

def passwordToKey (c : Crypto) (password : String) (engineId : EngineId)
    (proto : AuthProtocol) : Run (List UInt8) :=
  let len := (asBytes password).length
  if len < minUsmPasswordLen then
    usage s!"USM password must be at least {minUsmPasswordLen} characters (RFC 3414 §11.2); got {len}"
  else do
    let intermediate ← passwordIntermediateDigest c password proto
    .ok (c.digest proto (intermediate ++ engineId.bytes ++ intermediate))

def privKeyFromPassword (c : Crypto) (password : String) (engineId : EngineId)
    (authProto : AuthProtocol) (privProto : PrivProtocol) : Run (List UInt8) := do
  let key ← passwordToKey c password engineId authProto
  let need := privProto.keyLen
  if key.length < need then
    usage (s!"auth protocol {authProto.display} produces a {key.length}-byte localized key, " ++
      s!"but priv protocol {privProto.display} requires {need} bytes. Use SHA-224 or higher " ++
      "with AES-192, or SHA-256 or higher with AES-256.")
  else Outcome.sliceTo key need

/-! ## Signing and encryption -/

def authSign (c : Crypto) (message authKey : List UInt8) (proto : AuthProtocol) :
    Run (List UInt8) := do
  Outcome.assert (authKey.length = proto.digestLen)
    s!"auth_key must be exactly {proto.digestLen} bytes for {proto.display} (got {authKey.length})"
  let full ← Outcome.expect "HMAC accepts any key length" (c.hmac proto authKey message)
  Outcome.sliceTo full proto.authParamLen

/-- `engineBoots || engineTime || salt`, each big-endian. -/
def makeAesIv (engineBoots engineTime : UInt32) (salt : UInt64) : List UInt8 :=
  fixedOctets 4 engineBoots.toNat ++ fixedOctets 4 engineTime.toNat ++ fixedOctets 8 salt.toNat

def privEncrypt (c : Crypto) (plaintext privKey : List UInt8) (engineBoots engineTime : UInt32)
    (salt : UInt64) (proto : PrivProtocol) : Run (List UInt8) := do
  Outcome.assert (proto.keyLen ≤ privKey.length)
    s!"priv_key is {privKey.length} bytes, but {proto.display} requires {proto.keyLen}"
  let iv := makeAesIv engineBoots engineTime salt
  let key ← Outcome.sliceTo privKey proto.keyLen
  Outcome.expect s!"{proto.display} key length validated by caller"
    (c.cfbEncrypt proto key iv plaintext)

/-! ## The expansion that is hashed -/

/-- The first `n` octets of the password repeated without end. -/
def expansion (pw : List UInt8) (n : ℕ) : List UInt8 :=
  (List.range n).map fun i => pw.getD (i % pw.length) 0

@[simp] theorem expansion_length (pw : List UInt8) (n : ℕ) : (expansion pw n).length = n := by
  simp [expansion]

theorem expansion_add (pw : List UInt8) (n take : ℕ) (hn : pw.length ∣ n)
    (ht : take ≤ pw.length) : expansion pw (n + take) = expansion pw n ++ pw.take take := by
  rw [expansion, List.range_add, List.map_append, List.map_map]
  congr 1
  apply List.ext_getElem
  · rw [List.length_map, List.length_range, List.length_take]
    omega
  · intro i h₁ h₂
    rw [List.length_map, List.length_range] at h₁
    obtain ⟨k, rfl⟩ := hn
    rw [List.getElem_map, List.getElem_range, List.getElem_take, Function.comp_apply,
      Nat.mul_add_mod, Nat.mod_eq_of_lt (by omega), List.getD_eq_getElem _ _ (by omega)]

theorem incrementalLoop_done (c : Crypto) {p : AuthProtocol} (pw : List UInt8) (target fuel : ℕ)
    (hasher : c.Hasher p) : incrementalLoop c pw target fuel hasher target = .ok hasher := by
  rw [incrementalLoop.eq_def]
  exact if_neg (lt_irrefl target)

/-- The loop feeds slices, the same to every hash, whose concatenation goes on with the expansion:
what was fed before is a whole number of repetitions, and only the last slice may break a
repetition off. -/
theorem incrementalLoop_eq (pw : List UInt8) (target : ℕ) (hpw : 0 < pw.length) (fuel written : ℕ)
    (hfuel : target - written ≤ fuel) (hdvd : written < target → pw.length ∣ written)
    (hle : written ≤ target) :
    ∃ slices : List (List UInt8),
      (∀ (c : Crypto) {p : AuthProtocol} (hasher : c.Hasher p),
        incrementalLoop c pw target fuel hasher written = .ok (slices.foldl c.update hasher)) ∧
      expansion pw target = expansion pw written ++ slices.flatten := by
  induction fuel generalizing written with
  | zero =>
    obtain rfl : written = target := by omega
    exact ⟨[], fun c p hasher => incrementalLoop_done c pw written 0 hasher, by simp⟩
  | succ fuel ih =>
    by_cases hlt : written < target
    · have htake : min (target - written) pw.length ≤ pw.length := Nat.min_le_right _ _
      have hd := hdvd hlt
      have hnext : written + min (target - written) pw.length < target →
          pw.length ∣ written + min (target - written) pw.length := by
        intro h
        rw [Nat.min_eq_right (by omega)]
        exact Nat.dvd_add_self_right.mpr hd
      obtain ⟨slices, hloop, hexp⟩ :=
        ih (written + min (target - written) pw.length) (by omega) hnext (by omega)
      refine ⟨pw.take (min (target - written) pw.length) :: slices, ?_, ?_⟩
      · intro c p hasher
        rw [incrementalLoop, if_pos hlt]
        simp only
        rw [Outcome.sliceTo_eq_ok htake, Outcome.ok_bind, hloop, List.foldl_cons]
      · rw [hexp, expansion_add pw written _ hd htake, List.flatten_cons, List.append_assoc]
    · obtain rfl : written = target := by omega
      exact ⟨[], fun c p hasher => incrementalLoop_done c pw written (fuel + 1) hasher, by simp⟩

/-- The whole loop: it ends, and what it fed is the expansion. -/
theorem incrementalLoop_start (pw : List UInt8) (target : ℕ) (hpw : 0 < pw.length) :
    ∃ slices : List (List UInt8), slices.flatten = expansion pw target ∧
      ∀ (c : Crypto) {p : AuthProtocol} (hasher : c.Hasher p),
        incrementalLoop c pw target target hasher 0 = .ok (slices.foldl c.update hasher) := by
  obtain ⟨slices, hloop, hexp⟩ := incrementalLoop_eq pw target hpw target 0
    (by omega) (fun _ => Nat.dvd_zero _) (Nat.zero_le _)
  have hempty : expansion pw 0 = [] := rfl
  rw [hempty, List.nil_append] at hexp
  exact ⟨slices, hexp.symm, hloop⟩

/-! ## Specifications -/

/-- RFC 3414 A.2: the digest of the expansion on both sides of the engine ID, digested. -/
def localizedKey (c : Crypto) (password : String) (engineId : EngineId)
    (proto : AuthProtocol) : List UInt8 :=
  let d := c.digest proto (expansion (asBytes password) (1024 * 1024))
  c.digest proto (d ++ engineId.bytes ++ d)

section Streaming
variable {c : Crypto} (hs : c.Streaming)
include hs

theorem incrementalDigest_eq (pw : List UInt8) (target : ℕ) (proto : AuthProtocol)
    (hpw : 0 < pw.length) :
    incrementalDigest c pw target proto = .ok (c.digest proto (expansion pw target)) := by
  obtain ⟨slices, hexp, hloop⟩ := incrementalLoop_start pw target hpw
  rw [incrementalDigest, hloop, Outcome.ok_bind, hs, hexp]

/-- A password of at least eight octets gives the localized key. -/
theorem passwordToKey_eq (password : String) (engineId : EngineId) (proto : AuthProtocol)
    (h : minUsmPasswordLen ≤ (asBytes password).length) :
    passwordToKey c password engineId proto = .ok (localizedKey c password engineId proto) := by
  have hpos : 0 < (asBytes password).length := lt_of_lt_of_le (by decide) h
  have hne : asBytes password ≠ [] := List.ne_nil_of_length_pos hpos
  unfold passwordToKey
  rw [if_neg (Nat.not_lt.mpr h), passwordIntermediateDigest, if_neg hne,
    incrementalDigest_eq hs _ _ _ hpos, Outcome.ok_bind]
  rfl

end Streaming

section Lawful
variable {c : Crypto} (hc : c.Lawful)
include hc

theorem localizedKey_length (password : String) (engineId : EngineId) (proto : AuthProtocol) :
    (localizedKey c password engineId proto).length = proto.digestLen :=
  hc.digest_length proto _

theorem privKeyFromPassword_eq (password : String) (engineId : EngineId)
    (authProto : AuthProtocol) (privProto : PrivProtocol)
    (h : minUsmPasswordLen ≤ (asBytes password).length)
    (hlen : privProto.keyLen ≤ authProto.digestLen) :
    privKeyFromPassword c password engineId authProto privProto =
      .ok ((localizedKey c password engineId authProto).take privProto.keyLen) := by
  have hkey := localizedKey_length hc password engineId authProto
  rw [privKeyFromPassword, passwordToKey_eq hc.streaming password engineId authProto h,
    Outcome.ok_bind]
  rw [if_neg (by omega), Outcome.sliceTo_eq_ok (by omega)]

theorem privKeyFromPassword_short (password : String) (engineId : EngineId)
    (authProto : AuthProtocol) (privProto : PrivProtocol)
    (h : minUsmPasswordLen ≤ (asBytes password).length)
    (hlen : authProto.digestLen < privProto.keyLen) :
    ∃ message, privKeyFromPassword c password engineId authProto privProto = usage message := by
  have hkey := localizedKey_length hc password engineId authProto
  rw [privKeyFromPassword, passwordToKey_eq hc.streaming password engineId authProto h,
    Outcome.ok_bind]
  rw [if_pos (by omega)]
  exact ⟨_, rfl⟩

theorem authSign_eq (message authKey : List UInt8) (proto : AuthProtocol)
    (hkey : authKey.length = proto.digestLen) :
    ∃ tag, c.hmac proto authKey message = some tag ∧
      authSign c message authKey proto = .ok (tag.take proto.authParamLen) ∧
      (tag.take proto.authParamLen).length = proto.authParamLen := by
  obtain ⟨tag, htag, hlen⟩ := hc.hmac proto authKey message
  have hle := proto.authParamLen_le
  refine ⟨tag, htag, ?_, by rw [List.length_take]; omega⟩
  rw [authSign, Outcome.assert, if_pos hkey, Outcome.ok_bind, htag]
  exact Outcome.sliceTo_eq_ok (by omega)

theorem privEncrypt_eq (plaintext privKey : List UInt8) (engineBoots engineTime : UInt32)
    (salt : UInt64) (proto : PrivProtocol) (hkey : proto.keyLen ≤ privKey.length) :
    privEncrypt c plaintext privKey engineBoots engineTime salt proto =
      .ok (Cipher.encrypt (c.aes proto (privKey.take proto.keyLen)) 16
        (makeAesIv engineBoots engineTime salt) plaintext) := by
  have hlen : (privKey.take proto.keyLen).length = proto.keyLen := by
    rw [List.length_take]
    omega
  rw [privEncrypt, Outcome.assert, if_pos hkey, Outcome.ok_bind, Outcome.sliceTo_eq_ok hkey,
    Outcome.ok_bind, hc.cfb proto _ _ _ hlen (by simp [makeAesIv])]
  rfl

theorem decrypt_privEncrypt (plaintext privKey ciphertext : List UInt8)
    (engineBoots engineTime : UInt32) (salt : UInt64) (proto : PrivProtocol)
    (hkey : proto.keyLen ≤ privKey.length)
    (h : privEncrypt c plaintext privKey engineBoots engineTime salt proto = .ok ciphertext) :
    Cipher.decrypt (c.aes proto (privKey.take proto.keyLen)) 16
      (makeAesIv engineBoots engineTime salt) ciphertext = plaintext := by
  have hlen : (privKey.take proto.keyLen).length = proto.keyLen := by
    rw [List.length_take]
    omega
  rw [privEncrypt_eq hc _ _ _ _ _ _ hkey] at h
  cases h
  exact Cipher.decrypt_encrypt (by decide) (fun x hx => hc.aes_length proto _ x hlen hx) _ _
    (by simp [makeAesIv])

end Lawful

/-! ## Inversion -/

/-- A tag only comes out of a call whose assertion held, and is the front of the HMAC. -/
theorem authSign_ok {c : Crypto} {message authKey tag : List UInt8} {proto : AuthProtocol}
    (h : authSign c message authKey proto = .ok tag) :
    authKey.length = proto.digestLen ∧
      ∃ full, c.hmac proto authKey message = some full ∧ tag = full.take proto.authParamLen := by
  obtain ⟨_, hassert, h⟩ := Outcome.bind_ok_iff.mp h
  obtain ⟨full, hfull, h⟩ := Outcome.bind_ok_iff.mp h
  exact ⟨Outcome.assert_ok_iff.mp hassert, full, Outcome.expect_ok_iff.mp hfull,
    (Outcome.sliceTo_ok_iff.mp h).2⟩

theorem privEncrypt_ok {c : Crypto} {plaintext privKey ciphertext : List UInt8}
    {engineBoots engineTime : UInt32} {salt : UInt64} {proto : PrivProtocol}
    (h : privEncrypt c plaintext privKey engineBoots engineTime salt proto = .ok ciphertext) :
    proto.keyLen ≤ privKey.length := by
  obtain ⟨_, hassert, _⟩ := Outcome.bind_ok_iff.mp h
  exact Outcome.assert_ok_iff.mp hassert

end SnmpTrap
