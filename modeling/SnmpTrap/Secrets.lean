import SnmpTrap.EndToEnd
import SnmpTrap.Rust.Alike

/-! Two command lines that differ in passwords of the same lengths: the same checks, keys of the
same lengths, and messages that read the same but for the tag and the ciphertext. -/
namespace SnmpTrap
open Rust Ber
set_option autoImplicit false
set_option maxHeartbeats 250000
set_option maxRecDepth 120000

/-! ## Passwords -/

def Cli.withPasswords (cli : Cli) (auth priv : Option String) : Cli :=
  { cli with authPassword := auth, privPassword := priv }

def octetCount (password : Option String) : Option ℕ :=
  password.map fun s => (asBytes s).length

/-- There are two passwords of one length, or none. -/
theorem octetCount_cases {password password' : Option String}
    (h : octetCount password = octetCount password') :
    password = none ∧ password' = none ∨ ∃ s s', password = some s ∧ password' = some s' ∧
      (asBytes s).length = (asBytes s').length := by
  cases password with
  | none =>
    cases password' with
    | none => exact Or.inl ⟨rfl, rfl⟩
    | some s' => cases h
  | some s =>
    cases password' with
    | none => cases h
    | some s' => exact Or.inr ⟨s, s', rfl, rfl, Option.some.inj h⟩

theorem octetCount_isSome {password password' : Option String}
    (h : octetCount password = octetCount password') : password.isSome = password'.isSome := by
  obtain ⟨rfl, rfl⟩ | ⟨s, s', rfl, rfl, _⟩ := octetCount_cases h
  · rfl
  · rfl

theorem eq_empty_iff (s : String) : s = "" ↔ (asBytes s).length = 0 := by
  constructor
  · rintro rfl
    rfl
  · intro h
    have hle := length_le_asBytes s
    rw [h, Nat.le_zero, List.length_eq_zero_iff] at hle
    exact String.toList_inj.mp hle

/-- The check counts, and nothing more. -/
theorem requirePassword_congr {password password' : Option String}
    (h : octetCount password = octetCount password') (flag level : String) :
    requirePassword password flag level = requirePassword password' flag level := by
  obtain ⟨rfl, rfl⟩ | ⟨s, s', rfl, rfl, hlen⟩ := octetCount_cases h
  · rfl
  · simp only [requirePassword, eq_empty_iff, hlen]

section Passwords
variable {cli : Cli} {auth priv : Option String}
  (hauth : octetCount auth = octetCount cli.authPassword)
  (hpriv : octetCount priv = octetCount cli.privPassword)
include hauth hpriv

theorem validateV3FlagScope_withPasswords :
    (cli.withPasswords auth priv).validateV3FlagScope = cli.validateV3FlagScope := by
  simp only [Cli.validateV3FlagScope, Cli.withPasswords, octetCount_isSome hauth,
    octetCount_isSome hpriv]

theorem validateV3Required_withPasswords :
    (cli.withPasswords auth priv).validateV3Required = cli.validateV3Required := by
  simp only [Cli.validateV3Required, Cli.withPasswords, requirePassword_congr hauth,
    requirePassword_congr hpriv]

/-- Validation refuses both command lines with one text, or lets both through. -/
theorem alike_validate : (cli.validate).Alike (fun a b => b = a.withPasswords auth priv ∧
      octetCount auth = octetCount a.authPassword ∧ octetCount priv = octetCount a.privPassword)
    ((cli.withPasswords auth priv).validate) := by
  have hsrc : (cli.withPasswords auth priv).validateSrcAddr = cli.validateSrcAddr := rfl
  have hlevel : (cli.withPasswords auth priv).withDefaultLevel =
      cli.withDefaultLevel.withPasswords auth priv := by
    unfold Cli.withDefaultLevel Cli.withPasswords
    split <;> rfl
  have hauth' : octetCount auth = octetCount cli.withDefaultLevel.authPassword := by
    unfold Cli.withDefaultLevel
    split <;> exact hauth
  have hpriv' : octetCount priv = octetCount cli.withDefaultLevel.privPassword := by
    unfold Cli.withDefaultLevel
    split <;> exact hpriv
  have hversion : (cli.withPasswords auth priv).version = cli.version := rfl
  unfold Cli.validate
  simp only [hsrc, hlevel, hversion, validateV3FlagScope_withPasswords hauth hpriv,
    validateV3Required_withPasswords hauth' hpriv']
  change Outcome.Alike _ _ (if cli.version ≠ .v3 ∧ cli.community = "" then _ else
    if cli.timeout = 0 then _ else if cli.srcPort = some 0 then _ else _)
  split
  · exact .stopped _
  · split
    · exact .stopped _
    · split
      · exact .stopped _
      · refine Outcome.alike_bind_same _ fun _ _ => Outcome.alike_bind_same _ fun _ _ => ?_
        split
        · exact Outcome.alike_bind_same _ fun _ _ => .ok ⟨rfl, hauth', hpriv'⟩
        · exact .ok ⟨rfl, hauth, hpriv⟩

end Passwords

/-! ## Keys -/

/-- The same protocols and salt, with keys that fit them. -/
inductive V3Security.Alike : V3Security → V3Security → Prop
  | noAuthNoPriv : Alike .noAuthNoPriv .noAuthNoPriv
  | authNoPriv {proto : AuthProtocol} {key key' : List UInt8} (hkey : key.length = proto.digestLen)
      (hkey' : key'.length = proto.digestLen) :
      Alike (.authNoPriv proto key) (.authNoPriv proto key')
  | authPriv {proto : AuthProtocol} {priv : PrivProtocol} {key key' privKey privKey' : List UInt8}
      {salt : UInt64} (hkey : key.length = proto.digestLen) (hkey' : key'.length = proto.digestLen)
      (hpriv : privKey.length = priv.keyLen) (hpriv' : privKey'.length = priv.keyLen) :
      Alike (.authPriv proto key priv privKey salt) (.authPriv proto key' priv privKey' salt)

section Lawful
variable {c : Crypto} (hc : c.Lawful)
include hc

theorem alike_passwordToKey {password password' : String}
    (h : (asBytes password).length = (asBytes password').length) (e : EngineId)
    (proto : AuthProtocol) :
    (passwordToKey c password e proto).Alike
      (fun key key' => key.length = proto.digestLen ∧ key'.length = proto.digestLen)
      (passwordToKey c password' e proto) := by
  obtain hshort | hlen := Nat.lt_or_ge (asBytes password).length minUsmPasswordLen
  · simp only [passwordToKey, ← h, if_pos hshort]
    exact .stopped _
  · rw [passwordToKey_eq hc.streaming password e proto hlen,
      passwordToKey_eq hc.streaming password' e proto (h ▸ hlen)]
    exact .ok ⟨localizedKey_length hc password e proto, localizedKey_length hc password' e proto⟩

theorem alike_privKeyFromPassword {password password' : String}
    (h : (asBytes password).length = (asBytes password').length) (e : EngineId)
    (proto : AuthProtocol) (priv : PrivProtocol) :
    (privKeyFromPassword c password e proto priv).Alike
      (fun key key' => key.length = priv.keyLen ∧ key'.length = priv.keyLen)
      (privKeyFromPassword c password' e proto priv) := by
  refine (alike_passwordToKey hc h e proto).bind fun key key' _ hkeys => ?_
  simp only [hkeys.1, hkeys.2]
  split
  · exact .stopped _
  · rename_i hlong
    rw [Outcome.sliceTo_eq_ok (by omega), Outcome.sliceTo_eq_ok (by omega)]
    refine .ok ⟨?_, ?_⟩ <;> rw [List.length_take] <;> omega

section Passwords
variable {cli : Cli} {auth priv : Option String}
  (hauth : octetCount auth = octetCount cli.authPassword)
  (hpriv : octetCount priv = octetCount cli.privPassword)
include hauth hpriv

theorem alike_buildV3Security (world : World) (level : SecurityLevel) (e : EngineId) :
    (buildV3Security c world cli level e).Alike V3Security.Alike
      (buildV3Security c world (cli.withPasswords auth priv) level e) := by
  have hderive : ∀ proto, (deriveAuthKey c cli e proto).Alike
      (fun key key' => key.length = proto.digestLen ∧ key'.length = proto.digestLen)
      (deriveAuthKey c (cli.withPasswords auth priv) e proto) := by
    intro proto
    unfold deriveAuthKey Cli.withPasswords
    obtain ⟨rfl, hnone⟩ | ⟨s', s, rfl, hsome, hlen⟩ := octetCount_cases hauth
    · rw [hnone]
      exact .stopped _
    · rw [hsome]
      exact alike_passwordToKey hc hlen.symm e proto
  cases level with
  | noAuthNoPriv => exact .ok .noAuthNoPriv
  | authNoPriv =>
    refine Outcome.alike_bind_same _ fun proto _ => ?_
    exact (hderive proto).bind fun key key' _ hkeys => .ok (.authNoPriv hkeys.1 hkeys.2)
  | authPriv =>
    refine Outcome.alike_bind_same _ fun proto _ => ?_
    refine (hderive proto).bind fun key key' _ hkeys => ?_
    refine Outcome.alike_bind_same _ fun privProtoV _ => ?_
    unfold Cli.withPasswords
    obtain ⟨rfl, hnone⟩ | ⟨s', s, rfl, hsome, hlen⟩ := octetCount_cases hpriv
    · rw [hnone]
      exact .stopped _
    · rw [hsome]
      refine (alike_privKeyFromPassword hc hlen.symm e proto privProtoV).bind
        fun privKey privKey' _ hprivKeys => ?_
      exact .ok (.authPriv hkeys.1 hkeys.2 hprivKeys.1 hprivKeys.2)

/-- The messages differ in their keys. -/
theorem alike_assembleV3 (world : World) :
    (assembleV3 c world cli).Alike
      (fun m m' => m.security.Alike m'.security ∧ m' = { m with security := m'.security })
      (assembleV3 c world (cli.withPasswords auth priv)) := by
  refine Outcome.alike_bind_same _ fun p _ => ?_
  refine Outcome.alike_bind_same _ fun user _ => ?_
  refine Outcome.alike_bind_same _ fun authoritative _ => ?_
  refine Outcome.alike_bind_same _ fun context _ => ?_
  refine Outcome.alike_bind_same _ fun level _ => ?_
  refine (alike_buildV3Security hc hauth hpriv world level authoritative).bind
    fun security security' _ hsecurity => ?_
  refine Outcome.alike_bind_same _ fun trap _ => ?_
  exact Outcome.alike_bind_same _ fun userName _ => .ok ⟨hsecurity, rfl⟩

end Passwords
end Lawful

/-! ## Messages -/

def blotted (bs : List UInt8) : List UInt8 := List.replicate bs.length 0

def Grammar.ScopedData.redacted : Grammar.ScopedData → Grammar.ScopedData
  | .cleartext pdu => .cleartext pdu
  | .encrypted bytes => .encrypted (blotted bytes)

/-- The message without what is in its tag and its ciphertext. -/
def Grammar.V3Message.redacted (m : Grammar.V3Message) : Grammar.V3Message :=
  { m with
    usm := { m.usm with authParams := blotted m.usm.authParams }
    data := m.data.redacted }

/-- As many octets, which read the same but for the tag and the ciphertext. -/
def SameButSecrets (w w' : List UInt8) : Prop :=
  w.length = w'.length ∧ (w = w' ∨ ∃ got got', Grammar.readV3Message w = some got ∧
    Grammar.readV3Message w' = some got' ∧ got.redacted = got'.redacted)

theorem sameButSecrets_refl (w : List UInt8) : SameButSecrets w w := ⟨rfl, Or.inl rfl⟩

inductive SnmpV3.ScopedPduData.Alike : SnmpV3.ScopedPduData → SnmpV3.ScopedPduData → Prop
  | cleartextPdu (pdu : SnmpV3.ScopedPdu) : Alike (.cleartextPdu pdu) (.cleartextPdu pdu)
  | encryptedPdu {bytes bytes' : List UInt8} (hlen : bytes.length = bytes'.length) :
      Alike (.encryptedPdu bytes) (.encryptedPdu bytes')

theorem V3Security.Alike.flagByte {s s' : V3Security} (h : s.Alike s') :
    s.flagByte = s'.flagByte := by cases h <;> rfl

theorem V3Security.Alike.authParamLen {s s' : V3Security} (h : s.Alike s') :
    s.authParamLen = s'.authParamLen := by cases h <;> rfl

theorem V3Security.Alike.keysFit {s s' : V3Security} (h : s.Alike s') :
    s.KeysFit ∧ s'.KeysFit := by
  cases h with
  | noAuthNoPriv => exact ⟨trivial, trivial⟩
  | authNoPriv hkey hkey' => exact ⟨hkey, hkey'⟩
  | authPriv hkey hkey' hpriv hpriv' => exact ⟨⟨hkey, hpriv.ge⟩, hkey', hpriv'.ge⟩

section ScopedData
variable {data data' : SnmpV3.ScopedPduData} (h : data.Alike data')
  (oid : List UInt32 → List UInt8)
include h

theorem alike_receivedData :
    (receivedData oid data).redacted = (receivedData oid data').redacted := by
  cases h with
  | cleartextPdu pdu => rfl
  | encryptedPdu hlen => simp only [receivedData, Grammar.ScopedData.redacted, blotted, hlen]

theorem scopedData_length : (data.toValue.tlv oid).encode.length =
    (data'.toValue.tlv oid).encode.length := by
  cases h with
  | cleartextPdu pdu => rfl
  | encryptedPdu hlen =>
    simp only [SnmpV3.ScopedPduData.toValue, Value.tlv, Tlv.encode, element_length, hlen]

theorem messageOctets_length (m : V3TrapMessage) (privParams : List UInt8) {tag tag' : List UInt8}
    (htag : tag.length = tag'.length) : (messageOctets m oid data privParams tag).length =
      (messageOctets m oid data' privParams tag').length := by
  simp only [messageOctets, usmOctets, encodeAll, element_length, List.length_append,
    List.append_nil, scopedData_length h oid, htag]

end ScopedData

section Messages
variable {r : Encoder} {m : V3TrapMessage} {security : V3Security}
  (hs : m.security.Alike security)
include hs

theorem alike_protectScopedPdu {c : Crypto} (hc : c.Lawful) (pdu : SnmpV3.ScopedPdu) :
    (protectScopedPdu r c m pdu).Alike (fun d d' => d.1.Alike d'.1 ∧ d.2 = d'.2)
      (protectScopedPdu r c { m with security := security } pdu) := by
  unfold protectScopedPdu
  simp only
  cases hsec : m.security with
  | noAuthNoPriv =>
    rw [hsec] at hs
    cases hs
    exact .ok ⟨.cleartextPdu pdu, rfl⟩
  | authNoPriv proto key =>
    rw [hsec] at hs
    cases hs
    exact .ok ⟨.cleartextPdu pdu, rfl⟩
  | authPriv proto key priv privKey salt =>
    rw [hsec] at hs
    obtain ⟨⟨_, hfits⟩, hfits'⟩ := hs.keysFit
    cases hs
    refine Outcome.alike_bind_same _ fun plaintext _ => ?_
    have hct : ∀ {key : List UInt8}, priv.keyLen ≤ key.length →
        (Cipher.encrypt (c.aes priv (key.take priv.keyLen)) 16
          (makeAesIv m.engineBoots m.engineTime salt) plaintext).length = plaintext.length := by
      intro key hkey
      refine Cipher.encrypt_length (by decide) (fun x hx => hc.aes_length priv _ x ?_ hx) _ _
        (by simp [makeAesIv])
      rw [List.length_take]
      exact Nat.min_eq_left hkey
    rw [privEncrypt_eq hc _ _ _ _ _ _ hfits, privEncrypt_eq hc _ _ _ _ _ _ hfits'.2]
    exact .ok ⟨.encryptedPdu ((hct hfits).trans (hct hfits'.2).symm), rfl⟩

variable (hr : r.EmitsBer)
include hr

theorem sameButSecrets_encodedWith {data data' : SnmpV3.ScopedPduData} (hdata : data.Alike data')
    {privParams tag tag' w w' : List UInt8} (htag : tag.length = tag'.length)
    (h : m.EncodedWith r data privParams tag w)
    (h' : { m with security := security }.EncodedWith r data' privParams tag' w') :
    SameButSecrets w w' := by
  have hfront : messageOctets { m with security := security } r.oid =
      messageOctets m r.oid := by
    unfold messageOctets messageFront headerData
    rw [hs.flagByte]
    rfl
  refine ⟨?_, Or.inr ⟨_, _, readV3Message_encodedWith hr h, readV3Message_encodedWith hr h', ?_⟩⟩
  · rw [(encodedWith_octets hr h).1, (encodedWith_octets hr h').1, hfront,
      messageOctets_length hdata r.oid m privParams htag]
  · simp only [Grammar.V3Message.redacted, blotted, htag, hs.flagByte,
      alike_receivedData hdata r.oid]

/-- Messages that differ in their keys are both encoded. -/
theorem alike_buildV3TrapMessage {c : Crypto} (hc : c.Lawful) (hrep : m.trap.Representable)
    (hname : InVec m.contextName) (huser : InVec m.userName) :
    (buildV3TrapMessage r c m).Alike SameButSecrets
      (buildV3TrapMessage r c { m with security := security }) := by
  obtain ⟨hkeys, hkeys'⟩ := hs.keysFit
  obtain ⟨w, hw⟩ := buildV3TrapMessage_total hr hc m hrep hname huser hkeys
  obtain ⟨w', hw'⟩ := buildV3TrapMessage_total hr hc { m with security := security } hrep hname
    huser hkeys'
  rw [hw, hw']
  obtain ⟨data, privParams, tag, hprotect, htag, hencoded⟩ := buildV3TrapMessage_ok hw
  obtain ⟨data', privParams', tag', hprotect', htag', hencoded'⟩ := buildV3TrapMessage_ok hw'
  have hdata := alike_protectScopedPdu (r := r) hs hc m.scopedPdu
  change (protectScopedPdu r c { m with security := security } m.scopedPdu) = _ at hprotect'
  rw [hprotect, hprotect'] at hdata
  cases hdata with
  | ok hdata =>
    obtain ⟨hdata, rfl : privParams = privParams'⟩ := hdata
    refine .ok (sameButSecrets_encodedWith hs hr hdata ?_ hencoded hencoded')
    rw [htag, htag']
    exact hs.authParamLen

end Messages

/-! ## Payloads -/

/-- What BER and the memory of a process can hold. -/
structure Cli.Encodable (world : World) (cli : Cli) : Prop where
  positionals : ∀ p, v3Positionals world cli.trapArgs = .ok p → p.Representable
  userName : ∀ s, cli.userName = some s → InVec (asBytes s)
  contextName : ∀ s, cli.contextName = some s → InVec (asBytes s)

theorem alike_buildPayload {r : Encoder} (hr : r.EmitsBer) {c : Crypto} (hc : c.Lawful)
    (world : World) {cli : Cli} {auth priv : Option String}
    (hauth : octetCount auth = octetCount cli.authPassword)
    (hpriv : octetCount priv = octetCount cli.privPassword) (hencodable : cli.Encodable world)
    (dst : SocketAddrV4) :
    (buildPayload r c world cli dst).Alike SameButSecrets
      (buildPayload r c world (cli.withPasswords auth priv) dst) := by
  have hversion : (cli.withPasswords auth priv).version = cli.version := rfl
  unfold buildPayload
  rw [hversion]
  cases cli.version with
  | v1 => exact Outcome.alike_refl sameButSecrets_refl _
  | v2c => exact Outcome.alike_refl sameButSecrets_refl _
  | v3 =>
    refine (alike_assembleV3 hc hauth hpriv world).bind fun m m' hm hkeys => ?_
    obtain ⟨hs, hm'⟩ := hkeys
    rw [hm']
    obtain ⟨p, _, _, hp, hmade, _⟩ := assembleV3_ok hm
    obtain ⟨user, huser, huserName, hcontextName⟩ := assembleV3_names hm
    refine alike_buildV3TrapMessage hs hr hc
      (hmade.representable (hencodable.positionals p hp)) ?_ ?_
    · rw [hcontextName]
      cases hcontext : cli.contextName with
      | none => exact Nat.two_pow_pos 64
      | some s => exact hencodable.contextName s hcontext
    · rw [huserName]
      exact hencodable.userName user huser

end SnmpTrap
