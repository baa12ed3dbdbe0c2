import SnmpTrap.Keys

/-! The other end of a v3 trap: a receiver that knows a user's passwords and has nothing but the
octets. It localizes the keys to the engine ID it reads, verifies the tag and decrypts. -/
namespace SnmpTrap
open Rust Numeral Ber
set_option autoImplicit false
set_option maxHeartbeats 250000
set_option maxRecDepth 120000

/-! ## A receiver -/

/-- What is agreed on with a user out of band. -/
inductive UserSecrets where
  | noAuthNoPriv
  | authNoPriv (proto : AuthProtocol) (password : String)
  | authPriv (proto : AuthProtocol) (password : String) (priv : PrivProtocol)
      (privPassword : String)

structure UsmUser where
  name : List UInt8
  secrets : UserSecrets

def UserSecrets.flags : UserSecrets → List UInt8
  | .noAuthNoPriv => [0]
  | .authNoPriv _ _ => [1]
  | .authPriv _ _ _ _ => [3]

/-- `localizedKey` for the engine ID that a message names. -/
def localizedTo (c : Crypto) (password : String) (engineId : List UInt8) (proto : AuthProtocol) :
    List UInt8 :=
  let d := c.digest proto (expansion (asBytes password) (1024 * 1024))
  c.digest proto (d ++ engineId ++ d)

/-- RFC 3414's check: the tag, with zeros in its place, is what the HMAC gives. -/
def verifyTag (c : Crypto) (proto : AuthProtocol) (key w : List UInt8) : Option Unit := do
  let (off, n) ← locate [2, 0, 4] w
  let full ← c.hmac proto key (overwrite w off (List.replicate n 0))
  guard (n = proto.authParamLen ∧ full.take n = (w.drop off).take n)

def receiveV3 (c : Crypto) (user : UsmUser) (w : List UInt8) : Option Grammar.ScopedPdu := do
  let msg ← Grammar.readV3Message w
  guard (msg.version = 3 ∧ msg.securityModel = 3 ∧ msg.usm.userName = user.name ∧
    msg.flags = user.secrets.flags)
  match user.secrets, msg.data with
  | .noAuthNoPriv, .cleartext pdu => Grammar.readScopedPdu pdu
  | .authNoPriv proto password, .cleartext pdu => do
    verifyTag c proto (localizedTo c password msg.usm.engineId proto) w
    Grammar.readScopedPdu pdu
  | .authPriv proto password priv privPassword, .encrypted ciphertext => do
    verifyTag c proto (localizedTo c password msg.usm.engineId proto) w
    let key := (localizedTo c privPassword msg.usm.engineId proto).take priv.keyLen
    let pdu ← decode (Cipher.decrypt (c.aes priv key) 16 (wireIv msg.usm) ciphertext)
    Grammar.readScopedPdu pdu
  | _, _ => none

/-! ## What it makes of a message -/

/-- The security parameters that the secrets give for an engine ID, whatever the salt. -/
def UserSecrets.Gives (c : Crypto) (engineId : List UInt8) : UserSecrets → V3Security → Prop
  | .noAuthNoPriv, .noAuthNoPriv => True
  | .authNoPriv proto password, .authNoPriv proto' authKey =>
    proto' = proto ∧ authKey = localizedTo c password engineId proto
  | .authPriv proto password priv privPassword, .authPriv proto' authKey priv' privKey _ =>
    proto' = proto ∧ authKey = localizedTo c password engineId proto ∧ priv' = priv ∧
      privKey = (localizedTo c privPassword engineId proto).take priv.keyLen
  | _, _ => False

section Built
variable {r : Encoder} (hr : r.EmitsBer) {c : Crypto} {m : V3TrapMessage} {w : List UInt8}
  (h : buildV3TrapMessage r c m = .ok w)
include hr h

theorem verifyTag_built {proto : AuthProtocol} {key : List UInt8}
    (hauth : m.security.auth = some (proto, key)) : verifyTag c proto key w = some () := by
  obtain ⟨p, tag, hp, hsign, hlen, hsigned⟩ := buildV3TrapMessage_signed hauth h
  obtain ⟨_, full, hfull, htag⟩ := authSign_ok hsign
  obtain ⟨hw, hlt⟩ := encodedWith_octets hr hsigned
  obtain ⟨hplaceholder, _⟩ := encodedWith_octets hr (encodePlaceholder_ok hp).2
  rw [authParamLen_of_auth hauth] at hlen hplaceholder
  rw [hw] at hlt
  obtain ⟨before, after, hole⟩ :=
    holeAt_messageOctets m r.oid p.scopedData p.privParamsBytes tag hlt
  rw [hlen] at hole
  obtain ⟨hlocate, _, _, hover, hthere⟩ :=
    hole.fillings hlen (List.length_replicate (n := proto.authParamLen) (a := (0 : UInt8)))
  rw [← hw, ← hplaceholder] at hover
  rw [← hw] at hlocate hthere
  rw [verifyTag, hlocate]
  simp only [Option.bind_eq_bind, Option.bind_some, hover, hfull, hthere, htag]
  exact if_pos ⟨trivial, trivial⟩

/-- **The user's receiver gets the trap**, from the octets and the passwords alone. -/
theorem receiveV3_built (hc : c.Lawful) (hrep : m.trap.Representable) {user : UsmUser}
    (hname : user.name = m.userName)
    (hgives : user.secrets.Gives c m.authoritativeEngineId.bytes m.security) :
    receiveV3 c user w = some m.scoped := by
  obtain ⟨scopedData, privParams, tag, hprotect, _, hencoded⟩ := buildV3TrapMessage_ok h
  have hclear : Grammar.readScopedPdu (m.scopedPdu.toValue.tlv r.oid) = some m.scoped := by
    rw [hr.tlv _ (scopedPdu_oids m hrep)]
    exact readScopedPdu_scopedPdu m hrep
  rw [receiveV3, readV3Message_encodedWith hr hencoded]
  simp only [Option.bind_eq_bind, Option.bind_some, hname]
  cases hs : m.security with
  | noAuthNoPriv =>
    cases hsecrets : user.secrets <;> rw [hsecrets, hs] at hgives <;>
      first | exact False.elim hgives | skip
    rw [protectScopedPdu, hs] at hprotect
    cases hprotect
    exact hclear
  | authNoPriv proto key =>
    cases hsecrets : user.secrets <;> rw [hsecrets, hs] at hgives <;>
      first | exact False.elim hgives | skip
    rename_i proto' password
    obtain ⟨rfl, hkey⟩ := hgives
    have htag : verifyTag c proto key w = some () := verifyTag_built hr h (by rw [hs]; rfl)
    rw [protectScopedPdu, hs] at hprotect
    cases hprotect
    change (verifyTag c proto (localizedTo c password m.authoritativeEngineId.bytes proto) w >>=
      fun _ => Grammar.readScopedPdu (m.scopedPdu.toValue.tlv r.oid)) = _
    rw [← hkey, htag]
    exact hclear
  | authPriv proto key priv privKey salt =>
    cases hsecrets : user.secrets <;> rw [hsecrets, hs] at hgives <;>
      first | exact False.elim hgives | skip
    rename_i proto' password priv' privPassword
    obtain ⟨rfl, hkey, rfl, hprivKey⟩ := hgives
    have htag : verifyTag c proto key w = some () := verifyTag_built hr h (by rw [hs]; rfl)
    obtain ⟨plaintext, ciphertext, hplaintext, hciphertext, rfl, rfl⟩ :=
      protectScopedPdu_authPriv hs hprotect
    have hdecrypt :=
      decrypt_privEncrypt hc _ _ _ _ _ _ _ (privEncrypt_ok hciphertext) hciphertext
    rw [hprivKey, List.take_take, Nat.min_self] at hdecrypt
    change (verifyTag c proto (localizedTo c password m.authoritativeEngineId.bytes proto) w >>=
      fun _ => (decode (Cipher.decrypt (c.aes priv ((localizedTo c privPassword
        m.authoritativeEngineId.bytes proto).take priv.keyLen)) 16
          (makeAesIv m.engineBoots m.engineTime salt) ciphertext)).bind Grammar.readScopedPdu) = _
    rw [← hkey, htag, hdecrypt]
    exact decode_scopedPdu hr hrep hplaintext

end Built

/-! ## The user of a command line -/

/-- The secrets that the flags of a level give. -/
def Cli.usmSecrets (cli : Cli) : Option UserSecrets :=
  match cli.securityLevel with
  | none => none
  | some .noAuthNoPriv => some .noAuthNoPriv
  | some .authNoPriv => do
    let proto ← cli.authProtocol
    let password ← cli.authPassword
    some (.authNoPriv proto password)
  | some .authPriv => do
    let proto ← cli.authProtocol
    let password ← cli.authPassword
    let priv ← cli.privProtocol
    let privPassword ← cli.privPassword
    some (.authPriv proto password priv privPassword)

/-- The user a receiver has to know. -/
def Cli.usmUser (cli : Cli) : Option UsmUser := do
  let name ← cli.userName
  let secrets ← cli.usmSecrets
  some ⟨asBytes name, secrets⟩

theorem KeysOf.gives {c : Crypto} {cli : Cli} {e : EngineId} {security : V3Security}
    (h : KeysOf c cli e security) :
    ∃ secrets, cli.usmSecrets = some secrets ∧ secrets.Gives c e.bytes security := by
  unfold Cli.usmSecrets
  cases security with
  | noAuthNoPriv =>
    rw [show cli.securityLevel = some .noAuthNoPriv from h]
    exact ⟨.noAuthNoPriv, rfl, trivial⟩
  | authNoPriv proto authKey =>
    obtain ⟨hlevel, hproto, password, hpassword, hkey⟩ := h
    rw [hlevel, hproto, hpassword]
    exact ⟨.authNoPriv proto password, rfl, rfl, hkey⟩
  | authPriv proto authKey priv privKey salt =>
    obtain ⟨hlevel, hproto, hpriv, ⟨password, hpassword, hkey⟩, privPassword, hprivPassword,
      hprivKey⟩ := h
    rw [hlevel, hproto, hpassword, hpriv, hprivPassword]
    exact ⟨.authPriv proto password priv privPassword, rfl, rfl, hkey, rfl, hprivKey⟩

end SnmpTrap
