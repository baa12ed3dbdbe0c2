import SnmpTrap.V3Total

/-! What `build_v3_trap_message` promises a receiver: its tag verifies and its trap is recovered.
Both are applied to a session with the digests of RFC 3414's test password. -/
namespace SnmpTrap
open Rust Numeral Ber
set_option autoImplicit false
set_option maxHeartbeats 250000
set_option maxRecDepth 120000

/-! ## A session -/

def maplesyrupDigest : List UInt8 :=
  [159, 181, 204, 3, 129, 73, 123, 55, 147, 82, 137, 57, 255, 120, 141, 93, 121, 20, 82, 17]

def maplesyrupKey : List UInt8 :=
  [102, 149, 254, 188, 146, 136, 227, 98, 130, 35, 95, 199, 21, 31, 18, 132, 151, 179, 143, 63]

def maplesyrupTag : List UInt8 :=
  [203, 142, 207, 9, 53, 201, 247, 28, 6, 241, 127, 173, 157, 59, 167, 55, 208, 75, 62, 121]

def maplesyrupPlaceholder : List UInt8 :=
  [48, 129, 168, 2, 1, 3, 48, 15, 2, 2, 3, 232, 2, 3, 0, 255, 227, 4, 1, 3, 2, 1, 3, 4, 53, 48,
   51, 4, 12, 0, 0, 0, 0, 0, 0, 0, 0, 0, 0, 0, 2, 2, 1, 1, 2, 1, 7, 4, 5, 109, 97, 112, 108,
   101, 4, 12, 0, 0, 0, 0, 0, 0, 0, 0, 0, 0, 0, 0, 4, 8, 1, 2, 3, 4, 5, 6, 7, 8, 4, 91, 8, 105,
   254, 195, 113, 212, 238, 61, 91, 252, 248, 52, 102, 167, 147, 88, 220, 133, 151, 173, 134,
   242, 31, 205, 215, 197, 39, 143, 47, 178, 217, 249, 118, 202, 237, 218, 157, 132, 66, 35,
   81, 229, 47, 60, 169, 145, 179, 29, 164, 41, 115, 102, 244, 175, 12, 84, 140, 38, 211, 210,
   223, 86, 39, 135, 113, 121, 177, 51, 191, 181, 130, 92, 178, 226, 102, 173, 124, 108, 200,
   86, 86, 54, 0, 223, 148, 45, 83, 115, 203, 122, 140]

/-- AES-128 under the front of that key at the session's feedback blocks. -/
def maplesyrupBlocks : List (List UInt8 × List UInt8) :=
  [([0, 0, 0, 1, 0, 0, 0, 7, 1, 2, 3, 4, 5, 6, 7, 8],
      [56, 48, 250, 207, 113, 212, 238, 61, 91, 252, 248, 52, 102, 167, 147, 90]),
    ([8, 105, 254, 195, 113, 212, 238, 61, 91, 252, 248, 52, 102, 167, 147, 88],
      [216, 133, 48, 234, 132, 240, 24, 29, 213, 196, 39, 141, 46, 178, 233, 194]),
    ([220, 133, 151, 173, 134, 242, 31, 205, 215, 197, 39, 143, 47, 178, 217, 249],
      [70, 196, 235, 210, 182, 130, 67, 33, 80, 228, 44, 60, 234, 147, 131, 36]),
    ([118, 202, 237, 218, 157, 132, 66, 35, 81, 229, 47, 60, 169, 145, 179, 29],
      [148, 62, 117, 108, 223, 169, 13, 82, 143, 39, 210, 214, 222, 86, 33, 142]),
    ([164, 41, 115, 102, 244, 175, 12, 84, 140, 38, 211, 210, 223, 86, 39, 135],
      [90, 127, 176, 53, 188, 180, 131, 89, 179, 210, 118, 171, 116, 71, 206, 87]),
    ([113, 121, 177, 51, 191, 181, 130, 92, 178, 226, 102, 173, 124, 108, 200, 86],
      [84, 55, 1, 218, 148, 41, 87, 27, 164, 9, 248, 27, 97, 202, 32, 155])]

def engineId2 : EngineId := ⟨[0, 0, 0, 0, 0, 0, 0, 0, 0, 0, 0, 2], by decide, by decide⟩

/-- SHA-1, HMAC-SHA-1 and AES-128 at the inputs of the session. -/
def maplesyrupCrypto : Crypto := Crypto.ofFunctions
  (fun p bs =>
    if p = .sha1 ∧ bs = maplesyrupDigest ++ engineId2.bytes ++ maplesyrupDigest then maplesyrupKey
    else if p = .sha1 ∧ bs = expansion (asBytes "maplesyrup") (1024 * 1024) then maplesyrupDigest
    else [])
  (fun p key message =>
    if p = .sha1 ∧ key = maplesyrupKey ∧ message = maplesyrupPlaceholder then maplesyrupTag
    else [])
  (fun p key block =>
    if p = .aes128 ∧ key = maplesyrupKey.take 16 then (maplesyrupBlocks.lookup block).getD []
    else [])

theorem maplesyrupCrypto_lawful : maplesyrupCrypto.Lawful := Crypto.ofFunctions_lawful _ _ _

/-- A coldStart trap under authentication and privacy. -/
def maplesyrupMessage : V3TrapMessage where
  authoritativeEngineId := engineId2
  contextEngineId := engineId2
  contextName := []
  userName := [109, 97, 112, 108, 101]
  engineBoots := 1
  engineTime := 7
  msgId := 1000
  security := .authPriv .sha1 maplesyrupKey .aes128 (maplesyrupKey.take 16) 0x0102030405060708
  trap :=
    { community := []
      requestId := 2000
      uptimeCentiseconds := 12345
      trapOid := [1, 3, 6, 1, 6, 3, 1, 1, 5, 1]
      varbinds := [([1, 3, 6, 1, 2, 1, 1, 5, 0], .octetString [104, 111, 115, 116])]
      inMemory := by decide }

theorem maplesyrupMessage_representable : maplesyrupMessage.trap.Representable := by decide

theorem maplesyrupMessage_built :
    ∃ w, buildV3TrapMessage Ber.x690 maplesyrupCrypto maplesyrupMessage = .ok w :=
  buildV3TrapMessage_total x690_emitsBer maplesyrupCrypto_lawful maplesyrupMessage
    maplesyrupMessage_representable (by decide) (by decide) ⟨by decide, by decide⟩

/-! ## The tag -/

/-- **The signed message is what a receiver verifies.** It differs from the placeholder encoding
only in the contents of msgAuthenticationParameters, and with zeros written over exactly those
octets its truncated HMAC is what stood there. -/
theorem v3_tag_verifies (r : Encoder) (hr : r.EmitsBer) (c : Crypto) (m : V3TrapMessage)
    (proto : AuthProtocol) (key w : List UInt8) (hauth : m.security.auth = some (proto, key))
    (h : buildV3TrapMessage r c m = .ok w) :
    ∃ p off, encodePlaceholder r c m = .ok p ∧ w.length = p.bytes.length ∧
      locate [2, 0, 4] w = some (off, proto.authParamLen) ∧
      (∀ i, i < off ∨ off + proto.authParamLen ≤ i → w[i]? = p.bytes[i]?) ∧
      ∃ full,
        c.hmac proto key (overwrite w off (List.replicate proto.authParamLen 0)) = some full ∧
        full.take proto.authParamLen = (w.drop off).take proto.authParamLen := by
  obtain ⟨p, tag, hp, hsign, hlen, hsigned⟩ := buildV3TrapMessage_signed hauth h
  obtain ⟨_, full, hfull, htag⟩ := authSign_ok hsign
  obtain ⟨hw, hlt⟩ := encodedWith_octets hr hsigned
  obtain ⟨hplaceholder, _⟩ := encodedWith_octets hr (encodePlaceholder_ok hp).2
  rw [authParamLen_of_auth hauth] at hlen hplaceholder
  rw [hw] at hlt
  obtain ⟨before, after, hole⟩ :=
    holeAt_messageOctets m r.oid p.scopedData p.privParamsBytes tag hlt
  rw [hlen] at hole
  obtain ⟨hlocate, hlength, hsame, hover, hthere⟩ :=
    hole.fillings hlen (List.length_replicate (n := proto.authParamLen) (a := (0 : UInt8)))
  rw [← hw, ← hplaceholder] at hlength hover
  rw [← hw] at hlocate hthere
  refine ⟨p, before.length, hp, hlength, hlocate, ?_, full, ?_, ?_⟩
  · intro i hi
    rw [hw, hplaceholder]
    exact hsame i hi
  · rw [hover]
    exact hfull
  · rw [hthere, htag]

theorem v3_tag_verifies_maplesyrup :
    ∃ w, buildV3TrapMessage Ber.x690 maplesyrupCrypto maplesyrupMessage = .ok w ∧
      ∃ p off, encodePlaceholder Ber.x690 maplesyrupCrypto maplesyrupMessage = .ok p ∧
        w.length = p.bytes.length ∧ locate [2, 0, 4] w = some (off, 12) ∧
        (∀ i, i < off ∨ off + 12 ≤ i → w[i]? = p.bytes[i]?) ∧
        ∃ full, maplesyrupCrypto.hmac .sha1 maplesyrupKey
            (overwrite w off (List.replicate 12 0)) = some full ∧
          full.take 12 = (w.drop off).take 12 := by
  obtain ⟨w, hw⟩ := maplesyrupMessage_built
  exact ⟨w, hw, v3_tag_verifies Ber.x690 x690_emitsBer maplesyrupCrypto maplesyrupMessage .sha1
    maplesyrupKey w rfl hw⟩

/-! ## The trap -/

/-- **A receiver recovers the trap from the wire fields alone.** Header and USM fields are the
message's; flags, tag, privacy parameters and the form of the scoped data agree with the security
level; and at every level, after decryption under privacy, the scoped PDU is the trap's. -/
theorem v3_receiver_recovers (r : Encoder) (hr : r.EmitsBer) (c : Crypto) (hc : c.Lawful)
    (m : V3TrapMessage) (hrep : m.trap.Representable) (w : List UInt8)
    (h : buildV3TrapMessage r c m = .ok w) :
    ∃ msg, Grammar.readV3Message w = some msg ∧ msg.version = 3 ∧ msg.msgId = m.msgId ∧
      msg.maxSize = 65507 ∧ msg.securityModel = 3 ∧
      msg.usm.engineId = m.authoritativeEngineId.bytes ∧ msg.usm.engineBoots = m.engineBoots ∧
      msg.usm.engineTime = m.engineTime ∧ msg.usm.userName = m.userName ∧
      match m.security with
      | .noAuthNoPriv => msg.flags = [0] ∧ msg.usm.authParams = [] ∧ msg.usm.privParams = [] ∧
        ∃ pdu, msg.data = .cleartext pdu ∧ Grammar.readScopedPdu pdu = some m.scoped
      | .authNoPriv proto _ => msg.flags = [1] ∧
        msg.usm.authParams.length = proto.authParamLen ∧ msg.usm.privParams = [] ∧
        ∃ pdu, msg.data = .cleartext pdu ∧ Grammar.readScopedPdu pdu = some m.scoped
      | .authPriv authProto _ privProto privKey _ => msg.flags = [3] ∧
        msg.usm.authParams.length = authProto.authParamLen ∧ msg.usm.privParams.length = 8 ∧
        ∃ ciphertext plaintext, msg.data = .encrypted ciphertext ∧
          Cipher.decrypt (c.aes privProto (privKey.take privProto.keyLen)) 16 (wireIv msg.usm)
            ciphertext = plaintext ∧
          encode r m.scopedPdu.toValue = .ok plaintext ∧
          (decode plaintext).bind Grammar.readScopedPdu = some m.scoped := by
  obtain ⟨scopedData, privParams, tag, hprotect, htag, hencoded⟩ := buildV3TrapMessage_ok h
  refine ⟨_, readV3Message_encodedWith hr hencoded, rfl, rfl, rfl, rfl, rfl, rfl, rfl, rfl, ?_⟩
  have hclear : Grammar.readScopedPdu (m.scopedPdu.toValue.tlv r.oid) = some m.scoped := by
    rw [hr.tlv _ (scopedPdu_oids m hrep)]
    exact readScopedPdu_scopedPdu m hrep
  cases hs : m.security with
  | noAuthNoPriv =>
    rw [protectScopedPdu, hs] at hprotect
    rw [hs] at htag
    cases hprotect
    exact ⟨rfl, List.length_eq_zero_iff.mp htag, rfl, _, rfl, hclear⟩
  | authNoPriv proto key =>
    rw [protectScopedPdu, hs] at hprotect
    rw [hs] at htag
    cases hprotect
    exact ⟨rfl, htag, rfl, _, rfl, hclear⟩
  | authPriv authProto authKey privProto privKey salt =>
    rw [hs] at htag
    obtain ⟨plaintext, ciphertext, hplaintext, hciphertext, rfl, rfl⟩ :=
      protectScopedPdu_authPriv hs hprotect
    exact ⟨rfl, htag, fixedOctets_length 8 _, ciphertext, plaintext, rfl,
      decrypt_privEncrypt hc _ _ _ _ _ _ _ (privEncrypt_ok hciphertext) hciphertext, hplaintext,
      decode_scopedPdu hr hrep hplaintext⟩

theorem v3_receiver_recovers_maplesyrup :
    ∃ w msg, buildV3TrapMessage Ber.x690 maplesyrupCrypto maplesyrupMessage = .ok w ∧
      Grammar.readV3Message w = some msg ∧ msg.flags = [3] ∧
      ∃ ciphertext plaintext, msg.data = .encrypted ciphertext ∧
        Cipher.decrypt (maplesyrupCrypto.aes .aes128 (maplesyrupKey.take 16)) 16
          (wireIv msg.usm) ciphertext = plaintext ∧
        (decode plaintext).bind Grammar.readScopedPdu = some maplesyrupMessage.scoped := by
  obtain ⟨w, hw⟩ := maplesyrupMessage_built
  obtain ⟨msg, hmsg, _, _, _, _, _, _, _, _, hflags, _, _, ciphertext, plaintext, hdata, hplain, _,
    hread⟩ := v3_receiver_recovers Ber.x690 x690_emitsBer maplesyrupCrypto
      maplesyrupCrypto_lawful maplesyrupMessage maplesyrupMessage_representable w hw
  exact ⟨w, msg, hw, hmsg, hflags, ciphertext, plaintext, hdata, hplain, hread⟩

end SnmpTrap
