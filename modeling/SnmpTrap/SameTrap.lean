import SnmpTrap.Assembly
import SnmpTrap.V3Receiver

/-! The same arguments under v2c and under v3: one trap in two wrappers. -/
namespace SnmpTrap
open Rust Ber
set_option autoImplicit false
set_option maxHeartbeats 250000
set_option maxRecDepth 120000

/-! ## The trap PDU inside the wrappers -/

/-- The octets of the scoped PDU in a message, decrypted under privacy. -/
def openScopedPdu (c : Crypto) (security : V3Security) (w : List UInt8) : Option (List UInt8) :=
  match security with
  | .authPriv _ _ privProto privKey _ => do
    let msg ← Grammar.readV3Message w
    match msg.data with
    | .encrypted ciphertext => some (Cipher.decrypt
        (c.aes privProto (privKey.take privProto.keyLen)) 16 (wireIv msg.usm) ciphertext)
    | .cleartext _ => none
  | _ => subelement [3] w

section Emits
variable {r : Encoder} (hr : r.EmitsBer)
include hr

theorem subelement_scopedPdu {m : V3TrapMessage} {privParams tag w : List UInt8}
    (h : m.EncodedWith r (.cleartextPdu m.scopedPdu) privParams tag w) :
    subelement [3] w = some (m.scopedPdu.toValue.tlv r.oid).encode ∧
      (m.scopedPdu.toValue.tlv r.oid).encode.length < lengthBound := by
  obtain ⟨securityParams, _, hw⟩ := h
  obtain ⟨hw, hlt⟩ := hr.ber _ _ (encode_ok_iff.mp hw)
  have htlv : (m.message securityParams (.cleartextPdu m.scopedPdu)).toValue.tlv r.oid =
      .constructed .sequence ([.primitive .integer (integerOctets 3),
        (headerData m).toValue.tlv r.oid, .primitive .octetString securityParams] ++
        m.scopedPdu.toValue.tlv r.oid :: []) := rfl
  rw [hw, htlv] at hlt ⊢
  exact ⟨subelement_item .sequence _ _ _ hlt, (item_length_lt .sequence _ _ _).trans hlt⟩

theorem openScopedPdu_built {c : Crypto} (hc : c.Lawful) {m : V3TrapMessage} {w : List UInt8}
    (h : buildV3TrapMessage r c m = .ok w) :
    openScopedPdu c m.security w = some (m.scopedPdu.toValue.tlv r.oid).encode ∧
      (m.scopedPdu.toValue.tlv r.oid).encode.length < lengthBound := by
  obtain ⟨scopedData, privParams, tag, hprotect, _, hencoded⟩ := buildV3TrapMessage_ok h
  cases hs : m.security with
  | noAuthNoPriv =>
    rw [protectScopedPdu, hs] at hprotect
    cases hprotect
    exact subelement_scopedPdu hr hencoded
  | authNoPriv proto key =>
    rw [protectScopedPdu, hs] at hprotect
    cases hprotect
    exact subelement_scopedPdu hr hencoded
  | authPriv authProto authKey privProto privKey salt =>
    obtain ⟨plaintext, ciphertext, hplaintext, hciphertext, rfl, rfl⟩ :=
      protectScopedPdu_authPriv hs hprotect
    obtain ⟨hplain, hlt⟩ := hr.ber _ _ (encode_ok_iff.mp hplaintext)
    have hdecrypt := decrypt_privEncrypt hc _ _ _ _ _ _ _ (privEncrypt_ok hciphertext) hciphertext
    rw [← hplain]
    refine ⟨?_, hlt⟩
    rw [openScopedPdu, readV3Message_encodedWith hr hencoded]
    exact congrArg some hdecrypt

end Emits

theorem subelement_contextEngineId (oid : List UInt32 → List UInt8) (m : V3TrapMessage)
    (h : (m.scopedPdu.toValue.tlv oid).encode.length < lengthBound) :
    subelement [0] (m.scopedPdu.toValue.tlv oid).encode =
      some (element .octetString false m.contextEngineId.bytes) :=
  subelement_item .sequence [] (.primitive .octetString m.contextEngineId.bytes)
    [.primitive .octetString m.contextName, m.trap.pdu.toValue.tlv oid] h

theorem subelement_trapPdu (oid : List UInt32 → List UInt8) (m : V3TrapMessage)
    (h : (m.scopedPdu.toValue.tlv oid).encode.length < lengthBound) :
    subelement [2] (m.scopedPdu.toValue.tlv oid).encode =
      some (m.trap.pdu.toValue.tlv oid).encode :=
  subelement_item .sequence [.primitive .octetString m.contextEngineId.bytes,
    .primitive .octetString m.contextName] (m.trap.pdu.toValue.tlv oid) [] h

theorem subelement_v2c {r : Encoder} (hr : r.EmitsBer) {t : V2cTrap} {w : List UInt8}
    (h : buildV2cTrap r t = .ok w) :
    subelement [2] w = some (t.pdu.toValue.tlv r.oid).encode := by
  rw [buildV2cTrap_eq] at h
  obtain ⟨hw, hlt⟩ := hr.ber _ _ (encode_ok_iff.mp h)
  rw [hw] at hlt ⊢
  exact subelement_item .sequence [.primitive .integer (integerOctets 1),
    .primitive .octetString t.community] (t.pdu.toValue.tlv r.oid) [] hlt

/-! ## The builders -/

theorem buildV2cPayload_error {r : Encoder} {world : World} {cli : Cli} {e : Error}
    (h : v2cPositionals world cli.trapArgs = Outcome.fail e) :
    buildV2cPayload r world cli = Outcome.fail e := by
  rw [buildV2cPayload, assembleV2c, h]
  rfl

theorem buildV3Payload_error {r : Encoder} {c : Crypto} {world : World} {cli : Cli} {e : Error}
    (h : v3Positionals world cli.trapArgs = Outcome.fail e) :
    buildV3Payload r c world cli = Outcome.fail e := by
  rw [buildV3Payload, assembleV3, h]
  rfl

/-- Errors for the same argument: the texts differ in the version that counts arguments. -/
def SameOffence (args : List String) (e e' : Error) : Prop :=
  if args.length < 2 then
    e = .usage "v2c trap requires at minimum: <UPTIME> <TRAP-OID> [OID TYPE VALUE]..." ∧
      e' = .usage "v3 trap requires at minimum: <UPTIME> <TRAP-OID> [OID TYPE VALUE]..."
  else e' = e

/-- The positional checks of the two builders succeed together or fail together. -/
theorem positionals_agree {world world' : World}
    (hworld : world'.hostUptimeCentiseconds = world.hostUptimeCentiseconds) (args : List String) :
    (∃ p, v2cPositionals world args = .ok p ∧ v3Positionals world' args = .ok p) ∨
      ∃ e e', v2cPositionals world args = Outcome.fail e ∧
        v3Positionals world' args = Outcome.fail e' ∧ SameOffence args e e' := by
  obtain hlen | ⟨uptimeArg, trapOidArg, rest, rfl⟩ := length_lt_two_or_cons args
  · refine Or.inr ⟨_, _, v2cPositionals_short world hlen, v3Positionals_short world' hlen, ?_⟩
    rw [SameOffence, if_pos hlen]
    exact ⟨rfl, rfl⟩
  · rw [v2cPositionals_cons, v3Positionals_cons, positionals_congr hworld]
    obtain ⟨p, hp⟩ | ⟨e, he⟩ := (safe_positionals world uptimeArg trapOidArg rest).cases
    · exact Or.inl ⟨p, hp, hp⟩
    · refine Or.inr ⟨e, e, he, he, ?_⟩
      rw [SameOffence, if_neg (by simp)]

/-! ## A session -/

def maplesyrupWorld : World where
  hostUptimeCentiseconds := .ok 0
  freshRequestId := 2000
  freshMsgId := 1000
  freshSalt := 0x0102030405060708
  elapsedSeconds := 7
  hostMac := none
  hostName := none
  egressIpv4For _ := .ok ⟨127, 0, 0, 1⟩

/-- `-v 3 -l authPriv -u maple -a SHA-1 -A maplesyrup -x AES-128 -X maplesyrup -E …02`. -/
def maplesyrupCli : Cli where
  version := .v3
  community := "public"
  retries := 0
  timeout := 1
  srcAddr := none
  srcPort := none
  securityLevel := some .authPriv
  userName := some "maple"
  authProtocol := some .sha1
  authPassword := some "maplesyrup"
  privProtocol := some .aes128
  privPassword := some "maplesyrup"
  contextEngineId := none
  authoritativeEngineId := some "000000000000000000000002"
  contextName := none
  trapArgs := ["12345", "1.3.6.1.6.3.1.1.5.1", "1.3.6.1.2.1.1.5.0", "s", "host"]
  inMemory := by decide +kernel

theorem maplesyrupCli_validated : maplesyrupCli.Validated := ⟨maplesyrupCli, rfl⟩

/-- The same arguments under `-v 2c -c public`. -/
def communityCli : Cli where
  version := .v2c
  community := "public"
  retries := 0
  timeout := 1
  srcAddr := none
  srcPort := none
  securityLevel := none
  userName := none
  authProtocol := none
  authPassword := none
  privProtocol := none
  privPassword := none
  contextEngineId := none
  authoritativeEngineId := none
  contextName := none
  trapArgs := maplesyrupCli.trapArgs
  inMemory := by decide +kernel

theorem localizedKey_maplesyrup :
    localizedKey maplesyrupCrypto "maplesyrup" engineId2 .sha1 = maplesyrupKey := by
  have hne : expansion (asBytes "maplesyrup") (1024 * 1024) ≠
      maplesyrupDigest ++ engineId2.bytes ++ maplesyrupDigest := by
    intro h
    have hlen := congrArg List.length h
    rw [expansion_length] at hlen
    exact absurd hlen (by decide)
  have hdigest : maplesyrupCrypto.digest .sha1 (expansion (asBytes "maplesyrup") (1024 * 1024)) =
      maplesyrupDigest := by
    simp only [maplesyrupCrypto, Crypto.ofFunctions]
    rw [if_neg fun h => hne h.2, if_pos ⟨trivial, trivial⟩]
    rfl
  simp only [localizedKey, hdigest]
  simp only [maplesyrupCrypto, Crypto.ofFunctions]
  rw [if_pos ⟨trivial, trivial⟩]
  rfl

theorem assembleV3_maplesyrup :
    assembleV3 maplesyrupCrypto maplesyrupWorld maplesyrupCli = .ok maplesyrupMessage := by
  have hpositionals : v3Positionals maplesyrupWorld maplesyrupCli.trapArgs =
      .ok ⟨12345, [1, 3, 6, 1, 6, 3, 1, 1, 5, 1],
        [([1, 3, 6, 1, 2, 1, 1, 5, 0], .octetString [104, 111, 115, 116])]⟩ := by decide +kernel
  have huser : userAuthoritative maplesyrupCli = .ok (some engineId2) := by decide +kernel
  have hresolve : (resolve maplesyrupWorld (some engineId2) maplesyrupCli.srcAddrV4 :
      Run EngineId) = .ok engineId2 := rfl
  have hcontext : contextEngineIdOf maplesyrupCli engineId2 = .ok engineId2 := rfl
  have hproto : maplesyrupCli.authProtocol = some .sha1 := rfl
  have hauth : maplesyrupCli.authPassword = some "maplesyrup" := rfl
  have hcipher : maplesyrupCli.privProtocol = some .aes128 := rfl
  have hpriv : maplesyrupCli.privPassword = some "maplesyrup" := rfl
  have hlen : minUsmPasswordLen ≤ (asBytes "maplesyrup").length := by decide +kernel
  have hsecurity := buildV3Security_authPriv maplesyrupCrypto_lawful maplesyrupWorld engineId2
    hproto hauth hlen hcipher hpriv hlen (by decide)
  rw [localizedKey_maplesyrup] at hsecurity
  have htrap : V2cTrap.new [] maplesyrupWorld.freshRequestId 12345
      [1, 3, 6, 1, 6, 3, 1, 1, 5, 1]
      [([1, 3, 6, 1, 2, 1, 1, 5, 0], .octetString [104, 111, 115, 116])] =
      .ok maplesyrupMessage.trap := dif_pos maplesyrupMessage.trap.inMemory
  have hlevel : maplesyrupCli.securityLevel = some .authPriv := rfl
  have hname : maplesyrupCli.userName = some "maple" := rfl
  rw [assembleV3, hpositionals, Outcome.ok_bind, huser, Outcome.ok_bind, hresolve,
    Outcome.ok_bind, hcontext, Outcome.ok_bind, hlevel, Outcome.expect, Outcome.ok_bind,
    hsecurity, Outcome.ok_bind, htrap, Outcome.ok_bind, hname]
  rfl

theorem buildV3Payload_maplesyrup :
    ∃ w, buildV3Payload x690 maplesyrupCrypto maplesyrupWorld maplesyrupCli = .ok w := by
  obtain ⟨w, hw⟩ := maplesyrupMessage_built
  exact ⟨w, Outcome.bind_ok_iff.mpr ⟨_, assembleV3_maplesyrup, hw⟩⟩

/-! ## One trap -/

/-- **v2c and v3 send the same trap in different wrappers.** On the same arguments, uptime lookup
and request ID the two builders get past their positional checks together or refuse the same
argument; and where both return octets, the trap PDU in the v2c message is octet for octet the one
in the scoped PDU that the keys open. -/
theorem v2c_v3_same_trap (r : Encoder) (hr : r.EmitsBer) (c : Crypto) (hc : c.Lawful)
    (world world' : World) (cli cli' : Cli)
    (huptime : world'.hostUptimeCentiseconds = world.hostUptimeCentiseconds)
    (hid : world'.freshRequestId = world.freshRequestId) (hargs : cli'.trapArgs = cli.trapArgs) :
    ((∃ p, v2cPositionals world cli.trapArgs = .ok p ∧
        v3Positionals world' cli'.trapArgs = .ok p) ∨
      ∃ e e', v2cPositionals world cli.trapArgs = Outcome.fail e ∧
        v3Positionals world' cli'.trapArgs = Outcome.fail e' ∧
        buildV2cPayload r world cli = Outcome.fail e ∧
        buildV3Payload r c world' cli' = Outcome.fail e' ∧ SameOffence cli.trapArgs e e') ∧
    ∀ w w', buildV2cPayload r world cli = .ok w → buildV3Payload r c world' cli' = .ok w' →
      ∃ t m plain pdu, assembleV2c world cli = .ok t ∧ assembleV3 c world' cli' = .ok m ∧
        openScopedPdu c m.security w' = some plain ∧ pdu = (t.pdu.toValue.tlv r.oid).encode ∧
        subelement [2] w = some pdu ∧ subelement [2] plain = some pdu := by
  constructor
  · rw [hargs]
    obtain h | ⟨e, e', he, he', hsame⟩ := positionals_agree huptime cli.trapArgs
    · exact Or.inl h
    · exact Or.inr ⟨e, e', he, he', buildV2cPayload_error he,
        buildV3Payload_error (hargs ▸ he'), hsame⟩
  · intro w w' hw hw'
    obtain ⟨t, ht, hw⟩ := Outcome.bind_ok_iff.mp hw
    obtain ⟨m, hm, hw'⟩ := Outcome.bind_ok_iff.mp hw'
    obtain ⟨p, hp, _, hmade⟩ := assembleV2c_ok ht
    obtain ⟨p', _, _, hp', hmade', _⟩ := assembleV3_ok hm
    have hpositionals : p' = p := by
      rw [hargs] at hp'
      obtain ⟨q, hq, hq'⟩ | ⟨e, _, he, _⟩ := positionals_agree huptime cli.trapArgs
      · rw [hq] at hp
        rw [hq'] at hp'
        cases hp
        cases hp'
        rfl
      · rw [he] at hp
        exact absurd hp (Outcome.fail_ne_ok _ _)
    subst hpositionals
    obtain ⟨hopen, hlt⟩ := openScopedPdu_built hr hc hw'
    refine ⟨t, m, _, _, ht, hm, hopen, rfl, subelement_v2c hr hw, ?_⟩
    rw [subelement_trapPdu r.oid m hlt, hmade.pdu_eq hmade' hid]

theorem assembleV2c_maplesyrup : ∃ t, assembleV2c maplesyrupWorld communityCli = .ok t ∧
    t.Representable := by
  have hpositionals : v2cPositionals maplesyrupWorld communityCli.trapArgs =
      .ok ⟨12345, [1, 3, 6, 1, 6, 3, 1, 1, 5, 1],
        [([1, 3, 6, 1, 2, 1, 1, 5, 0], .octetString [104, 111, 115, 116])]⟩ := by decide +kernel
  refine ⟨{ maplesyrupMessage.trap with
    community := asBytes "public"
    inMemory := ⟨by decide +kernel, maplesyrupMessage.trap.inMemory.2⟩ }, ?_, by decide⟩
  rw [assembleV2c, hpositionals, Outcome.ok_bind]
  exact dif_pos ⟨by decide +kernel, maplesyrupMessage.trap.inMemory.2⟩

theorem v2c_v3_same_trap_maplesyrup :
    ∃ w w' plain pdu, buildV2cPayload x690 maplesyrupWorld communityCli = .ok w ∧
      buildV3Payload x690 maplesyrupCrypto maplesyrupWorld maplesyrupCli = .ok w' ∧
      openScopedPdu maplesyrupCrypto maplesyrupMessage.security w' = some plain ∧
      subelement [2] w = some pdu ∧ subelement [2] plain = some pdu := by
  obtain ⟨t, ht, hrep⟩ := assembleV2c_maplesyrup
  obtain ⟨w, hw⟩ := encode_total x690_emitsBer (messageValue_oids t hrep)
    (messageValue_within t hrep) (by unfold lengthBound; norm_num)
  rw [← buildV2cTrap_eq] at hw
  have hv2c : buildV2cPayload x690 maplesyrupWorld communityCli = .ok w :=
    Outcome.bind_ok_iff.mpr ⟨t, ht, hw⟩
  obtain ⟨w', hv3⟩ := buildV3Payload_maplesyrup
  obtain ⟨_, m, plain, pdu, _, hm, hopen, _, hpdu, hpdu'⟩ :=
    (v2c_v3_same_trap x690 x690_emitsBer maplesyrupCrypto maplesyrupCrypto_lawful maplesyrupWorld
      maplesyrupWorld communityCli maplesyrupCli rfl rfl rfl).2 w w' hv2c hv3
  rw [assembleV3_maplesyrup] at hm
  cases hm
  exact ⟨w, w', plain, pdu, hv2c, hv3, hopen, hpdu, hpdu'⟩

end SnmpTrap
