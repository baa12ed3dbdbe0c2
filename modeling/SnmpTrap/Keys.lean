import SnmpTrap.SameTrap

/-! Which engine ID a v3 message is sent under, and whose keys sign and encrypt it. -/
namespace SnmpTrap
open Rust Ber
set_option autoImplicit false
set_option maxHeartbeats 250000
set_option maxRecDepth 120000

/-! ## The authoritative engine ID -/

/-- The engine ID that the flags determine, or else the host: `-E`, then the IPv4 form of
`--src-addr`, then the MAC form, then the text form. -/
def AuthoritativeEngineId (world : World) (cli : Cli) (e : EngineId) : Prop :=
  match cli.authoritativeEngineId, cli.srcAddr, world.hostMac with
  | some s, _, _ => EngineId.parseUserInput s = .ok e
  | none, some s, _ =>
    ∃ ip, parseIpv4Addr s = some ip ∧ e.bytes = [0x80, 0x00, 0xF0, 0x45, 0x01] ++ ip.octets
  | none, none, some mac => e.bytes = [0x80, 0x00, 0xF0, 0x45, 0x03] ++ mac.toList
  | none, none, none => e.bytes = [0x80, 0x00, 0xF0, 0x45, 0x04] ++
      (asBytes (world.hostName.getD "snmptrap-rs")).take 27

theorem Cli.Validated.srcAddrV4 {cli : Cli} (h : cli.Validated) {s : String}
    (hs : cli.srcAddr = some s) : ∃ ip, parseIpv4Addr s = some ip ∧ cli.srcAddrV4 = some ip := by
  obtain ⟨raw, h⟩ := h
  obtain ⟨_, _, _, hsrc, _, h⟩ := validate_ok h
  have hraw : raw.srcAddr = some s := by
    obtain ⟨_, rfl, _⟩ | ⟨_, rfl⟩ := h
    · rwa [withDefaultLevel_srcAddr] at hs
    · exact hs
  rw [Cli.validateSrcAddr, hraw] at hsrc
  simp only at hsrc
  split at hsrc
  · rename_i ip hip
    rw [parseIpAddr_v4_iff] at hip
    exact ⟨ip, hip, by rw [Cli.srcAddrV4, hs, Option.bind_some, hip]⟩
  · exact absurd hsrc (Outcome.fail_ne_ok _ _)
  · exact absurd hsrc (Outcome.fail_ne_ok _ _)

theorem userAuthoritative_some {cli : Cli} {s : String} {user : Option EngineId}
    (hs : cli.authoritativeEngineId = some s) (h : userAuthoritative cli = .ok user) :
    ∃ e, EngineId.parseUserInput s = .ok e ∧ user = some e := by
  rw [userAuthoritative, hs] at h
  obtain ⟨e, he, h⟩ := Outcome.bind_ok_iff.mp h
  cases h
  exact ⟨e, Outcome.mapErr_ok_iff.mp he, rfl⟩

theorem userAuthoritative_none {cli : Cli} {user : Option EngineId}
    (hs : cli.authoritativeEngineId = none) (h : userAuthoritative cli = .ok user) :
    user = none := by
  rw [userAuthoritative, hs] at h
  cases h
  rfl

theorem authoritativeEngineId_of_resolve {world : World} {cli : Cli} (hvalid : cli.Validated)
    {user : Option EngineId} {e : EngineId} (huser : userAuthoritative cli = .ok user)
    (h : resolve world user cli.srcAddrV4 = (.ok e : Run EngineId)) :
    AuthoritativeEngineId world cli e := by
  unfold AuthoritativeEngineId
  cases hs : cli.authoritativeEngineId with
  | some s =>
    obtain ⟨e', he', rfl⟩ := userAuthoritative_some hs huser
    cases h
    exact he'
  | none =>
    cases userAuthoritative_none hs huser
    cases hsrc : cli.srcAddr with
    | some s =>
      obtain ⟨ip, hip, hv4⟩ := hvalid.srcAddrV4 hsrc
      rw [hv4] at h
      cases h
      exact ⟨ip, hip, rfl⟩
    | none =>
      have hv4 : cli.srcAddrV4 = none := by rw [Cli.srcAddrV4, hsrc, Option.bind_none]
      rw [hv4] at h
      cases hmac : world.hostMac with
      | some mac =>
        simp only [resolve, hmac] at h
        cases h
        rfl
      | none =>
        obtain ⟨e', he', hbytes⟩ := EngineId.fromPayload_eq (ε := Error) formatText
          (asBytes (world.hostName.getD "snmptrap-rs"))
        simp only [resolve, hmac] at h
        rw [EngineId.fromText, he'] at h
        cases h
        exact hbytes

/-! ## The keys -/

/-- The security parameters of the level on the command line, with the passwords localized to the
engine ID by the authentication protocol's hash. -/
def KeysOf (c : Crypto) (cli : Cli) (e : EngineId) : V3Security → Prop
  | .noAuthNoPriv => cli.securityLevel = some .noAuthNoPriv
  | .authNoPriv proto authKey =>
    cli.securityLevel = some .authNoPriv ∧ cli.authProtocol = some proto ∧
      ∃ password, cli.authPassword = some password ∧ authKey = localizedKey c password e proto
  | .authPriv proto authKey priv privKey _ =>
    cli.securityLevel = some .authPriv ∧ cli.authProtocol = some proto ∧
      cli.privProtocol = some priv ∧
      (∃ password, cli.authPassword = some password ∧
        authKey = localizedKey c password e proto) ∧
      ∃ password, cli.privPassword = some password ∧
        privKey = (localizedKey c password e proto).take priv.keyLen

theorem keysOf_buildV3Security {c : Crypto} (hc : c.Lawful) {world : World} {cli : Cli}
    {level : SecurityLevel} {e : EngineId} {security : V3Security}
    (hlevel : cli.securityLevel = some level) (hsecrets : cli.HasSecrets level)
    (h : buildV3Security c world cli level e = .ok security) : KeysOf c cli e security := by
  cases level with
  | noAuthNoPriv =>
    cases h
    exact hlevel
  | authNoPriv =>
    obtain ⟨⟨proto, hproto⟩, password, hpassword, hlen⟩ := hsecrets
    rw [buildV3Security_authNoPriv hc world e hproto hpassword hlen] at h
    cases h
    exact ⟨hlevel, hproto, password, hpassword, rfl⟩
  | authPriv =>
    obtain ⟨⟨proto, hproto⟩, ⟨password, hpassword, hlen⟩, ⟨priv, hpriv⟩, privPassword,
      hprivPassword, hlen'⟩ := hsecrets
    obtain hshort | hfits := Nat.lt_or_ge proto.digestLen priv.keyLen
    · obtain ⟨message, hrefused⟩ := buildV3Security_short hc world e hproto hpassword hlen hpriv
        hprivPassword hlen' hshort
      rw [hrefused] at h
      exact absurd h (Outcome.fail_ne_ok _ _)
    · rw [buildV3Security_authPriv hc world e hproto hpassword hlen hpriv hprivPassword hlen'
        hfits] at h
      cases h
      exact ⟨hlevel, hproto, hpriv, ⟨password, hpassword, rfl⟩, privPassword, hprivPassword, rfl⟩

/-! ## The context engine ID -/

/-- The parsed `-e`, else the authoritative engine ID. -/
def ContextEngineId (cli : Cli) (e context : EngineId) : Prop :=
  match cli.contextEngineId with
  | some s => EngineId.parseUserInput s = .ok context
  | none => context = e

theorem contextEngineIdOf_ok {cli : Cli} {e context : EngineId}
    (h : contextEngineIdOf cli e = .ok context) : ContextEngineId cli e context := by
  cases hs : cli.contextEngineId with
  | some s =>
    rw [contextEngineIdOf, hs] at h
    rw [ContextEngineId, hs]
    exact Outcome.mapErr_ok_iff.mp h
  | none =>
    rw [contextEngineIdOf, hs] at h
    rw [ContextEngineId, hs]
    exact (Except.ok.inj h).symm

/-! ## On the wire -/

/-- A receiver reads the authoritative engine ID, and for a tag the front of the HMAC that the
builder's key gives for the placeholder encoding. -/
theorem readV3Message_built {r : Encoder} (hr : r.EmitsBer) {c : Crypto} {m : V3TrapMessage}
    {w : List UInt8} (h : buildV3TrapMessage r c m = .ok w) :
    ∃ msg, Grammar.readV3Message w = some msg ∧
      msg.usm.engineId = m.authoritativeEngineId.bytes ∧
      ∀ proto key, m.security.auth = some (proto, key) → ∃ p full,
        encodePlaceholder r c m = .ok p ∧ c.hmac proto key p.bytes = some full ∧
        msg.usm.authParams = full.take proto.authParamLen := by
  cases hauth : m.security.auth with
  | none =>
    obtain ⟨_, _, _, _, _, hencoded⟩ := buildV3TrapMessage_ok h
    exact ⟨_, readV3Message_encodedWith hr hencoded, rfl, fun _ _ hnone => by cases hnone⟩
  | some a =>
    obtain ⟨proto, key⟩ := a
    obtain ⟨p, tag, hp, hsign, _, hencoded⟩ := buildV3TrapMessage_signed hauth h
    obtain ⟨_, full, hfull, htag⟩ := authSign_ok hsign
    refine ⟨_, readV3Message_encodedWith hr hencoded, rfl, fun proto' key' hsame => ?_⟩
    cases hsame
    exact ⟨p, full, hp, hfull, htag⟩

/-- **The keys belong to the engine ID on the wire.** One engine ID, of the form the flags and
the host determine, is sent as msgAuthoritativeEngineID and localizes the keys that sign and
encrypt; the context engine ID is the same unless `-e` is given, and giving it changes neither
the keys nor the authoritative engine ID. -/
theorem keys_belong_to_engine (r : Encoder) (hr : r.EmitsBer) (c : Crypto) (hc : c.Lawful)
    (world : World) (cli : Cli) (hvalid : cli.Validated) (hv : cli.version = .v3)
    (w : List UInt8) (h : buildV3Payload r c world cli = .ok w) :
    ∃ m e msg plain context,
      assembleV3 c world cli = .ok m ∧ Grammar.readV3Message w = some msg ∧
      openScopedPdu c m.security w = some plain ∧
      AuthoritativeEngineId world cli e ∧ 5 ≤ e.bytes.length ∧ e.bytes.length ≤ 32 ∧
      msg.usm.engineId = e.bytes ∧ KeysOf c cli e m.security ∧
      (∀ proto key, m.security.auth = some (proto, key) → ∃ p full,
        encodePlaceholder r c m = .ok p ∧ c.hmac proto key p.bytes = some full ∧
        msg.usm.authParams = full.take proto.authParamLen) ∧
      ContextEngineId cli e context ∧
      subelement [0] plain = some (element .octetString false context.bytes) ∧
      ∀ s w', buildV3Payload r c world { cli with contextEngineId := s } = .ok w' →
        ∃ m' msg', assembleV3 c world { cli with contextEngineId := s } = .ok m' ∧
          m'.security = m.security ∧ Grammar.readV3Message w' = some msg' ∧
          msg'.usm.engineId = e.bytes := by
  obtain ⟨m, hm, hw⟩ := Outcome.bind_ok_iff.mp h
  obtain ⟨p, user, level, _, _, huser, hresolve, hcontext, hlevel, hsecurity⟩ := assembleV3_ok hm
  obtain ⟨level', _, hlevel', _, hsecrets⟩ := hvalid.v3 hv
  rw [hlevel] at hlevel'
  cases hlevel'
  obtain ⟨msg, hmsg, hengine, hsigned⟩ := readV3Message_built hr hw
  obtain ⟨hopen, hlt⟩ := openScopedPdu_built hr hc hw
  refine ⟨m, m.authoritativeEngineId, msg, _, m.contextEngineId, hm, hmsg, hopen,
    authoritativeEngineId_of_resolve hvalid huser hresolve, m.authoritativeEngineId.min_le,
    m.authoritativeEngineId.le_max, hengine, keysOf_buildV3Security hc hlevel hsecrets hsecurity,
    hsigned, contextEngineIdOf_ok hcontext, subelement_contextEngineId r.oid m hlt, ?_⟩
  intro s w' h'
  obtain ⟨m', hm', hw'⟩ := Outcome.bind_ok_iff.mp h'
  obtain ⟨_, user', level', _, _, huser', hresolve', _, hlevel', hsecurity'⟩ := assembleV3_ok hm'
  obtain ⟨msg', hmsg', hengine', _⟩ := readV3Message_built hr hw'
  -- the level, the passwords and what resolves the engine ID do not mention `-e`
  have huserEq : user' = user := Except.ok.inj (huser'.symm.trans huser)
  subst huserEq
  have hengineEq : m'.authoritativeEngineId = m.authoritativeEngineId :=
    Except.ok.inj (hresolve'.symm.trans hresolve)
  have hlevelEq : level' = level := Option.some.inj (hlevel'.symm.trans hlevel)
  subst hlevelEq
  rw [hengineEq] at hsecurity' hengine'
  exact ⟨m', msg', hm', Except.ok.inj (hsecurity'.symm.trans hsecurity), hmsg', hengine'⟩

theorem keys_belong_to_engine_maplesyrup :
    ∃ w m e, buildV3Payload x690 maplesyrupCrypto maplesyrupWorld maplesyrupCli = .ok w ∧
      assembleV3 maplesyrupCrypto maplesyrupWorld maplesyrupCli = .ok m ∧
      AuthoritativeEngineId maplesyrupWorld maplesyrupCli e ∧
      KeysOf maplesyrupCrypto maplesyrupCli e m.security ∧
      ∃ msg, Grammar.readV3Message w = some msg ∧ msg.usm.engineId = e.bytes := by
  obtain ⟨w, hv3⟩ := buildV3Payload_maplesyrup
  obtain ⟨m, e, msg, _, _, hm, hmsg, _, he, _, _, hengine, hkeys, _⟩ :=
    keys_belong_to_engine x690 x690_emitsBer maplesyrupCrypto maplesyrupCrypto_lawful
      maplesyrupWorld maplesyrupCli maplesyrupCli_validated rfl w hv3
  exact ⟨w, m, e, hv3, hm, he, hkeys, msg, hmsg, hengine⟩

end SnmpTrap
