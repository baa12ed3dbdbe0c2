import SnmpTrap.SameTrap

/-! The engine clock of one process: `process_uptime_seconds` counts from its own first call, which
a `OnceLock` keeps, however many messages the process builds. -/
namespace SnmpTrap
open Rust Numeral
set_option autoImplicit false
set_option maxHeartbeats 250000
set_option maxRecDepth 120000

/-! ## Readings -/

/-- The two instants that one call takes, in nanoseconds: for `get_or_init`, which keeps that of
the first call only, and for `elapsed`. -/
structure Reading where
  init : ℕ
  now : ℕ
  le : init ≤ now
  inRange : now < 2 ^ 63 * 10 ^ 9

/-- `START.get_or_init(Instant::now)`. -/
def Reading.getOrInit (reading : Reading) (start : Option ℕ) : ℕ := start.getD reading.init

/-- `start.elapsed().as_secs()`. -/
def Reading.elapsed (reading : Reading) (start : ℕ) : UInt64 :=
  UInt64.ofNat ((reading.now - start) / 10 ^ 9)

/-- Instants do not go back. -/
def Monotonic (readings : List Reading) : Prop := readings.Pairwise fun a b => a.now ≤ b.init

/-! ## A process that builds messages -/

/-- A message to build: what the host tells but for the clock, the command line, and the clock. -/
structure Build where
  world : World
  cli : Cli
  reading : Reading

def Build.worldAt (b : Build) (start : Option ℕ) : World :=
  { b.world with elapsedSeconds := b.reading.elapsed (b.reading.getOrInit start) }

def Build.message (c : Crypto) (b : Build) (start : Option ℕ) : Run V3TrapMessage :=
  assembleV3 c (b.worldAt start) b.cli

/-- `START` and the messages, from the state of `START` at first. A build that fails does so before
it asks for the time. -/
def session (c : Crypto) : Option ℕ → List Build → List (Build × V3TrapMessage)
  | _, [] => []
  | start, b :: bs =>
    match b.message c start with
    | .ok m => (b, m) :: session c (some (b.reading.getOrInit start)) bs
    | .error _ => session c start bs

/-! ## The clock on the messages -/

/-- The message tells the seconds from `start` to its reading, capped. -/
structure Stamped (start : ℕ) (reading : Reading) (m : V3TrapMessage) : Prop where
  started : start ≤ reading.now
  boots : m.engineBoots = 1
  time : m.engineTime.toNat = min ((reading.now - start) / 10 ^ 9) (2 ^ 31 - 1)

theorem assembleV3_clock {c : Crypto} {world : World} {cli : Cli} {m : V3TrapMessage}
    (h : assembleV3 c world cli = .ok m) :
    m.engineBoots = 1 ∧ m.engineTime = processUptimeSeconds world := by
  obtain ⟨_, _, _, _, _, _, _, _, _, _, _, _, _, _, _, _, rfl⟩ := assembleV3_ok_iff.mp h
  exact ⟨rfl, rfl⟩

/-- Nothing else in a message depends on the clock. -/
theorem assembleV3_elapsed {c : Crypto} {world : World} {cli : Cli} {m : V3TrapMessage}
    (h : assembleV3 c world cli = .ok m) (s : UInt64) :
    assembleV3 c { world with elapsedSeconds := s } cli =
      .ok { m with engineTime := processUptimeSeconds { world with elapsedSeconds := s } } := by
  obtain ⟨p, user, authoritative, context, level, security, trap, name, hp, huser,
    hauthoritative, hcontext, hlevel, hsecurity, htrap, hname, rfl⟩ := assembleV3_ok_iff.mp h
  exact assembleV3_ok_iff.mpr ⟨p, user, authoritative, context, level, security, trap, name, hp,
    huser, hauthoritative, hcontext, hlevel, hsecurity, htrap, hname, rfl⟩

theorem toNat_elapsed (reading : Reading) (start : ℕ) :
    (reading.elapsed start).toNat = (reading.now - start) / 10 ^ 9 := by
  have hlt := reading.inRange
  rw [Reading.elapsed, UInt64.toNat_ofNat']
  omega

theorem Build.stamped {c : Crypto} {b : Build} {start : Option ℕ} {m : V3TrapMessage}
    (h : b.message c start = .ok m) (hle : ∀ s, start = some s → s ≤ b.reading.now) :
    Stamped (b.reading.getOrInit start) b.reading m := by
  obtain ⟨hboots, htime⟩ := assembleV3_clock h
  refine ⟨?_, hboots, ?_⟩
  · cases start with
    | none => exact b.reading.le
    | some s => exact hle s rfl
  · rw [htime, processUptimeSeconds, Build.worldAt, toNat_elapsed, UInt32.toNat_ofNat']
    omega

/-- Once it is set, `START` stays, and every message counts from it. -/
theorem session_some {c : Crypto} {start : ℕ} (builds : List Build)
    (hstart : ∀ b ∈ builds, start ≤ b.reading.now) :
    ∀ bm ∈ session c (some start) builds, bm.1 ∈ builds ∧ Stamped start bm.1.reading bm.2 := by
  induction builds with
  | nil =>
    intro bm hbm
    cases hbm
  | cons b builds ih =>
    rw [List.forall_mem_cons] at hstart
    have hrest : ∀ bm ∈ session c (some start) builds,
        bm.1 ∈ b :: builds ∧ Stamped start bm.1.reading bm.2 := by
      intro bm hbm
      obtain ⟨hmem, hstamped⟩ := ih hstart.2 bm hbm
      exact ⟨List.mem_cons_of_mem b hmem, hstamped⟩
    rw [session]
    split
    · rename_i m hm
      rw [List.forall_mem_cons]
      refine ⟨⟨List.mem_cons_self, ?_⟩, hrest⟩
      exact Build.stamped hm fun s hs => by
        cases hs
        exact hstart.1
    · exact hrest

theorem Monotonic.init_le {reading : Reading} {readings : List Reading}
    (h : Monotonic (reading :: readings)) : ∀ r ∈ readings, reading.init ≤ r.now := by
  intro r hr
  exact (reading.le.trans ((List.pairwise_cons.mp h).1 r hr)).trans r.le

/-- The messages of a fresh process count from one instant, that of the first of them. -/
theorem session_none {c : Crypto} (builds : List Build)
    (hclock : Monotonic (builds.map Build.reading)) :
    ∃ start, ∀ bm ∈ session c none builds, bm.1 ∈ builds ∧ Stamped start bm.1.reading bm.2 := by
  induction builds with
  | nil =>
    refine ⟨0, fun bm hbm => ?_⟩
    cases hbm
  | cons b builds ih =>
    rw [session]
    split
    · rename_i m hm
      refine ⟨b.reading.init, List.forall_mem_cons.mpr ⟨⟨List.mem_cons_self, ?_⟩, ?_⟩⟩
      · exact Build.stamped hm fun s hs => by cases hs
      · intro bm hbm
        have hinit : ∀ b' ∈ builds, b.reading.init ≤ b'.reading.now := fun b' hb' =>
          hclock.init_le b'.reading (List.mem_map_of_mem hb')
        obtain ⟨hmem, hstamped⟩ := session_some builds hinit bm hbm
        exact ⟨List.mem_cons_of_mem b hmem, hstamped⟩
    · obtain ⟨start, hall⟩ := ih (List.pairwise_cons.mp hclock).2
      refine ⟨start, fun bm hbm => ?_⟩
      obtain ⟨hmem, hstamped⟩ := hall bm hbm
      exact ⟨List.mem_cons_of_mem b hmem, hstamped⟩

theorem session_sublist (c : Crypto) (start : Option ℕ) (builds : List Build) :
    ((session c start builds).map Prod.fst).Sublist builds := by
  induction builds generalizing start with
  | nil => exact .slnil
  | cons b builds ih =>
    rw [session]
    split
    · exact (ih _).cons_cons b
    · exact (ih _).cons b

theorem Stamped.le {start : ℕ} {reading reading' : Reading} {m m' : V3TrapMessage}
    (h : Stamped start reading m) (h' : Stamped start reading' m')
    (hle : reading.now ≤ reading'.now) : m.engineTime ≤ m'.engineTime := by
  rw [UInt32.le_iff_toNat_le, h.time, h'.time]
  omega

/-- **The engine clock of a process does not go back.** Over any messages that one process builds,
failed builds among them, the boots stay 1 and the times never decrease nor leave the range of an
`Integer32`. -/
theorem engine_clock_never_back (c : Crypto) (builds : List Build)
    (hclock : Monotonic (builds.map Build.reading)) :
    (session c none builds).Pairwise (fun a b => a.2.engineTime ≤ b.2.engineTime) ∧
    ∀ bm ∈ session c none builds, bm.2.engineBoots = 1 ∧ bm.2.engineTime.toNat ≤ 2 ^ 31 - 1 := by
  obtain ⟨start, hall⟩ := session_none (c := c) builds hclock
  refine ⟨?_, fun bm hbm => ?_⟩
  · have hordered : (session c none builds).Pairwise fun a b =>
        a.1.reading.now ≤ b.1.reading.init :=
      List.pairwise_map.mp ((List.pairwise_map.mp hclock).sublist (session_sublist c none builds))
    apply hordered.imp_of_mem
    intro a b ha hb hle
    exact (hall a ha).2.le (hall b hb).2 (hle.trans b.1.reading.le)
  · obtain ⟨_, hboots, htime⟩ := (hall bm hbm).2
    exact ⟨hboots, htime.le.trans (Nat.min_le_right _ _)⟩

def maplesyrupBuild (reading : Reading) : Build := ⟨maplesyrupWorld, maplesyrupCli, reading⟩

theorem maplesyrupBuild_message (reading : Reading) (start : Option ℕ) :
    (maplesyrupBuild reading).message maplesyrupCrypto start = .ok { maplesyrupMessage with
      engineTime := processUptimeSeconds ((maplesyrupBuild reading).worldAt start) } :=
  assembleV3_elapsed assembleV3_maplesyrup _

/-- Seven seconds into its process. -/
def firstBuild : Build := maplesyrupBuild ⟨0, 7 * 10 ^ 9, by decide, by decide⟩

/-- Two seconds later. -/
def secondBuild : Build := maplesyrupBuild ⟨8 * 10 ^ 9, 9 * 10 ^ 9, by decide, by decide⟩

theorem session_maplesyrup : session maplesyrupCrypto none [firstBuild, secondBuild] =
    [(firstBuild, { maplesyrupMessage with engineTime := 7 }),
      (secondBuild, { maplesyrupMessage with engineTime := 9 })] := by
  have hfirst : firstBuild.message maplesyrupCrypto none =
      .ok { maplesyrupMessage with engineTime := 7 } := by
    have htime : processUptimeSeconds (firstBuild.worldAt none) = 7 := by decide +kernel
    rw [← htime]
    exact maplesyrupBuild_message _ none
  have hsecond : secondBuild.message maplesyrupCrypto (some 0) =
      .ok { maplesyrupMessage with engineTime := 9 } := by
    have htime : processUptimeSeconds (secondBuild.worldAt (some 0)) = 9 := by decide +kernel
    rw [← htime]
    exact maplesyrupBuild_message _ (some 0)
  have hstart : firstBuild.reading.getOrInit none = 0 := rfl
  rw [session, hfirst]
  simp only
  rw [hstart, session, hsecond]
  rfl

theorem engine_clock_never_back_maplesyrup :
    (session maplesyrupCrypto none [firstBuild, secondBuild]).length = 2 ∧
    (session maplesyrupCrypto none [firstBuild, secondBuild]).Pairwise
      (fun a b => a.2.engineTime ≤ b.2.engineTime) ∧
    ∀ bm ∈ session maplesyrupCrypto none [firstBuild, secondBuild],
      bm.2.engineBoots = 1 ∧ bm.2.engineTime.toNat ≤ 2 ^ 31 - 1 := by
  refine ⟨?_, engine_clock_never_back maplesyrupCrypto [firstBuild, secondBuild] ?_⟩
  · rw [session_maplesyrup]
    rfl
  · simp [Monotonic, firstBuild, secondBuild, maplesyrupBuild]

/-! ## Initialization vectors -/

theorem fixedOctets_injective {k m n : ℕ} (hm : m < 256 ^ k) (hn : n < 256 ^ k)
    (h : fixedOctets k m = fixedOctets k n) : m = n := by
  rw [← ofOctets_fixedOctets k m hm, h, ofOctets_fixedOctets k n hn]

theorem makeAesIv_injective {boots boots' time time' : UInt32} {salt salt' : UInt64}
    (h : makeAesIv boots time salt = makeAesIv boots' time' salt') :
    boots = boots' ∧ time = time' ∧ salt = salt' := by
  obtain ⟨hfront, hsalt⟩ := List.append_inj h (by simp)
  obtain ⟨hboots, htime⟩ := List.append_inj hfront (by simp)
  have := boots.toNat_lt
  have := boots'.toNat_lt
  have := time.toNat_lt
  have := time'.toNat_lt
  have := salt.toNat_lt
  have := salt'.toNat_lt
  exact ⟨UInt32.toNat_inj.mp (fixedOctets_injective (by omega) (by omega) hboots),
    UInt32.toNat_inj.mp (fixedOctets_injective (by omega) (by omega) htime),
    UInt64.toNat_inj.mp (fixedOctets_injective (by omega) (by omega) hsalt)⟩

/-- The octets of a message under privacy name this initialization vector, and decrypted with it
their scoped PDU is the message's own. -/
def V3TrapMessage.OpensWith (r : Ber.Encoder) (c : Crypto) (m : V3TrapMessage)
    (w iv : List UInt8) : Prop :=
  ∃ authProto authKey privProto privKey salt msg ciphertext plaintext,
    m.security = .authPriv authProto authKey privProto privKey salt ∧
    Grammar.readV3Message w = some msg ∧ msg.data = .encrypted ciphertext ∧
    iv = wireIv msg.usm ∧ encode r m.scopedPdu.toValue = .ok plaintext ∧
    Cipher.decrypt (c.aes privProto (privKey.take privProto.keyLen)) 16 iv ciphertext = plaintext

theorem opensWith_built {r : Ber.Encoder} (hr : r.EmitsBer) {c : Crypto} (hc : c.Lawful)
    {m : V3TrapMessage} {w : List UInt8} (h : buildV3TrapMessage r c m = .ok w)
    {authProto : AuthProtocol} {privProto : PrivProtocol} {authKey privKey : List UInt8}
    {salt : UInt64} (hs : m.security = .authPriv authProto authKey privProto privKey salt) :
    m.OpensWith r c w (makeAesIv m.engineBoots m.engineTime salt) := by
  obtain ⟨scopedData, privParams, tag, hprotect, _, hencoded⟩ := buildV3TrapMessage_ok h
  obtain ⟨plaintext, ciphertext, hplaintext, hciphertext, rfl, rfl⟩ :=
    protectScopedPdu_authPriv hs hprotect
  have hdecrypt := decrypt_privEncrypt hc _ _ _ _ _ _ _ (privEncrypt_ok hciphertext) hciphertext
  exact ⟨_, _, _, _, _, _, ciphertext, plaintext, hs, readV3Message_encodedWith hr hencoded, rfl,
    rfl, hplaintext, hdecrypt⟩

/-- Under `authPriv` a message has privacy, with the salt that the host drew. -/
theorem buildV3Security_priv {c : Crypto} {world : World} {cli : Cli} {e : EngineId}
    {security : V3Security} (h : buildV3Security c world cli .authPriv e = .ok security) :
    ∃ authProto authKey privProto privKey,
      security = .authPriv authProto authKey privProto privKey world.freshSalt := by
  obtain ⟨_, _, h⟩ := Outcome.bind_ok_iff.mp h
  obtain ⟨_, _, h⟩ := Outcome.bind_ok_iff.mp h
  obtain ⟨_, _, h⟩ := Outcome.bind_ok_iff.mp h
  obtain ⟨_, _, h⟩ := Outcome.bind_ok_iff.mp h
  obtain ⟨_, _, h⟩ := Outcome.bind_ok_iff.mp h
  cases h
  exact ⟨_, _, _, _, rfl⟩

/-- Time and salt are all there is to the vector of a build. -/
theorem Build.opensWith {r : Ber.Encoder} (hr : r.EmitsBer) {c : Crypto} (hc : c.Lawful)
    {b : Build} {start : Option ℕ} {m : V3TrapMessage} {w : List UInt8}
    (hlevel : b.cli.securityLevel = some .authPriv) (h : b.message c start = .ok m)
    (hw : buildV3TrapMessage r c m = .ok w) :
    m.OpensWith r c w (makeAesIv 1 m.engineTime b.world.freshSalt) := by
  obtain ⟨hboots, _⟩ := assembleV3_clock h
  obtain ⟨_, _, level, _, _, _, _, _, hlevel', hsecurity⟩ := assembleV3_ok h
  have hlevels : some level = some .authPriv := hlevel'.symm.trans hlevel
  cases hlevels
  obtain ⟨_, _, _, _, hs⟩ := buildV3Security_priv hsecurity
  have hopens := opensWith_built hr hc hw hs
  rwa [hboots] at hopens

theorem exists_message_of_mem {c : Crypto} {bm : Build × V3TrapMessage} (builds : List Build)
    (start : Option ℕ) (h : bm ∈ session c start builds) :
    ∃ start, bm.1.message c start = .ok bm.2 := by
  induction builds generalizing start with
  | nil => cases h
  | cons b builds ih =>
    rw [session] at h
    split at h
    · rename_i m hm
      obtain rfl | h := List.mem_cons.mp h
      · exact ⟨start, hm⟩
      · exact ih _ h
    · exact ih _ h

/-- **A vector comes back exactly with its second and its salt.** Of all the messages under
privacy that any two processes build, or one, the octets of two decrypt with the same
initialization vector if and only if they tell the same engine time and drew the same salt: the
boots never set them apart. -/
theorem session_ivs_collide_iff (r : Ber.Encoder) (hr : r.EmitsBer) (c : Crypto) (hc : c.Lawful)
    (builds builds' : List Build) (a b : Build × V3TrapMessage) (ha : a ∈ session c none builds)
    (hb : b ∈ session c none builds') (hlevel : a.1.cli.securityLevel = some .authPriv)
    (hlevel' : b.1.cli.securityLevel = some .authPriv) (w w' : List UInt8)
    (hw : buildV3TrapMessage r c a.2 = .ok w) (hw' : buildV3TrapMessage r c b.2 = .ok w') :
    ∃ iv iv', a.2.OpensWith r c w iv ∧ b.2.OpensWith r c w' iv' ∧
      (iv = iv' ↔
        a.2.engineTime = b.2.engineTime ∧ a.1.world.freshSalt = b.1.world.freshSalt) := by
  obtain ⟨_, hma⟩ := exists_message_of_mem builds none ha
  obtain ⟨_, hmb⟩ := exists_message_of_mem builds' none hb
  refine ⟨_, _, Build.opensWith hr hc hlevel hma hw, Build.opensWith hr hc hlevel' hmb hw', ?_⟩
  constructor
  · intro h
    exact (makeAesIv_injective h).2
  · rintro ⟨htime, hsalt⟩
    rw [htime, hsalt]

/-- One salt, two seconds apart. -/
theorem session_ivs_collide_iff_maplesyrup :
    ∃ w w' iv iv',
      V3TrapMessage.OpensWith Ber.x690 maplesyrupCrypto maplesyrupMessage w iv ∧
      V3TrapMessage.OpensWith Ber.x690 maplesyrupCrypto { maplesyrupMessage with engineTime := 9 }
        w' iv' ∧ iv ≠ iv' := by
  have hfirst : (firstBuild, maplesyrupMessage) ∈
      session maplesyrupCrypto none [firstBuild, secondBuild] := by
    rw [session_maplesyrup]
    exact List.mem_cons_self
  have hsecond : (secondBuild, { maplesyrupMessage with engineTime := 9 }) ∈
      session maplesyrupCrypto none [firstBuild, secondBuild] := by
    rw [session_maplesyrup]
    exact List.mem_cons_of_mem _ List.mem_cons_self
  obtain ⟨w, hw⟩ := maplesyrupMessage_built
  obtain ⟨w', hw'⟩ := buildV3TrapMessage_total Ber.x690_emitsBer maplesyrupCrypto_lawful
    { maplesyrupMessage with engineTime := 9 } maplesyrupMessage_representable (by decide)
    (by decide) ⟨by decide, by decide⟩
  obtain ⟨iv, iv', hiv, hiv', hiff⟩ := session_ivs_collide_iff Ber.x690 Ber.x690_emitsBer
    maplesyrupCrypto maplesyrupCrypto_lawful _ _ _ _ hfirst hsecond rfl rfl w w' hw hw'
  exact ⟨w, w', iv, iv', hiv, hiv', fun h => absurd (hiff.mp h).1 (by decide)⟩

end SnmpTrap
