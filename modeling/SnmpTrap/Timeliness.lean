import SnmpTrap.EngineClock
import SnmpTrap.Net.TimeWindow
import SnmpTrap.UsmReceiver

/-! A manager that holds authenticated traps to RFC 3414's time window. Boots are always 1 and the
time counts from a process's first message, so the window is kept by the messages of one process,
and by those of one invocation after another for 150 seconds only. -/
namespace SnmpTrap
open Rust Ber Net
set_option autoImplicit false
set_option maxHeartbeats 250000
set_option maxRecDepth 120000

/-! ## The manager -/

def UserSecrets.auth : UserSecrets → Option (AuthProtocol × String)
  | .noAuthNoPriv => none
  | .authNoPriv proto password => some (proto, password)
  | .authPriv proto password _ _ => some (proto, password)

/-- The security parameters of a message of this user with a tag that verifies. -/
def authenticate (c : Crypto) (user : UsmUser) (w : List UInt8) : Option Grammar.Usm := do
  let msg ← Grammar.readV3Message w
  guard (msg.version = 3 ∧ msg.securityModel = 3 ∧ msg.usm.userName = user.name ∧
    msg.flags = user.secrets.flags)
  let (proto, password) ← user.secrets.auth
  verifyTag c proto (localizedTo c password msg.usm.engineId proto) w
  some msg.usm

/-- The user that a message names. -/
def findUser (users : List UInt8 → Option UserSecrets) (w : List UInt8) : Option UsmUser := do
  let msg ← Grammar.readV3Message w
  let secrets ← users msg.usm.userName
  some ⟨msg.usm.userName, secrets⟩

/-- A notion for each engine ID. -/
abbrev Notions := List UInt8 → Notion

/-- One message at one time of the manager's clock: the notion of its engine is brought up to date
once it is authentic, and it is taken in the window only. -/
def receiveFrom (c : Crypto) (user : UsmUser) (notions : Notions) (now : ℕ) (w : List UInt8) :
    Notions × Option Grammar.ScopedPdu :=
  match authenticate c user w with
  | none => (notions, receiveV3 c user w)
  | some usm =>
    let notion :=
      (notions usm.engineId).update usm.engineBoots.toNat usm.engineTime.toNat now
    (Function.update notions usm.engineId notion,
      if notion.InWindow usm.engineBoots.toNat usm.engineTime.toNat now then receiveV3 c user w
      else none)

def receiveAt (c : Crypto) (users : List UInt8 → Option UserSecrets) (notions : Notions) (now : ℕ)
    (w : List UInt8) : Notions × Option Grammar.ScopedPdu :=
  match findUser users w with
  | none => (notions, none)
  | some user => receiveFrom c user notions now w

def receiveAll (c : Crypto) (users : List UInt8 → Option UserSecrets) :
    Notions → List (ℕ × List UInt8) → List (Option Grammar.ScopedPdu)
  | _, [] => []
  | notions, (now, w) :: rest =>
    let (next, got) := receiveAt c users notions now w
    got :: receiveAll c users next rest

/-! ## A message on its arrival -/

/-- A message, its octets and the time of the manager's clock at which they arrive. -/
structure Delivery where
  message : V3TrapMessage
  octets : List UInt8
  now : ℕ

def Delivery.arrival (d : Delivery) : ℕ × List UInt8 := (d.now, d.octets)

/-- Octets of a message of a user whose secrets the manager shares. -/
structure Delivery.Genuine (r : Encoder) (c : Crypto) (users : List UInt8 → Option UserSecrets)
    (d : Delivery) : Prop where
  built : buildV3TrapMessage r c d.message = .ok d.octets
  representable : d.message.trap.Representable
  known : ∃ secrets, users d.message.userName = some secrets ∧
    secrets.Gives c d.message.authoritativeEngineId.bytes d.message.security

theorem UserSecrets.Gives.flags {c : Crypto} {engineId : List UInt8} {secrets : UserSecrets}
    {security : V3Security} (h : secrets.Gives c engineId security) :
    secrets.flags = [security.flagByte] := by
  cases secrets <;> cases security <;> first | exact False.elim h | rfl

/-- Both sides authenticate or neither does, and with the same key. -/
theorem UserSecrets.Gives.auth {c : Crypto} {engineId : List UInt8} {secrets : UserSecrets}
    {security : V3Security} (h : secrets.Gives c engineId security) :
    security.auth =
      secrets.auth.map fun a => (a.1, localizedTo c a.2 engineId a.1) := by
  cases secrets <;> cases security <;> first | exact False.elim h | skip
  · rfl
  · obtain ⟨rfl, rfl⟩ := h
    rfl
  · obtain ⟨rfl, rfl, _, _⟩ := h
    rfl

section Genuine
variable {r : Encoder} (hr : r.EmitsBer) {c : Crypto} {users : List UInt8 → Option UserSecrets}
  {d : Delivery} (h : d.Genuine r c users)
include hr h

/-- An authentic message tells its engine ID, boots and time; one without a tag is not one. -/
theorem authenticate_genuine {user : UsmUser} (hname : user.name = d.message.userName)
    (hgives : user.secrets.Gives c d.message.authoritativeEngineId.bytes d.message.security) :
    ∃ usm, usm.engineId = d.message.authoritativeEngineId.bytes ∧
      usm.engineBoots = d.message.engineBoots ∧ usm.engineTime = d.message.engineTime ∧
      authenticate c user d.octets = d.message.security.auth.map fun _ => usm := by
  obtain ⟨_, privParams, tag, _, _, hencoded⟩ := buildV3TrapMessage_ok h.built
  have hauth := hgives.auth
  refine ⟨⟨d.message.authoritativeEngineId.bytes, d.message.engineBoots, d.message.engineTime,
    d.message.userName, tag, privParams⟩, rfl, rfl, rfl, ?_⟩
  rw [authenticate, readV3Message_encodedWith hr hencoded, hname, hgives.flags]
  simp only [Option.bind_eq_bind, Option.bind_some]
  cases hsecrets : user.secrets.auth with
  | none =>
    rw [hsecrets] at hauth
    rw [hauth]
    rfl
  | some a =>
    obtain ⟨proto, password⟩ := a
    rw [hsecrets] at hauth
    rw [hauth]
    change (verifyTag c proto _ d.octets).bind _ = _
    rw [verifyTag_built hr h.built hauth]
    rfl

theorem receiveAt_genuine (hc : c.Lawful) (notions : Notions) (now : ℕ) :
    receiveAt c users notions now d.octets =
      if d.message.security.auth.isSome then
        let notion := (notions d.message.authoritativeEngineId.bytes).update
          d.message.engineBoots.toNat d.message.engineTime.toNat now
        (Function.update notions d.message.authoritativeEngineId.bytes notion,
          if notion.InWindow d.message.engineBoots.toNat d.message.engineTime.toNat now then
            some d.message.scoped
          else none)
      else (notions, some d.message.scoped) := by
  obtain ⟨secrets, hsecrets, hgives⟩ := h.known
  obtain ⟨_, _, _, _, _, hencoded⟩ := buildV3TrapMessage_ok h.built
  have hfind : findUser users d.octets = some ⟨d.message.userName, secrets⟩ := by
    rw [findUser, readV3Message_encodedWith hr hencoded]
    simp only [Option.bind_eq_bind, Option.bind_some, hsecrets]
  have hreceive : receiveV3 c ⟨d.message.userName, secrets⟩ d.octets = some d.message.scoped :=
    receiveV3_built hr h.built hc h.representable rfl hgives
  have hname : (⟨d.message.userName, secrets⟩ : UsmUser).name = d.message.userName := rfl
  obtain ⟨usm, hid, hboots, htime, hauth⟩ := authenticate_genuine hr h hname hgives
  unfold receiveAt
  rw [hfind]
  simp only [receiveFrom]
  rw [hauth, hreceive]
  cases d.message.security.auth with
  | none => rfl
  | some a =>
    simp only [Option.map_some, Option.isSome_some, if_true, hid, hboots, htime]

end Genuine

/-! ## One process -/

/-- A message of the process, received `lag` or up to 150 seconds more after its clock was read,
while its time is short of the cap. -/
structure Delivery.From (c : Crypto) (builds : List Build) (lag : ℤ) (d : Delivery) : Prop where
  exists_build : ∃ b, (b, d.message) ∈ session c none builds ∧ b.reading.now + lag ≤ d.now ∧
    d.now ≤ b.reading.now + lag + 150 * 10 ^ 9
  uncapped : d.message.engineTime.toNat < 2 ^ 31 - 1

section Deliveries
variable {r : Encoder} (hr : r.EmitsBer) {c : Crypto} (hc : c.Lawful)
  {users : List UInt8 → Option UserSecrets}

theorem sent_of_from {builds : List Build} {start : ℕ} {lag : ℤ} {d : Delivery}
    (hstart : ∀ bm ∈ session c none builds, bm.1 ∈ builds ∧ Stamped start bm.1.reading bm.2)
    (h : d.From c builds lag) :
    d.message.engineBoots = 1 ∧ Notion.Sent start lag d.message.engineTime.toNat d.now := by
  obtain ⟨⟨b, hmem, hlo, hhi⟩, hcap⟩ := h
  obtain ⟨hstarted, hboots, htime⟩ := (hstart _ hmem).2
  refine ⟨hboots, b.reading.now, hstarted, ?_, hlo, hhi⟩
  simp only at htime
  omega

include hr hc

/-- The invariant is that each notion follows the clock of the process. -/
theorem receiveAll_sent {start : ℕ} {lag : ℤ} (deliveries : List Delivery)
    (hgenuine : ∀ d ∈ deliveries, d.Genuine r c users)
    (hsent : ∀ d ∈ deliveries, d.message.engineBoots = 1 ∧
      Notion.Sent start lag d.message.engineTime.toNat d.now)
    (hsorted : deliveries.Pairwise fun d d' => d.now ≤ d'.now) (notions : Notions)
    (hnotions : ∀ d ∈ deliveries,
      (notions d.message.authoritativeEngineId.bytes).Follows start lag 1 d.now) :
    receiveAll c users notions (deliveries.map Delivery.arrival) =
      deliveries.map fun d => some d.message.scoped := by
  induction deliveries generalizing notions with
  | nil => rfl
  | cons d deliveries ih =>
    obtain ⟨hbefore, hsorted⟩ := List.pairwise_cons.mp hsorted
    rw [List.forall_mem_cons] at hgenuine hsent
    obtain ⟨⟨hboots, hd⟩, hsent⟩ := hsent
    obtain ⟨hfollows, hrest⟩ := List.forall_mem_cons.mp hnotions
    have hone : d.message.engineBoots.toNat = 1 := by
      rw [hboots]
      rfl
    rw [List.map_cons, List.map_cons]
    change receiveAll c users notions ((d.now, d.octets) :: deliveries.map Delivery.arrival) = _
    rw [receiveAll, receiveAt_genuine hr hgenuine.1 hc, hone]
    by_cases hauth : d.message.security.auth.isSome = true
    · have hwindow := hfollows.inWindow (by decide) hd
      rw [if_pos hauth]
      simp only
      rw [if_pos hwindow, ih hgenuine.2 hsent hsorted]
      intro d' hd'
      by_cases he : d'.message.authoritativeEngineId.bytes =
          d.message.authoritativeEngineId.bytes
      · rw [he, Function.update_self]
        exact (hfollows.update hd).later (hbefore d' hd')
      · rw [Function.update_of_ne he]
        exact hrest d' hd'
    · rw [if_neg hauth]
      simp only
      rw [ih hgenuine.2 hsent hsorted notions hrest]

/-- **Nothing of one process is out of the window.** Whatever messages of users known to the manager
a process builds while its engine time is short of the cap, in whatever order, how often and how
late they arrive, as long as their delays are within 150 seconds of each other: a manager that has
heard of no boot of their engines yet takes every one for the trap it is. -/
theorem one_process_in_window (builds : List Build)
    (hclock : Monotonic (builds.map Build.reading)) (lag : ℤ) (deliveries : List Delivery)
    (hgenuine : ∀ d ∈ deliveries, d.Genuine r c users)
    (hfrom : ∀ d ∈ deliveries, d.From c builds lag)
    (hsorted : deliveries.Pairwise fun d d' => d.now ≤ d'.now) (notions : Notions)
    (hnew : ∀ d ∈ deliveries, (notions d.message.authoritativeEngineId.bytes).boots = 0) :
    receiveAll c users notions (deliveries.map Delivery.arrival) =
      deliveries.map fun d => some d.message.scoped := by
  obtain ⟨start, hstart⟩ := session_none (c := c) builds hclock
  apply receiveAll_sent hr hc deliveries hgenuine (fun d hd => sent_of_from hstart (hfrom d hd))
    hsorted
  intro d hd
  refine Or.inl ?_
  rw [hnew d hd]
  exact Nat.one_pos

end Deliveries

def maplesyrupUsers : List UInt8 → Option UserSecrets := fun name =>
  if name = maplesyrupMessage.userName then
    some (.authPriv .sha1 "maplesyrup" .aes128 "maplesyrup")
  else none

/-- The message at some engine time, as it arrives. -/
theorem maplesyrup_genuine (time : UInt32) (now : ℕ) {w : List UInt8}
    (h : buildV3TrapMessage x690 maplesyrupCrypto { maplesyrupMessage with engineTime := time } =
      .ok w) :
    Delivery.Genuine x690 maplesyrupCrypto maplesyrupUsers
      ⟨{ maplesyrupMessage with engineTime := time }, w, now⟩ := by
  refine ⟨h, maplesyrupMessage_representable, _, if_pos rfl, rfl, ?_, rfl, ?_⟩
  · exact localizedKey_maplesyrup.symm
  · exact congrArg (List.take 16) localizedKey_maplesyrup.symm

/-- One message that the network delivers twice, 100 seconds apart. -/
theorem one_process_in_window_duplicated :
    ∃ w, buildV3TrapMessage x690 maplesyrupCrypto maplesyrupMessage = .ok w ∧
      receiveAll maplesyrupCrypto maplesyrupUsers (fun _ => .unheard)
        [(10 * 10 ^ 9, w), (110 * 10 ^ 9, w)] =
        [some maplesyrupMessage.scoped, some maplesyrupMessage.scoped] := by
  obtain ⟨w, hw⟩ := maplesyrupMessage_built
  have hmem : (firstBuild, maplesyrupMessage) ∈
      session maplesyrupCrypto none [firstBuild, secondBuild] := by
    rw [session_maplesyrup]
    exact List.mem_cons_self
  have hfrom : ∀ now ≤ 150 * 10 ^ 9, 7 * 10 ^ 9 ≤ now →
      Delivery.From maplesyrupCrypto [firstBuild, secondBuild] 0 ⟨maplesyrupMessage, w, now⟩ := by
    intro now hlate hearly
    refine ⟨⟨firstBuild, hmem, ?_, ?_⟩, ?_⟩
    · change ((7 * 10 ^ 9 : ℕ) : ℤ) + 0 ≤ now
      omega
    · change (now : ℤ) ≤ ((7 * 10 ^ 9 : ℕ) : ℤ) + 0 + 150 * 10 ^ 9
      omega
    · change UInt32.toNat 7 < 2 ^ 31 - 1
      decide
  refine ⟨w, hw, one_process_in_window x690_emitsBer maplesyrupCrypto_lawful
    [firstBuild, secondBuild] (by simp [Monotonic, firstBuild, secondBuild, maplesyrupBuild]) 0
    [⟨maplesyrupMessage, w, 10 * 10 ^ 9⟩, ⟨maplesyrupMessage, w, 110 * 10 ^ 9⟩] ?_ ?_ (by simp)
    (fun _ => .unheard) fun _ _ => rfl⟩
  · simp only [List.forall_mem_cons]
    exact ⟨maplesyrup_genuine 7 _ hw, maplesyrup_genuine 7 _ hw, by simp⟩
  · simp only [List.forall_mem_cons]
    exact ⟨hfrom _ (by decide) (by decide), hfrom _ (by decide) (by decide), by simp⟩

/-! ## One invocation after another -/

section Deliveries
variable {r : Encoder} (hr : r.EmitsBer) {c : Crypto} (hc : c.Lawful)
  {users : List UInt8 → Option UserSecrets}
include hr hc

/-- Once an engine is known by a message of time 0, its later ones are taken for 150 seconds. -/
theorem receiveAll_zero {e : List UInt8} {heard : ℕ} (deliveries : List Delivery)
    (hgenuine : ∀ d ∈ deliveries, d.Genuine r c users)
    (hauth : ∀ d ∈ deliveries, d.message.security.auth.isSome = true ∧
      d.message.authoritativeEngineId.bytes = e)
    (hzero : ∀ d ∈ deliveries, d.message.engineBoots = 1 ∧ d.message.engineTime = 0)
    (notions : Notions) (hnotion : notions e = ⟨1, 0, heard⟩) :
    receiveAll c users notions (deliveries.map Delivery.arrival) =
      deliveries.map fun d =>
        if (d.now - heard) / 10 ^ 9 ≤ 150 then some d.message.scoped else none := by
  induction deliveries generalizing notions with
  | nil => rfl
  | cons d deliveries ih =>
    rw [List.forall_mem_cons] at hgenuine hauth hzero
    obtain ⟨⟨hsome, hid⟩, hauth⟩ := hauth
    obtain ⟨⟨hboots, htime⟩, hzero⟩ := hzero
    have hone : d.message.engineBoots.toNat = 1 := by
      rw [hboots]
      rfl
    have hnone : d.message.engineTime.toNat = 0 := by
      rw [htime]
      rfl
    rw [List.map_cons, List.map_cons]
    change receiveAll c users notions ((d.now, d.octets) :: deliveries.map Delivery.arrival) = _
    rw [receiveAll, receiveAt_genuine hr hgenuine.1 hc, if_pos hsome, hone, hnone, hid, hnotion]
    simp only
    rw [Notion.update_zero, ih hgenuine.2 hauth hzero _ (Function.update_self ..)]
    congr 1
    exact if_congr (Notion.inWindow_zero_iff (by decide)) rfl rfl

/-- **Invocations keep the window for 150 seconds.** Each counts from its own start, so it tells
boots 1 and time 0 once more: of authenticated traps from one engine, each from an invocation that
took less than a second to build it, a manager that had heard of no boot of the engine takes those
that arrive within 150 whole seconds of the first, and no other. -/
theorem invocations_in_window_iff (first : Delivery) (rest : List Delivery)
    (hgenuine : ∀ d ∈ first :: rest, d.Genuine r c users)
    (hauth : ∀ d ∈ first :: rest, d.message.security.auth.isSome = true ∧
      d.message.authoritativeEngineId.bytes = first.message.authoritativeEngineId.bytes)
    (hinvoked : ∀ d ∈ first :: rest, ∃ b : Build, b.message c none = .ok d.message ∧
      b.reading.now < b.reading.init + 10 ^ 9) (notions : Notions)
    (hnew : (notions first.message.authoritativeEngineId.bytes).boots = 0) :
    receiveAll c users notions ((first :: rest).map Delivery.arrival) =
      (first :: rest).map fun d =>
        if (d.now - first.now) / 10 ^ 9 ≤ 150 then some d.message.scoped else none := by
  have hzero : ∀ d ∈ first :: rest, d.message.engineBoots = 1 ∧ d.message.engineTime = 0 := by
    intro d hd
    obtain ⟨b, hb, hquick⟩ := hinvoked d hd
    obtain ⟨_, hboots, htime⟩ := Build.stamped hb fun s hs => by cases hs
    refine ⟨hboots, UInt32.toNat_inj.mp ?_⟩
    rw [htime, Reading.getOrInit, Option.getD_none, UInt32.toNat_zero]
    omega
  obtain ⟨hfirst, hgenuine⟩ := List.forall_mem_cons.mp hgenuine
  obtain ⟨⟨hsome, _⟩, hauth⟩ := List.forall_mem_cons.mp hauth
  obtain ⟨⟨hboots, htime⟩, hzero⟩ := List.forall_mem_cons.mp hzero
  have hone : first.message.engineBoots.toNat = 1 := by
    rw [hboots]
    rfl
  have hnone : first.message.engineTime.toNat = 0 := by
    rw [htime]
    rfl
  have hlearned : (notions first.message.authoritativeEngineId.bytes).update 1 0 first.now =
      ⟨1, 0, first.now⟩ := by
    rw [Notion.update, if_pos (Or.inl (by rw [hnew]; exact Nat.one_pos))]
  rw [List.map_cons, List.map_cons]
  change receiveAll c users notions ((first.now, first.octets) :: rest.map Delivery.arrival) = _
  rw [receiveAll, receiveAt_genuine hr hfirst hc, if_pos hsome, hone, hnone, hlearned]
  simp only
  rw [receiveAll_zero hr hc rest hgenuine hauth hzero _ (Function.update_self ..)]
  congr 1
  exact if_congr (Notion.inWindow_zero_iff (by decide)) rfl rfl

end Deliveries

/-- Three invocations: at once, after 100 seconds and after 200. -/
theorem invocations_in_window_iff_late :
    ∃ w, buildV3TrapMessage x690 maplesyrupCrypto { maplesyrupMessage with engineTime := 0 } =
        .ok w ∧
      receiveAll maplesyrupCrypto maplesyrupUsers (fun _ => .unheard)
        [(0, w), (100 * 10 ^ 9, w), (200 * 10 ^ 9, w)] =
        [some maplesyrupMessage.scoped, some maplesyrupMessage.scoped, none] := by
  obtain ⟨w, hw⟩ := buildV3TrapMessage_total x690_emitsBer maplesyrupCrypto_lawful
    { maplesyrupMessage with engineTime := 0 } maplesyrupMessage_representable (by decide)
    (by decide) ⟨by decide, by decide⟩
  have hbuild : ∃ b : Build, b.message maplesyrupCrypto none =
      .ok { maplesyrupMessage with engineTime := 0 } ∧
        b.reading.now < b.reading.init + 10 ^ 9 := by
    have htime : processUptimeSeconds ((maplesyrupBuild ⟨0, 0, by decide, by decide⟩).worldAt
        none) = 0 := by decide +kernel
    refine ⟨maplesyrupBuild ⟨0, 0, by decide, by decide⟩, ?_, ?_⟩
    · rw [maplesyrupBuild_message, htime]
    · change 0 < 0 + 10 ^ 9
      decide
  let delivery := fun now => (⟨{ maplesyrupMessage with engineTime := 0 }, w, now⟩ : Delivery)
  refine ⟨w, hw, (invocations_in_window_iff x690_emitsBer maplesyrupCrypto_lawful (delivery 0)
    [delivery (100 * 10 ^ 9), delivery (200 * 10 ^ 9)] ?_ ?_ ?_ (fun _ => .unheard) rfl).trans ?_⟩
  · simp only [List.forall_mem_cons]
    exact ⟨maplesyrup_genuine 0 _ hw, maplesyrup_genuine 0 _ hw, maplesyrup_genuine 0 _ hw,
      by simp⟩
  · simp only [List.forall_mem_cons]
    exact ⟨⟨rfl, trivial⟩, ⟨rfl, rfl⟩, ⟨rfl, rfl⟩, by simp⟩
  · simp only [List.forall_mem_cons]
    exact ⟨hbuild, hbuild, hbuild, by simp⟩
  · change [if (0 - 0) / 10 ^ 9 ≤ 150 then some maplesyrupMessage.scoped else none,
      if (100 * 10 ^ 9 - 0) / 10 ^ 9 ≤ 150 then some maplesyrupMessage.scoped else none,
      if (200 * 10 ^ 9 - 0) / 10 ^ 9 ≤ 150 then some maplesyrupMessage.scoped else none] = _
    rw [if_pos (by decide), if_pos (by decide), if_neg (by decide)]

end SnmpTrap
