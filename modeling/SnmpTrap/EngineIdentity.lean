import SnmpTrap.Expressible
import SnmpTrap.HexAgree
import SnmpTrap.Rust.Utf8
import SnmpTrap.SameTrap

/-! Whose engine ID a message carries: what two hosts must share to get the same one, and what
keeps it the same on another host. -/
namespace SnmpTrap
open Rust Numeral
set_option autoImplicit false
set_option maxHeartbeats 250000
set_option maxRecDepth 120000

/-! ## The name of the host -/

/-- `host_name` on what `gethostname` leaves in its buffer; `none` is a nonzero return. -/
def hostName (answer : Option (Vector UInt8 256)) : Option String :=
  match answer with
  | none => none
  | some buf =>
    let nul := (buf.toList.findIdx? (· == 0)).getD buf.toList.length
    match fromUtf8 (buf.toList.take nul) with
    | none => none
    | some cs => if cs = [] then none else some (String.ofList cs)

/-- The octets in front of the first NUL. -/
def cString (bs : List UInt8) : List UInt8 := bs.takeWhile (· != 0)

theorem take_findIdx? (bs : List UInt8) :
    bs.take ((bs.findIdx? (· == 0)).getD bs.length) = cString bs := by
  induction bs with
  | nil => rfl
  | cons b bs ih =>
    rw [cString, List.findIdx?_cons]
    by_cases hb : b = 0
    · subst hb
      rfl
    · rw [if_neg (by simpa using hb), List.takeWhile_cons_of_pos (by simpa using hb), ← cString,
        ← ih]
      cases bs.findIdx? (· == 0) with
      | none => rfl
      | some i => rfl

/-- The name is the text, if any, that the octets in front of the NUL are. -/
theorem hostName_eq_some_iff {buf : Vector UInt8 256} {s : String} :
    hostName (some buf) = some s ↔ s ≠ "" ∧ asBytes s = cString buf.toList := by
  have hempty : ∀ cs : List Char, String.ofList cs = "" ↔ cs = [] := fun cs => by
    rw [← String.toList_inj, String.toList_ofList]
    rfl
  unfold hostName
  simp only [take_findIdx?]
  cases hread : fromUtf8 (cString buf.toList) with
  | none =>
    simp only [reduceCtorEq, false_iff]
    rintro ⟨_, hs⟩
    rw [asBytes, ← fromUtf8_eq_some_iff, hread] at hs
    cases hs
  | some cs =>
    rw [fromUtf8_eq_some_iff] at hread
    simp only
    split
    · rename_i hcs
      simp only [reduceCtorEq, false_iff]
      rintro ⟨hne, hs⟩
      rw [← hread, asBytes] at hs
      have htext := encodeUtf8_injective hs
      rw [hcs] at htext
      exact hne (String.toList_inj.mp htext)
    · rename_i hcs
      rw [Option.some.injEq]
      constructor
      · rintro rfl
        rw [Ne, hempty, asBytes, String.toList_ofList]
        exact ⟨hcs, hread⟩
      · rintro ⟨_, hs⟩
        rw [← hread, asBytes] at hs
        rw [← encodeUtf8_injective hs, String.ofList_toList]

/-! ## Identities -/

/-- What an engine ID that no flag gives says of the host. -/
inductive HostIdentity where
  | address (ip : Ipv4Addr)
  | mac (octets : Vector UInt8 6)
  | name (octets : List UInt8)
deriving DecidableEq

/-- A spoofed address before a MAC address before the name, as far as it goes in. -/
def HostIdentity.of (world : World) (src : Option Ipv4Addr) : HostIdentity :=
  match src, world.hostMac with
  | some ip, _ => .address ip
  | none, some m => .mac m
  | none, none => .name ((asBytes (world.hostName.getD "snmptrap-rs")).take maxPayload)

def HostIdentity.format : HostIdentity → UInt8
  | .address _ => formatIpv4
  | .mac _ => formatMac
  | .name _ => formatText

def HostIdentity.payload : HostIdentity → List UInt8
  | .address ip => ip.octets
  | .mac m => m.toList
  | .name octets => octets

def HostIdentity.engineId (i : HostIdentity) : List UInt8 :=
  penPrefix ++ [i.format] ++ i.payload

theorem resolve_identity {ε : Type} (world : World) (src : Option Ipv4Addr) :
    ∃ e, (resolve world none src : Outcome ε EngineId) = .ok e ∧
      e.bytes = (HostIdentity.of world src).engineId := by
  unfold resolve HostIdentity.of
  cases src with
  | some ip => exact ⟨_, rfl, rfl⟩
  | none =>
    cases world.hostMac with
    | some mac => exact ⟨_, rfl, rfl⟩
    | none => exact EngineId.fromPayload_eq formatText _

theorem octets_ipv4_injective {ip ip' : Ipv4Addr} (h : ip.octets = ip'.octets) : ip = ip' := by
  cases ip
  cases ip'
  simpa [Ipv4Addr.octets] using h

/-- The format octet tells the kinds of identity apart, the payload those of a kind. -/
theorem HostIdentity.engineId_injective {i j : HostIdentity} (h : i.engineId = j.engineId) :
    i = j := by
  rw [engineId, engineId, List.append_assoc, List.append_assoc, List.append_cancel_left_eq,
    List.singleton_append, List.singleton_append, List.cons.injEq] at h
  obtain ⟨hformat, hpayload⟩ := h
  cases i with
  | address ip =>
    cases j with
    | address ip' => exact congrArg _ (octets_ipv4_injective hpayload)
    | mac m => exact absurd hformat (show formatIpv4 ≠ formatMac by decide)
    | name octets => exact absurd hformat (show formatIpv4 ≠ formatText by decide)
  | mac m =>
    cases j with
    | address ip => exact absurd hformat (show formatMac ≠ formatIpv4 by decide)
    | mac m' => exact congrArg _ (Vector.toList_inj.mp hpayload)
    | name octets => exact absurd hformat (show formatMac ≠ formatText by decide)
  | name octets =>
    cases j with
    | address ip => exact absurd hformat (show formatText ≠ formatIpv4 by decide)
    | mac m => exact absurd hformat (show formatText ≠ formatMac by decide)
    | name octets' => exact congrArg _ hpayload

theorem EngineId.ext_bytes {e e' : EngineId} (h : e.bytes = e'.bytes) : e = e' := by
  cases e
  cases e'
  cases h
  rfl

/-- **Engine IDs collide exactly where identities do.** An invocation without `-E` is known by the
address it spoofs, else by the MAC address of its host, else by the name of that host in its first
27 octets, which is `snmptrap-rs` where it has none. Two on any hosts get one engine ID if and only
if they are known by the same; across these kinds they never do. What counts as the name is the
text in front of the NUL in the buffer of `gethostname`. -/
theorem engine_ids_collide_iff (world world' : World) (src src' : Option Ipv4Addr)
    (answer answer' : Option (Vector UInt8 256)) :
    ∃ e e', resolve { world with hostName := hostName answer } none src = (.ok e : Run EngineId) ∧
      resolve { world' with hostName := hostName answer' } none src' = (.ok e' : Run EngineId) ∧
      (e = e' ↔ HostIdentity.of { world with hostName := hostName answer } src =
        HostIdentity.of { world' with hostName := hostName answer' } src') ∧
      ∀ buf name, answer = some buf → (hostName answer = some name ↔
        name ≠ "" ∧ asBytes name = cString buf.toList) := by
  obtain ⟨e, he, hbytes⟩ := resolve_identity { world with hostName := hostName answer } src
  obtain ⟨e', he', hbytes'⟩ := resolve_identity { world' with hostName := hostName answer' } src'
  refine ⟨e, e', he, he', ?_, ?_⟩
  · constructor
    · rintro rfl
      rw [hbytes] at hbytes'
      exact HostIdentity.engineId_injective hbytes'
    · intro h
      apply EngineId.ext_bytes
      rw [hbytes, hbytes', h]
  · rintro buf name rfl
    exact hostName_eq_some_iff

/-! ## Pinning -/

theorem not_space_of_hexDigit {c : Char} (h : IsHexDigit c) : isWhitespace c = false :=
  Bool.eq_false_iff.mpr fun hspace => h.not_separator (Or.inr hspace)

/-- Every engine ID has a text that `-E` reads as it. -/
theorem parseUserInput_hexText (e : EngineId) :
    EngineId.parseUserInput (hexText e.bytes) = .ok e := by
  rw [parseUserInput_ok_iff, engineIdCleaned_eq]
  · exact parseHexString_ok_iff.mp (parseHexString_hexText e.bytes)
  · intro c hc hspace
    have hmem := (trim_sublist _).subset hc
    rw [hexText, String.toList_ofList] at hmem
    obtain ⟨d, hd, rfl⟩ := List.mem_map.mp hmem
    rw [not_space_of_hexDigit (hexValue_digitChar d (nibbles_lt _ d hd)).1] at hspace
    cases hspace

/-- The same lookups on a host with another interface and another name. -/
def World.onHost (world : World) (mac : Option (Vector UInt8 6)) (name : Option String) : World :=
  { world with hostMac := mac, hostName := name }

def Cli.pinned (cli : Cli) (text : String) (src : Option String) : Cli :=
  { cli with authoritativeEngineId := some text, srcAddr := src }

theorem assembleV3_pinned {c : Crypto} {world : World} {cli : Cli} {e : EngineId} {text : String}
    (hnone : cli.authoritativeEngineId = none)
    (he : resolve world none cli.srcAddrV4 = (.ok e : Run EngineId))
    (htext : EngineId.parseUserInput text = .ok e) (mac : Option (Vector UInt8 6))
    (name src : Option String) :
    assembleV3 c (world.onHost mac name) (cli.pinned text src) = assembleV3 c world cli := by
  have huser : userAuthoritative cli = .ok none := by rw [userAuthoritative, hnone]
  have hpinned : userAuthoritative (cli.pinned text src) = .ok (some e) := by
    unfold userAuthoritative Cli.pinned
    simp only
    rw [htext]
    rfl
  have hresolve : (resolve (world.onHost mac name) (some e) (cli.pinned text src).srcAddrV4 :
      Run EngineId) = .ok e := rfl
  unfold assembleV3
  have hpositionals : v3Positionals (world.onHost mac name) (cli.pinned text src).trapArgs =
      v3Positionals world cli.trapArgs := rfl
  rw [hpositionals, hpinned, huser]
  simp only [Outcome.ok_bind]
  rw [hresolve, he]
  rfl

/-- **A pinned engine ID travels.** The engine ID that an invocation without `-E` resolves can be
written for `-E`; and with any text that says it, from any host and any source address, the
message of the same arguments is the same, octet for octet, or fails the same. -/
theorem pinned_engine_id_travels (r : Ber.Encoder) (c : Crypto) (world : World) (cli : Cli)
    (hnone : cli.authoritativeEngineId = none) :
    ∃ e, (resolve world none cli.srcAddrV4 : Run EngineId) = .ok e ∧
      (∃ text, EngineId.parseUserInput text = .ok e) ∧
      ∀ text, EngineId.parseUserInput text = .ok e → ∀ mac name src,
        buildV3Payload r c (world.onHost mac name) (cli.pinned text src) =
          buildV3Payload r c world cli := by
  obtain ⟨e, he, _⟩ := resolve_identity (ε := Error) world cli.srcAddrV4
  refine ⟨e, he, ⟨_, parseUserInput_hexText e⟩, fun text htext mac name src => ?_⟩
  rw [buildV3Payload, buildV3Payload, assembleV3_pinned hnone he htext mac name src]

theorem pinned_engine_id_travels_maplesyrup :
    ∃ e, (resolve maplesyrupWorld none none : Run EngineId) = .ok e ∧
      (∃ text, EngineId.parseUserInput text = .ok e) ∧
      ∀ text, EngineId.parseUserInput text = .ok e → ∀ mac name src,
        buildV3Payload Ber.x690 maplesyrupCrypto (maplesyrupWorld.onHost mac name)
            ({ maplesyrupCli with authoritativeEngineId := none }.pinned text src) =
          buildV3Payload Ber.x690 maplesyrupCrypto maplesyrupWorld
            { maplesyrupCli with authoritativeEngineId := none } :=
  pinned_engine_id_travels Ber.x690 maplesyrupCrypto maplesyrupWorld
    { maplesyrupCli with authoritativeEngineId := none } rfl

end SnmpTrap
