import SnmpTrap.EndToEnd
import SnmpTrap.MacUptime
import SnmpTrap.Numeral.Binary64
import SnmpTrap.OidTrip
import SnmpTrap.Rust.ParseFloat

/-! The uptime of the host (`host_uptime_centiseconds`), and what of it the traps tell whose UPTIME
is ''. On Linux it takes the way over `f64`: read as a decimal fraction of seconds, times 100, cut
off. -/
namespace SnmpTrap
open Rust Ber Numeral
set_option autoImplicit false
set_option maxHeartbeats 250000
set_option maxRecDepth 120000

/-! ## The function -/

/-- `split_whitespace().next()`. -/
def firstWord (cs : List Char) : Option (List Char) :=
  match (cs.dropWhile isWhitespace).takeWhile (!isWhitespace ·) with
  | [] => none
  | word => some word

def linuxUptimeCentiseconds (procUptime : Except IoError String) : Except IoError UInt32 := do
  let raw ← procUptime
  match firstWord raw.toList with
  | none => .error ⟨.invalidData, none, "/proc/uptime had no content"⟩
  | some first =>
    match parseF64 first with
    | .error e => .error ⟨.invalidData, none, e.text⟩
    | .ok secs =>
      let centiseconds := (secs * 100.0).toUInt64.toNat
      .ok (UInt32.ofNat (min centiseconds (2 ^ 32 - 1)))

/-- The answers of the system that the function asks for. -/
structure UptimeSources where
  procUptime : Except IoError String
  sysctl : Except IoError Timeval
  gettimeofday : Except IoError Timeval

def hostUptimeCentiseconds (platform : Platform) (sources : UptimeSources) :
    Outcome IoError UInt32 :=
  match platform with
  | .linux => Outcome.ofExcept (linuxUptimeCentiseconds sources.procUptime)
  | .macos => macosUptimeCentiseconds sources.sysctl sources.gettimeofday
  | .other => .ok 0

/-! ## What Linux writes -/

/-- Seconds with two decimals; what stands behind them is the time spent idle. -/
def procUptimeText (n : ℕ) (idle : List Char) : String :=
  String.ofList ((n / 100).repr.toList ++ '.' :: twoDigits (n % 100) ++ ' ' :: idle)

theorem isDigit_twoDigits {n : ℕ} (h : n < 100) : ∀ c ∈ twoDigits n, IsDigit c := by
  intro c hc
  obtain rfl | hc := List.mem_cons.mp hc
  · exact isDigit_digitChar _ (by omega)
  · rw [List.mem_singleton.mp hc]
    exact isDigit_digitChar _ (by omega)

theorem isWhitespace_of_isDigit {c : Char} (h : IsDigit c) : isWhitespace c = false := by
  rw [← digitChar_of_isDigit h]
  have hall : ∀ d < 10, isWhitespace (Nat.digitChar d) = false := by decide
  unfold IsDigit at h
  exact hall _ (by omega)

theorem firstWord_append {word rest : List Char} (hne : word ≠ [])
    (hword : ∀ c ∈ word, isWhitespace c = false) : firstWord (word ++ ' ' :: rest) = some word := by
  have hspace : isWhitespace ' ' = true := by decide
  have hkept : (word ++ ' ' :: rest).dropWhile isWhitespace = word ++ ' ' :: rest := by
    obtain ⟨c, cs, rfl⟩ := List.exists_cons_of_ne_nil hne
    rw [List.cons_append, List.dropWhile_cons_of_neg]
    rw [hword c List.mem_cons_self]
    exact Bool.false_ne_true
  have htake : (word ++ ' ' :: rest).takeWhile (!isWhitespace ·) = word := by
    rw [List.takeWhile_append_of_pos fun c hc => by rw [hword c hc]; rfl,
      List.takeWhile_cons_of_neg (by rw [hspace]; exact Bool.false_ne_true), List.append_nil]
  rw [firstWord, hkept, htake]
  split
  · contradiction
  · rfl

/-- The digits before and behind the point make up the hundredths. -/
theorem digitsValue_hundredths (n : ℕ) :
    digitsValue 10 ((n / 100).repr.toList ++ twoDigits (n % 100)) = n := by
  have htens := isDigit_digitChar (n % 100 / 10) (by omega)
  have hones := isDigit_digitChar (n % 100 % 10) (by omega)
  have hall := isDecimal_concat (isDecimal_concat (isDecimal_repr (n / 100)) htens) hones
  rw [toNat_digitChar (by omega), toNat_digitChar (by omega)] at hall
  rw [twoDigits, ← List.singleton_append, ← List.append_assoc, digitsValue_of_isDecimal hall]
  omega

theorem parseF64_hundredths (n : ℕ) :
    parseF64 ((n / 100).repr.toList ++ '.' :: twoDigits (n % 100)) =
      .ok (Float.ofScientific n true 2) := by
  have htwo := isDigit_twoDigits (n := n % 100) (Nat.mod_lt n (by decide))
  rw [parseF64_point isDigit_of_mem_repr (repr_ne_nil _) htwo (List.cons_ne_nil _ _),
    digitsValue_hundredths]
  rfl

theorem firstWord_procUptimeText (n : ℕ) (idle : List Char) :
    firstWord (procUptimeText n idle).toList =
      some ((n / 100).repr.toList ++ '.' :: twoDigits (n % 100)) := by
  rw [procUptimeText, String.toList_ofList]
  refine firstWord_append (by simp) fun c hc => ?_
  rw [List.mem_append, List.mem_cons] at hc
  obtain hc | rfl | hc := hc
  · exact isWhitespace_of_isDigit (isDigit_of_mem_repr c hc)
  · decide
  · exact isWhitespace_of_isDigit (isDigit_twoDigits (Nat.mod_lt n (by decide)) c hc)

/-! ## What is left of it -/

theorem canonical_hundred : Numeral.Canonical (100.0 : Float).toModel.unpack .positive 100 := by
  have hstands := stands_ofScientific 1000 (e := 1) (by decide) (by decide)
  have hquotient : ((1000 : ℕ) : ℚ) / 10 ^ 1 = (100 : ℕ) := by norm_num
  rw [hquotient, (representable_natCast (by decide)).nearest_eq, Stands,
    if_pos (natCast_lt_limit (by decide))] at hstands
  exact hstands

theorem linuxUptimeCentiseconds_ok {raw : String} {first : List Char} {secs : Float}
    (hfirst : firstWord raw.toList = some first) (hsecs : parseF64 first = .ok secs) :
    linuxUptimeCentiseconds (.ok raw) =
      .ok (UInt32.ofNat (min (secs * 100.0).toUInt64.toNat (2 ^ 32 - 1))) := by
  simp only [linuxUptimeCentiseconds, bind, Except.bind, hfirst, hsecs]

/-- What a division by 100 and a multiplication leave of `n` hundredths. -/
def keptHundredths (n : ℕ) : UInt32 :=
  UInt32.ofNat (min ⌊binary64.scaledBack (K := ℚ) n 100⌋₊ (2 ^ 32 - 1))

theorem linuxUptimeCentiseconds_eq (n : ℕ) (idle : List Char) :
    linuxUptimeCentiseconds (.ok (procUptimeText n idle)) = .ok (keptHundredths n) := by
  have hsecs := stands_ofScientific n (e := 2) (by decide) (by decide)
  have hproduct := toUInt64_stands (stands_mul hsecs canonical_hundred (by norm_num))
  have hscaled : binary64.nearest (binary64.nearest ((n : ℚ) / 10 ^ 2) * 100) =
      binary64.scaledBack n 100 := by
    have hten : (10 : ℚ) ^ 2 = (100 : ℕ) := by norm_num
    rw [Format.scaledBack, hten, Nat.cast_ofNat]
  rw [hscaled] at hproduct
  rw [linuxUptimeCentiseconds_ok (firstWord_procUptimeText n idle) (parseF64_hundredths n), hproduct,
    min_assoc]
  rfl

/-- 0.29 · 100 is a little less than 29. -/
example : linuxUptimeCentiseconds (.ok "0.29 0.00\n") = .ok 28 := by decide +kernel

/-- The number in a trap whose host has been up for `n` hundredths of a second. -/
structure ToldUptime (n : ℕ) (u : UInt32) : Prop where
  near : u.toNat = min n (2 ^ 32 - 1) ∨ u.toNat + 1 = n ∧ n < 2 ^ 32
  quarter : 25 ∣ n → u.toNat = min n (2 ^ 32 - 1)

theorem floor_hundredths {n : ℕ} (h : n ≤ 2 ^ 32) :
    ⌊binary64.scaledBack (K := ℚ) n 100⌋₊ = n ∨ ⌊binary64.scaledBack (K := ℚ) n 100⌋₊ + 1 = n := by
  obtain rfl | hpos := Nat.eq_zero_or_pos n
  · left
    rw [Format.scaledBack, Nat.cast_zero, zero_div, Format.nearest_zero, zero_mul,
      Format.nearest_zero, Nat.floor_zero]
  · refine binary64.floor_scaledBack (by decide) ?_ (by simp only [binary64]; omega)
    calc (2 : ℚ) ^ (binary64.minExp + binary64.precision - 1) ≤ 2 ^ (-7 : ℤ) :=
          Format.two_zpow_le (by decide)
      _ ≤ 1 / 100 := by norm_num
      _ ≤ n / (100 : ℕ) := by
          rw [Nat.cast_ofNat]
          exact div_le_div_of_nonneg_right (by exact_mod_cast hpos) (by norm_num)

/-- Quarters of a second are numbers of the format. -/
theorem scaledBack_quarter {n : ℕ} (hn : n < 2 ^ 32) (h : 25 ∣ n) :
    binary64.scaledBack (K := ℚ) n 100 = n := by
  obtain ⟨k, rfl⟩ := h
  refine binary64.scaledBack_eq (by decide) ⟨k, -2, ?_, ?_, ?_⟩ (representable_natCast (by omega))
  · simp only [binary64]
    omega
  · simp only [binary64]
    decide
  · push_cast
    ring

theorem toNat_keptHundredths (n : ℕ) : (keptHundredths n).toNat =
    min ⌊binary64.scaledBack (K := ℚ) n 100⌋₊ (2 ^ 32 - 1) :=
  UInt32.toNat_ofNat_of_lt' (by unfold UInt32.size; omega)

theorem keptHundredths_mono {m n : ℕ} (h : m ≤ n) : keptHundredths m ≤ keptHundredths n := by
  have hmono := Nat.floor_mono (binary64.scaledBack_mono (K := ℚ) (d := 100) h)
  rw [UInt32.le_iff_toNat_le, toNat_keptHundredths, toNat_keptHundredths]
  omega

theorem toldUptime_keptHundredths (n : ℕ) : ToldUptime n (keptHundredths n) := by
  have htoNat := toNat_keptHundredths n
  obtain hlt | hge := Nat.lt_or_ge n (2 ^ 32)
  · constructor
    · rw [htoNat]
      have := floor_hundredths hlt.le
      omega
    · intro h
      rw [htoNat, scaledBack_quarter hlt h, Nat.floor_natCast]
  · -- past the cap the rounding no longer shows
    have hcap := floor_hundredths (le_refl (2 ^ 32))
    have hmono := Nat.floor_mono (binary64.scaledBack_mono (K := ℚ) (d := 100) hge)
    have hmin : min ⌊binary64.scaledBack (K := ℚ) n 100⌋₊ (2 ^ 32 - 1) = min n (2 ^ 32 - 1) := by
      omega
    rw [hmin] at htoNat
    exact ⟨Or.inl htoNat, fun _ => htoNat⟩

/-! ## What the traps tell -/

/-- A Linux host that has been up for `n` hundredths of a second. -/
def UpFor (world : World) (n : ℕ) : Prop :=
  ∃ sources idle, sources.procUptime = .ok (procUptimeText n idle) ∧
    Outcome.ofExcept world.hostUptimeCentiseconds = hostUptimeCentiseconds .linux sources

theorem UpFor.hostUptimeCentiseconds {world : World} {n : ℕ} (h : UpFor world n) :
    world.hostUptimeCentiseconds = .ok (keptHundredths n) := by
  obtain ⟨sources, idle, hsource, hhost⟩ := h
  rw [SnmpTrap.hostUptimeCentiseconds, hsource, linuxUptimeCentiseconds_eq] at hhost
  exact Outcome.ofExcept_ok_iff.mp hhost

/-- The UPTIME positional is ''. -/
def DefaultUptime (cli : Cli) : Prop :=
  match cli.version with
  | .v1 => cli.trapArgs[4]? = some ""
  | .v2c | .v3 => cli.trapArgs[0]? = some ""

/-- The uptime that a manager reads in a payload, under v3 one who knows the user. -/
def ReadsUptime (c : Crypto) (cli : Cli) (w : List UInt8) (u : UInt32) : Prop :=
  match cli.version with
  | .v1 => ∃ msg, Grammar.readCommunityMessage Grammar.readTrapPduV1 w = some msg ∧
    msg.data.timeStamp = u
  | .v2c => ∃ msg, Grammar.readCommunityMessage Grammar.readTrapPdu w = some msg ∧
    msg.data.bindings.head? = some (sysUptimeOid, .timeTicks u)
  | .v3 => ∃ user msg, cli.usmUser = some user ∧ receiveV3 c user w = some msg ∧
    msg.pdu.bindings.head? = some (sysUptimeOid, .timeTicks u)

theorem parseUptimeOrDefault_empty {world : World} {u : UInt32}
    (h : world.hostUptimeCentiseconds = .ok u) : parseUptimeOrDefault world "" = .ok u := by
  rw [parseUptimeOrDefault, if_pos rfl, h]
  rfl

theorem V2Args.uptime_default {world : World} {args : List String} {p : Positionals}
    {uptimeArg trapOidArg : String} {rest : List String} {u : UInt32}
    (h : V2Args world args p uptimeArg trapOidArg rest) (hdefault : args[0]? = some "")
    (hhost : world.hostUptimeCentiseconds = .ok u) : p.uptime = u := by
  rw [h.args] at hdefault
  cases hdefault
  have huptime := h.uptime
  rw [parseUptimeOrDefault_empty hhost] at huptime
  exact (Except.ok.inj huptime).symm

theorem readsUptime_of_tells {c : Crypto} {world : World} {cli : Cli} {dst : SocketAddrV4}
    {w : List UInt8} {u : UInt32} (h : Tells c world cli dst w) (hdefault : DefaultUptime cli)
    (hhost : world.hostUptimeCentiseconds = .ok u) : ReadsUptime c cli w u := by
  unfold Tells at h
  unfold DefaultUptime at hdefault
  unfold ReadsUptime
  cases hv : cli.version with
  | v1 =>
    rw [hv] at h hdefault
    obtain ⟨t, _, _, _, _, _, _, hargs, _, _, hread⟩ := h
    refine ⟨_, hread, ?_⟩
    rw [hargs.args] at hdefault
    cases hdefault
    have huptime := hargs.uptime
    rw [parseUptimeOrDefault_empty hhost] at huptime
    exact (Except.ok.inj huptime).symm
  | v2c =>
    rw [hv] at h hdefault
    obtain ⟨p, _, _, _, hargs, hread⟩ := h
    refine ⟨_, hread, ?_⟩
    rw [← hargs.uptime_default hdefault hhost]
    rfl
  | v3 =>
    rw [hv] at h hdefault
    obtain ⟨p, _, _, _, user, _, _, _, hargs, huser, _, _, _, _, hread⟩ := h
    refine ⟨user, _, huser, hread, ?_⟩
    rw [← hargs.uptime_default hdefault hhost]
    rfl

/-- The payload of a command line with '' for UPTIME, on a Linux host up for `n` hundredths. -/
structure BuiltAt (r : Encoder) (c : Crypto) (n : ℕ) (cli : Cli) (w : List UInt8) : Prop where
  validated : cli.Validated
  uptimeArg : DefaultUptime cli
  built : ∃ world dst, UpFor world n ∧ OidsRepresentable world cli dst ∧
    buildPayload r c world cli dst = .ok w

theorem BuiltAt.readsUptime {r : Encoder} (hr : r.EmitsBer) {c : Crypto} (hc : c.Lawful) {n : ℕ}
    {cli : Cli} {w : List UInt8} (h : BuiltAt r c n cli w) : ReadsUptime c cli w
      (keptHundredths n) := by
  obtain ⟨world, dst, hup, hoids, hbuilt⟩ := h.built
  exact readsUptime_of_tells (tells_built hr hoids hc h.validated hbuilt) h.uptimeArg
    hup.hostUptimeCentiseconds

/-- **With '' for UPTIME a trap from Linux tells the uptime of its host.** A manager reads in the
payload the hundredths of a second that the host has been up or one less, never more, capped at
`u32::MAX`, and exactly those where they are quarters of a second; and of two traps, of any
versions and arguments, the later never tells the smaller uptime. -/
theorem empty_uptime_tells_host (r : Encoder) (hr : r.EmitsBer) (c : Crypto) (hc : c.Lawful)
    {n n' : ℕ} (hn : n ≤ n') {cli cli' : Cli} {w w' : List UInt8} (h : BuiltAt r c n cli w)
    (h' : BuiltAt r c n' cli' w') : ∃ u u', ReadsUptime c cli w u ∧ ReadsUptime c cli' w' u' ∧
      ToldUptime n u ∧ ToldUptime n' u' ∧ u ≤ u' :=
  ⟨_, _, h.readsUptime hr hc, h'.readsUptime hr hc, toldUptime_keptHundredths n,
    toldUptime_keptHundredths n', keptHundredths_mono hn⟩

def emptyUptimeCli : Cli :=
  { communityCli with
    trapArgs := ["", "1.3.6.1.6.3.1.1.5.1"]
    inMemory := by decide +kernel }

def linuxWorld (n : ℕ) : World :=
  { maplesyrupWorld with
    hostUptimeCentiseconds := linuxUptimeCentiseconds (.ok (procUptimeText n [])) }

theorem linuxWorld_upFor (n : ℕ) : UpFor (linuxWorld n) n :=
  ⟨⟨.ok (procUptimeText n []), .ok ⟨0, 0⟩, .ok ⟨0, 0⟩⟩, [], rfl, rfl⟩

theorem v2cPositionals_linuxWorld (n : ℕ) :
    v2cPositionals (linuxWorld n) emptyUptimeCli.trapArgs =
      .ok ⟨keptHundredths n, [1, 3, 6, 1, 6, 3, 1, 1, 5, 1], []⟩ := by
  have htrapOid : parseOid "1.3.6.1.6.3.1.1.5.1" = .ok [1, 3, 6, 1, 6, 3, 1, 1, 5, 1] := by
    decide +kernel
  change v2cPositionals (linuxWorld n) ("" :: "1.3.6.1.6.3.1.1.5.1" :: []) = _
  rw [v2cPositionals_cons]
  exact positionals_ok_iff.mpr
    ⟨parseUptimeOrDefault_empty (linuxWorld_upFor n).hostUptimeCentiseconds, htrapOid, .nil,
      fun vb hvb => by cases hvb⟩

theorem builtAt_linuxWorld (n : ℕ) : ∃ w, BuiltAt x690 maplesyrupCrypto n emptyUptimeCli w := by
  have hmemory : InVec communityTrap.community ∧ InVec communityTrap.trapOid ∧
      BindingsInMemory [] := by decide +kernel
  have hrep : Ber.Representable [1, 3, 6, 1, 6, 3, 1, 1, 5, 1] ∧ BindingsRepresentable [] := by
    decide
  obtain ⟨t, ht, htrep⟩ : ∃ t, assembleV2c (linuxWorld n) emptyUptimeCli = .ok t ∧
      t.Representable := by
    refine ⟨⟨communityTrap.community, communityTrap.requestId, keptHundredths n,
      communityTrap.trapOid, [], hmemory⟩, ?_, hrep⟩
    rw [assembleV2c, v2cPositionals_linuxWorld, Outcome.ok_bind]
    exact dif_pos hmemory
  obtain ⟨w, hw⟩ := encode_total x690_emitsBer (messageValue_oids t htrep)
    (messageValue_within t htrep) (by unfold lengthBound; norm_num)
  rw [← buildV2cTrap_eq] at hw
  refine ⟨w, ⟨emptyUptimeCli, rfl⟩, rfl, linuxWorld n, ⟨⟨127, 0, 0, 1⟩, 162⟩, linuxWorld_upFor n,
    ?_, Outcome.bind_ok_iff.mpr ⟨t, ht, hw⟩⟩
  intro p uptimeArg trapOidArg rest h
  have hp := positionals_ok_iff.mpr ⟨h.uptime, h.trapOid, h.varbinds, h.unreserved⟩
  rw [← v2cPositionals_cons, ← h.args, v2cPositionals_linuxWorld] at hp
  cases hp
  exact hrep

/-- After 0.29 and 0.57 seconds, both of which lose a hundredth. -/
theorem empty_uptime_tells_host_lost : ∃ w w' u u',
    BuiltAt x690 maplesyrupCrypto 29 emptyUptimeCli w ∧
      BuiltAt x690 maplesyrupCrypto 57 emptyUptimeCli w' ∧
      ReadsUptime maplesyrupCrypto emptyUptimeCli w u ∧
      ReadsUptime maplesyrupCrypto emptyUptimeCli w' u' ∧
      ToldUptime 29 u ∧ ToldUptime 57 u' ∧ u ≤ u' := by
  obtain ⟨w, h⟩ := builtAt_linuxWorld 29
  obtain ⟨w', h'⟩ := builtAt_linuxWorld 57
  obtain ⟨u, u', htold⟩ := empty_uptime_tells_host x690 x690_emitsBer maplesyrupCrypto
    maplesyrupCrypto_lawful (by decide) h h'
  exact ⟨w, w', u, u', h, h', htold⟩

end SnmpTrap
