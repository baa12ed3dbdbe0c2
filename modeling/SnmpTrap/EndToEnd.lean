import SnmpTrap.DumpRun
import SnmpTrap.Identity
import SnmpTrap.UsmReceiver
import SnmpTrap.V1Positional

/-! From the command line to the receivers: whatever is sent in a run of the process arrives, and
tells the trap that the arguments say. -/
namespace SnmpTrap
open Rust Ber Transport
set_option autoImplicit false
set_option maxHeartbeats 250000
set_option maxRecDepth 120000

/-! ## What the arguments say -/

/-- The positionals of a v2-style trap. -/
structure V2Args (world : World) (args : List String) (p : Positionals)
    (uptimeArg trapOidArg : String) (rest : List String) : Prop where
  args : args = uptimeArg :: trapOidArg :: rest
  uptime : parseUptimeOrDefault world uptimeArg = .ok p.uptime
  trapOid : parseOid trapOidArg = .ok p.trapOid
  varbinds : Triplets rest p.varbinds
  unreserved : ∀ vb ∈ p.varbinds, ¬ Reserved vb.1

def Positionals.Representable (p : Positionals) : Prop :=
  Ber.Representable p.trapOid ∧ BindingsRepresentable p.varbinds

/-- What the receiver of the trap PDU reads. -/
def Positionals.received (p : Positionals) (world : World) : Grammar.TrapPdu :=
  { requestId := world.freshRequestId
    errorStatus := 0
    errorIndex := 0
    bindings := (sysUptimeOid, .timeTicks p.uptime) :: (snmpTrapOidOid, .objectId p.trapOid) ::
      p.varbinds.map fun vb => (vb.1, vb.2.smi) }

theorem V2cTrap.MadeOf.received {t : V2cTrap} {world : World} {p : Positionals}
    (h : t.MadeOf world p) : t.received = p.received world := by
  rw [V2cTrap.received, Positionals.received, h.requestId, h.uptime, h.trapOid, h.varbinds]

theorem V2cTrap.MadeOf.representable {t : V2cTrap} {world : World} {p : Positionals}
    (h : t.MadeOf world p) (hp : p.Representable) : t.Representable := by
  rw [V2cTrap.Representable, h.trapOid, h.varbinds]
  exact hp

/-- Every OID of the trap that the arguments say has a faithful encoding. -/
def OidsRepresentable (world : World) (cli : Cli) (dst : SocketAddrV4) : Prop :=
  match cli.version with
  | .v1 => ∀ t enterpriseArg agentArg genericArg specificArg uptimeArg rest,
    V1Args world cli dst t enterpriseArg agentArg genericArg specificArg uptimeArg rest →
      t.Representable
  | .v2c | .v3 => ∀ p uptimeArg trapOidArg rest,
    V2Args world cli.trapArgs p uptimeArg trapOidArg rest → p.Representable

/-! ## What the payload tells -/

/-- A manager with no more than the octets reads the trap of the arguments under v1 and v2c. -/
def TellsV1 (world : World) (cli : Cli) (dst : SocketAddrV4) (w : List UInt8) : Prop :=
  ∃ t enterpriseArg agentArg genericArg specificArg uptimeArg rest,
    V1Args world cli dst t enterpriseArg agentArg genericArg specificArg uptimeArg rest ∧
    ∃ got, List.Forall₂ (fun (vb : List UInt32 × VarBindValue) (g : List UInt32 × Grammar.SmiV1) =>
        g.1 = vb.1 ∧ vb.2.smiV1 = some g.2) t.varbinds got ∧
      Grammar.readCommunityMessage Grammar.readTrapPduV1 w = some ⟨0, t.community,
        ⟨t.enterprise, t.agentAddr, t.generic, t.specific, t.uptimeCentiseconds, got⟩⟩

def TellsV2c (world : World) (cli : Cli) (w : List UInt8) : Prop :=
  ∃ p uptimeArg trapOidArg rest, V2Args world cli.trapArgs p uptimeArg trapOidArg rest ∧
    Grammar.readCommunityMessage Grammar.readTrapPdu w =
      some ⟨1, asBytes cli.community, p.received world⟩

/-- Under v3 the manager has to know the user of the command line; the engine ID that the keys of
the message are localized to is the one in its octets. -/
def TellsV3 (c : Crypto) (world : World) (cli : Cli) (w : List UInt8) : Prop :=
  ∃ p uptimeArg trapOidArg rest user e context msg,
    V2Args world cli.trapArgs p uptimeArg trapOidArg rest ∧ cli.usmUser = some user ∧
    AuthoritativeEngineId world cli e ∧ ContextEngineId cli e context ∧
    Grammar.readV3Message w = some msg ∧ msg.usm.engineId = e.bytes ∧
    receiveV3 c user w = some
      ⟨context.bytes, (cli.contextName.map asBytes).getD [], p.received world⟩

def Tells (c : Crypto) (world : World) (cli : Cli) (dst : SocketAddrV4) (w : List UInt8) : Prop :=
  match cli.version with
  | .v1 => TellsV1 world cli dst w
  | .v2c => TellsV2c world cli w
  | .v3 => TellsV3 c world cli w

/-- The names in a message are those of the flags. -/
theorem assembleV3_names {c : Crypto} {world : World} {cli : Cli} {m : V3TrapMessage}
    (h : assembleV3 c world cli = .ok m) : ∃ name, cli.userName = some name ∧
      m.userName = asBytes name ∧ m.contextName = (cli.contextName.map asBytes).getD [] := by
  obtain ⟨_, _, _, _, _, _, _, name, _, _, _, _, _, _, _, hname, rfl⟩ := assembleV3_ok_iff.mp h
  exact ⟨name, hname, rfl, rfl⟩

section Payload
variable {r : Encoder} (hr : r.EmitsBer) {world : World} {cli : Cli} {dst : SocketAddrV4}
  {w : List UInt8} (hoids : OidsRepresentable world cli dst)
include hr hoids

theorem tellsV1_built (hv : cli.version = .v1) (h : buildV1Payload r world cli dst = .ok w) :
    TellsV1 world cli dst w := by
  rw [OidsRepresentable, hv] at hoids
  obtain ⟨t, ht, hw⟩ := Outcome.bind_ok_iff.mp h
  obtain ⟨_, _, _, _, _, _, hargs⟩ := assembleV1_ok_iff.mp ht
  have hrep : t.Representable := hoids _ _ _ _ _ _ _ hargs
  refine ⟨t, _, _, _, _, _, _, hargs, ?_⟩
  rw [buildV1Trap_eq] at hw
  obtain ⟨bindings, hb, hw⟩ := Outcome.bind_ok_iff.mp hw
  exact readMessage_v1 hr hrep (Outcome.mapM_ok_iff.mp hb) hw

theorem tellsV2c_built (hv : cli.version = .v2c) (h : buildV2cPayload r world cli = .ok w) :
    TellsV2c world cli w := by
  rw [OidsRepresentable, hv] at hoids
  obtain ⟨t, ht, hw⟩ := Outcome.bind_ok_iff.mp h
  obtain ⟨p, hp, hcommunity, hmade⟩ := assembleV2c_ok ht
  obtain ⟨uptimeArg, trapOidArg, rest, hargs, hp⟩ := v2cPositionals_ok hp
  obtain ⟨huptime, htrapOid, hvarbinds, hunreserved⟩ := positionals_ok_iff.mp hp
  have hargs : V2Args world cli.trapArgs p uptimeArg trapOidArg rest :=
    ⟨hargs, huptime, htrapOid, hvarbinds, hunreserved⟩
  have hrep : p.Representable := hoids _ _ _ _ hargs
  refine ⟨p, uptimeArg, trapOidArg, rest, hargs, ?_⟩
  rw [readMessage_v2c hr (hmade.representable hrep) hw, hcommunity, hmade.received]

theorem tellsV3_built {c : Crypto} (hc : c.Lawful) (hvalid : cli.Validated)
    (hv : cli.version = .v3) (h : buildV3Payload r c world cli = .ok w) :
    TellsV3 c world cli w := by
  rw [OidsRepresentable, hv] at hoids
  obtain ⟨m, hm, hw⟩ := Outcome.bind_ok_iff.mp h
  obtain ⟨p, authEidUser, level, hp, hmade, huser, hresolve, hcontext, hlevel, hsecurity⟩ :=
    assembleV3_ok hm
  obtain ⟨level', _, hlevel', _, hsecrets⟩ := hvalid.v3 hv
  rw [hlevel] at hlevel'
  cases hlevel'
  obtain ⟨name, hname, huserName, hcontextName⟩ := assembleV3_names hm
  obtain ⟨secrets, husm, hgives⟩ := (keysOf_buildV3Security hc hlevel hsecrets hsecurity).gives
  obtain ⟨uptimeArg, trapOidArg, rest, hargs, hp⟩ := v3Positionals_ok hp
  obtain ⟨huptime, htrapOid, hvarbinds, hunreserved⟩ := positionals_ok_iff.mp hp
  have hargs : V2Args world cli.trapArgs p uptimeArg trapOidArg rest :=
    ⟨hargs, huptime, htrapOid, hvarbinds, hunreserved⟩
  have hrep : p.Representable := hoids _ _ _ _ hargs
  obtain ⟨msg, hmsg, hid, _⟩ := readV3Message_built hr hw
  refine ⟨p, uptimeArg, trapOidArg, rest, ⟨asBytes name, secrets⟩, m.authoritativeEngineId,
    m.contextEngineId, msg, hargs, ?_, authoritativeEngineId_of_resolve hvalid huser hresolve,
    contextEngineIdOf_ok hcontext, hmsg, hid, ?_⟩
  · rw [Cli.usmUser, hname, husm]
    rfl
  · rw [receiveV3_built hr hw hc (hmade.representable hrep) huserName.symm hgives,
      V3TrapMessage.scoped, hcontextName, hmade.received]

theorem tells_built {c : Crypto} (hc : c.Lawful) (hvalid : cli.Validated)
    (h : buildPayload r c world cli dst = .ok w) : Tells c world cli dst w := by
  unfold buildPayload at h
  unfold Tells
  cases hv : cli.version with
  | v1 =>
    rw [hv] at h
    exact tellsV1_built hr hoids hv h
  | v2c =>
    rw [hv] at h
    exact tellsV2c_built hr hoids hv h
  | v3 =>
    rw [hv] at h
    exact tellsV3_built hr hoids hc hvalid hv h

end Payload

/-! ## What is sent -/

/-- The call sends the payload to the agent: as it is, or in a packet that its receiver takes to
come from the address and the port of the flags. -/
def Arrives (cli : Cli) (dst : SocketAddrV4) (payload : List UInt8) : SysCall → Prop
  | .udpSendTo peer data => cli.srcAddrV4 = none ∧ peer = dst ∧ data = payload
  | .rawSendTo peer packet => peer = dst ∧ ∃ src port ident, cli.srcAddrV4 = some src ∧
      (∀ p, cli.srcPort = some p → port = p) ∧
      receive packet = some ⟨src, dst.ip, port, dst.port, ident, payload⟩
  | _ => False

theorem arrives_transmit {net : Network} {cli : Cli} {dst : SocketAddrV4} {payload : List UInt8} :
    ∀ call ∈ sends (transmit net cli dst payload).calls, Arrives cli dst payload call := by
  intro call hcall
  obtain ⟨hcall, hsend⟩ := List.mem_filter.mp hcall
  unfold transmit at hcall
  split at hcall
  · rename_i src hsrc
    obtain rfl | rfl | ⟨udp, ident, packet, hsize, hudp, hpacket, rfl⟩ := sendSpoofed_calls hcall
    · cases hsend
    · cases hsend
    · refine ⟨rfl, src, _, ident, hsrc, fun p hp => ?_, (attempt_received hsize hudp hpacket).1⟩
      rw [hp, Option.getD_some]
  · rename_i hsrc
    cases hbound : net.udpBind with
    | error e =>
      rw [send, hbound] at hcall
      cases List.mem_singleton.mp hcall
      cases hsend
    | ok u =>
      obtain ⟨n, _, heq⟩ := send_bound dst cli.srcPort cli.retries payload hbound
      rw [heq] at hcall
      obtain rfl | hcall := List.mem_cons.mp hcall
      · cases hsend
      · cases List.eq_of_mem_replicate hcall
        exact ⟨hsrc, rfl, rfl⟩

theorem sysCalls_main {r : Encoder} {c : Crypto} {host : Host} {clap : Clap} {parsed : Run Args}
    (h : parseArgv clap = some parsed) :
    sysCalls (main r c host clap).events = sysCalls (runParsed r c host parsed).calls := by
  unfold main
  rw [h]
  simp only
  split
  · rfl
  · rename_i err _
    obtain ⟨part, hevents, _⟩ :=
      reportAndExit_cases host.stderr err (runParsed r c host parsed).calls
    rw [hevents, sysCalls_append, sysCalls_stderr, List.append_nil]
  · rfl

/-- **Whatever the process sends arrives and tells the trap of its arguments.** In every run, every
call that sends goes to the agent that was named, and what its receiver gets is one payload; of
that, where every OID of the arguments has a faithful encoding, a manager reads the trap that the
positionals say: under v3 one who knows the user, whose keys are localized to the engine ID on the
wire, which is the one that the flags and the host say. -/
theorem every_packet_tells_the_trap (r : Encoder) (hr : r.EmitsBer) (c : Crypto) (hc : c.Lawful)
    (host : Host) (args : Args) : ∃ dst payload,
      ∀ call ∈ sends (sysCalls (main r c host (.parsed args)).events), ∃ cli : Cli,
        args.toCli.validate = .ok cli ∧
        resolveAgentString host.lookupHost args.agent = .ok dst ∧
        Arrives cli dst payload call ∧
        (OidsRepresentable host.world cli dst → Tells c host.world cli dst payload) := by
  obtain ⟨parsed, hparsed⟩ : ∃ parsed, parseArgv (.parsed args) = some parsed := ⟨_, rfl⟩
  rw [sysCalls_main hparsed]
  obtain ⟨err, _, h⟩ | ⟨args', cli, dst, payload, hclap, rfl, hvalid, hdst, hpayload⟩ :=
    runParsed_cases hr hc host hparsed
  · rw [h]
    exact ⟨⟨⟨0, 0, 0, 0⟩, 0⟩, [], fun call hcall => by cases hcall⟩
  · cases hclap
    rw [(sysCalls_built { args with toCli := cli } rfl hdst hpayload).1]
    exact ⟨dst, payload, fun call hcall => ⟨cli, hvalid, hdst, arrives_transmit call hcall,
      fun hoids => tells_built hr hoids hc ⟨args.toCli, hvalid⟩ hpayload⟩⟩

theorem oidsRepresentable_community :
    OidsRepresentable maplesyrupWorld communityCli ⟨⟨127, 0, 0, 1⟩, 162⟩ := by
  have hpositionals : v2cPositionals maplesyrupWorld communityCli.trapArgs =
      .ok ⟨12345, [1, 3, 6, 1, 6, 3, 1, 1, 5, 1],
        [([1, 3, 6, 1, 2, 1, 1, 5, 0], .octetString [104, 111, 115, 116])]⟩ := by decide +kernel
  intro p uptimeArg trapOidArg rest h
  have hp := positionals_ok_iff.mpr ⟨h.uptime, h.trapOid, h.varbinds, h.unreserved⟩
  rw [← v2cPositionals_cons, ← h.args, hpositionals] at hp
  cases hp
  unfold Positionals.Representable
  decide

/-- The community session does send, though in vain. -/
theorem every_packet_tells_the_trap_community :
    sends (sysCalls (main x690 maplesyrupCrypto flakyHost (.parsed communityArgs)).events) ≠ [] ∧
    ∃ dst payload, ∀ call ∈ sends (sysCalls
        (main x690 maplesyrupCrypto flakyHost (.parsed communityArgs)).events),
      Arrives communityCli dst payload call ∧
        Tells maplesyrupCrypto maplesyrupWorld communityCli dst payload := by
  constructor
  · have hparsed : parseArgv (.parsed communityArgs) = some (.ok communityArgs) := rfl
    have hbound : flakyNetwork.udpBind = .ok () := rfl
    obtain ⟨n, _, hsend⟩ := send_bound ⟨⟨127, 0, 0, 1⟩, 162⟩ none 0 communityPayload hbound
    have htransmit : transmit flakyHost.net communityArgs.toCli ⟨⟨127, 0, 0, 1⟩, 162⟩
        communityPayload = send flakyNetwork ⟨⟨127, 0, 0, 1⟩, 162⟩ none 0 communityPayload := rfl
    rw [sysCalls_main hparsed,
      (sysCalls_built communityArgs rfl prepared_community.1 prepared_community.2).1, htransmit,
      hsend]
    exact List.ne_nil_of_mem (a := .udpSendTo ⟨⟨127, 0, 0, 1⟩, 162⟩ communityPayload)
      (List.mem_filter.mpr ⟨by simp, rfl⟩)
  · obtain ⟨dst, payload, htells⟩ := every_packet_tells_the_trap x690 x690_emitsBer
      maplesyrupCrypto maplesyrupCrypto_lawful flakyHost communityArgs
    refine ⟨dst, payload, fun call hcall => ?_⟩
    obtain ⟨cli, hvalid, hdst, harrives, htold⟩ := htells call hcall
    cases hvalid
    rw [prepared_community.1] at hdst
    cases hdst
    exact ⟨harrives, htold oidsRepresentable_community⟩

end SnmpTrap
