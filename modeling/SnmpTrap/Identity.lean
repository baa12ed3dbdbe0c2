import SnmpTrap.Keys
import SnmpTrap.Run
import SnmpTrap.Transport.Retries
import SnmpTrap.V1Trip

/-! One spoofed identity: the address of `--src-addr` in the IP header, under the UDP checksum, in
the v1 PDU and in the v3 engine ID. -/
namespace SnmpTrap
open Rust Ber Transport
set_option autoImplicit false
set_option maxHeartbeats 250000
set_option maxRecDepth 120000

/-! ## Transports -/

def IsRaw : SysCall → Prop
  | .rawSocket | .setHeaderIncluded | .rawSendTo _ _ => True
  | .udpBind _ | .udpSendTo _ _ => False

theorem send_not_raw (net : Network) (dst : SocketAddrV4) (srcPort : Option UInt16)
    (retries : UInt8) (payload : List UInt8) :
    ∀ call ∈ (send net dst srcPort retries payload).calls, ¬ IsRaw call := by
  cases hbound : net.udpBind with
  | error e =>
    rw [send, hbound]
    intro call hcall
    cases List.mem_singleton.mp hcall
    exact id
  | ok u =>
    obtain ⟨n, _, heq⟩ := send_bound dst srcPort retries payload hbound
    rw [heq]
    intro call hcall
    obtain rfl | hcall := List.mem_cons.mp hcall
    · exact id
    · cases List.eq_of_mem_replicate hcall
      exact id

section Spoofed
variable {net : Network} {dst : SocketAddrV4} {src : Ipv4Addr} {srcPort : Option UInt16}
  {retries : UInt8} {payload : List UInt8}

/-- The calls of a spoofed send: the two that open the socket, and then packets around one
datagram. -/
theorem sendSpoofed_calls {call : SysCall}
    (hcall : call ∈ (sendSpoofed net dst src srcPort retries payload).calls) :
    call = .rawSocket ∨ call = .setHeaderIncluded ∨
      ∃ udp ident packet, payload.length ≤ maxUdpPayload ∧
        buildUdpDatagram src dst.ip (srcPort.getD net.ephemeralPort) dst.port payload = .ok udp ∧
        attemptPacket src dst.ip udp ident = .ok packet ∧ call = .rawSendTo dst packet := by
  obtain hlarge | hsize := Nat.lt_or_ge maxUdpPayload payload.length
  · obtain ⟨e, heq⟩ := sendSpoofed_oversize net dst src srcPort retries hlarge
    rw [heq] at hcall
    cases hcall
  · cases hopen : net.rawSocket with
    | error e =>
      rw [sendSpoofed_rawSocket dst src srcPort retries hsize hopen] at hcall
      exact Or.inl (List.mem_singleton.mp hcall)
    | ok u =>
      cases hincluded : net.setHeaderIncluded with
      | error e =>
        rw [sendSpoofed_setHeaderIncluded dst src srcPort retries hsize hopen hincluded] at hcall
        obtain h | hcall := List.mem_cons.mp hcall
        · exact Or.inl h
        · exact Or.inr (Or.inl (List.mem_singleton.mp hcall))
      | ok u' =>
        obtain ⟨udp, packet, n, hudp, _, hpacket, _, heq⟩ :=
          sendSpoofed_opened dst src srcPort retries hsize hopen hincluded
        rw [heq] at hcall
        obtain h | hcall := List.mem_cons.mp hcall
        · exact Or.inl h
        · obtain h | hcall := List.mem_cons.mp hcall
          · exact Or.inr (Or.inl h)
          · obtain ⟨i, _, rfl⟩ := List.mem_map.mp hcall
            exact Or.inr (Or.inr ⟨udp, _, packet i, hsize, hudp, hpacket i, rfl⟩)

theorem sendSpoofed_raw :
    ∀ call ∈ (sendSpoofed net dst src srcPort retries payload).calls, IsRaw call := by
  intro call hcall
  rcases sendSpoofed_calls hcall with rfl | rfl | ⟨_, _, _, _, _, _, rfl⟩ <;> exact trivial

end Spoofed

/-! ## Packets -/

/-- A packet's source address, and its datagram with a checksum over that same address. -/
theorem attemptPacket_source {src dst : Ipv4Addr} {srcPort dstPort ident : UInt16}
    {payload udp packet : List UInt8} (hsize : payload.length ≤ maxUdpPayload)
    (hudp : buildUdpDatagram src dst srcPort dstPort payload = .ok udp)
    (hpacket : attemptPacket src dst udp ident = .ok packet) :
    (packet.drop 12).take 4 = src.octets ∧ packet.drop 20 = udp ∧
      Net.Verifies (src.octets ++ dst.octets ++ [0, 17] ++ (packet.drop 24).take 2 ++
        packet.drop 20) := by
  obtain ⟨udpLen, csum, _, _, hudp', hverifies⟩ :=
    buildUdpDatagram_eq src dst srcPort dstPort payload hsize
  obtain ⟨_, hudp'', hfits⟩ := buildUdpDatagram_fits src dst srcPort dstPort hsize
  rw [hudp] at hudp' hudp''
  cases hudp'
  cases hudp''
  obtain ⟨headerSum, heq⟩ := attemptPacket_eq src dst hfits ident
  rw [hpacket] at heq
  cases heq
  exact ⟨rfl, rfl, hverifies⟩

/-! ## The agent address of v1 -/

theorem assembleV1_ok {world : World} {cli : Cli} {dst : SocketAddrV4} {t : V1Trap}
    (h : assembleV1 world cli dst = .ok t) : ∃ arg, cli.trapArgs[1]? = some arg ∧
      resolveV1AgentAddr world arg cli.srcAddrV4 dst = .ok t.agentAddr := by
  unfold assembleV1 at h
  simp only at h
  split at h
  · exact absurd h (Outcome.fail_ne_ok _ _)
  · obtain ⟨_, _, h⟩ := Outcome.bind_ok_iff.mp h
    obtain ⟨_, _, h⟩ := Outcome.bind_ok_iff.mp h
    obtain ⟨arg, harg, h⟩ := Outcome.bind_ok_iff.mp h
    obtain ⟨agentAddr, hagent, h⟩ := Outcome.bind_ok_iff.mp h
    obtain ⟨_, _, h⟩ := Outcome.bind_ok_iff.mp h
    obtain ⟨_, _, h⟩ := Outcome.bind_ok_iff.mp h
    split at h
    · exact absurd h (Outcome.fail_ne_ok _ _)
    · obtain ⟨_, _, h⟩ := Outcome.bind_ok_iff.mp h
      obtain ⟨_, _, h⟩ := Outcome.bind_ok_iff.mp h
      split at h
      · exact absurd h (Outcome.fail_ne_ok _ _)
      · obtain ⟨_, _, h⟩ := Outcome.bind_ok_iff.mp h
        obtain ⟨_, _, h⟩ := Outcome.bind_ok_iff.mp h
        obtain ⟨_, _, h⟩ := Outcome.bind_ok_iff.mp h
        obtain ⟨_, _, h⟩ := Outcome.bind_ok_iff.mp h
        unfold V1Trap.new at h
        split at h
        · cases h
          exact ⟨arg, Outcome.index_ok_iff.mp harg, hagent⟩
        · cases h

theorem resolveV1AgentAddr_spoofed {world : World} {arg : String} {src agent : Ipv4Addr}
    {dst : SocketAddrV4} (h : resolveV1AgentAddr world arg (some src) dst = .ok agent) :
    if arg = "" then agent = src else parseIpv4Addr arg = some agent := by
  unfold resolveV1AgentAddr at h
  by_cases harg : arg = ""
  · rw [if_neg (not_not.mpr harg)] at h
    rw [if_pos harg]
    exact (Except.ok.inj h).symm
  · rw [if_pos harg] at h
    rw [if_neg harg]
    split at h
    · rename_i ip hip
      cases h
      exact hip
    · exact absurd h (Outcome.fail_ne_ok _ _)

/-- The agent address stands in the PDU that stands in the message. -/
theorem subelement_agentAddr {r : Encoder} (hr : r.EmitsBer) {t : V1Trap} {w : List UInt8}
    (h : buildV1Trap r t = .ok w) : ∃ pdu, subelement [2] w = some pdu ∧
      subelement [1] pdu = some (element SmiV1.ipAddressTag false t.agentAddr.octets) := by
  rw [buildV1Trap_eq] at h
  obtain ⟨bindings, _, h⟩ := Outcome.bind_ok_iff.mp h
  obtain ⟨hw, hlt⟩ := hr.ber _ _ (encode_ok_iff.mp h)
  rw [hw] at hlt ⊢
  have hpdu : ((t.pdu bindings).toValue.tlv r.oid).encode.length < lengthBound :=
    (item_length_lt .sequence [.primitive .integer (integerOctets 0),
      .primitive .octetString t.community] _ []).trans hlt
  refine ⟨_, subelement_item .sequence [.primitive .integer (integerOctets 0),
    .primitive .octetString t.community] ((t.pdu bindings).toValue.tlv r.oid) [] hlt, ?_⟩
  exact subelement_item SnmpV1.trapTag [.primitive .objectIdentifier (r.oid t.enterprise)]
    (.primitive SmiV1.ipAddressTag t.agentAddr.octets) _ hpdu

/-! ## The engine ID of v3 -/

theorem engineId_spoofed {r : Encoder} (hr : r.EmitsBer) {c : Crypto} {world : World} {cli : Cli}
    {src : Ipv4Addr} {w : List UInt8} (hsrc : cli.srcAddrV4 = some src)
    (hengine : cli.authoritativeEngineId = none) (h : buildV3Payload r c world cli = .ok w) :
    ∃ msg, Grammar.readV3Message w = some msg ∧
      msg.usm.engineId = [0x80, 0x00, 0xF0, 0x45, 0x01] ++ src.octets := by
  obtain ⟨m, hm, hw⟩ := Outcome.bind_ok_iff.mp h
  obtain ⟨_, user, _, _, _, huser, hresolve, _⟩ := assembleV3_ok hm
  obtain ⟨msg, hmsg, hid, _⟩ := readV3Message_built hr hw
  refine ⟨msg, hmsg, ?_⟩
  cases userAuthoritative_none hengine huser
  rw [hsrc] at hresolve
  rw [hid, ← Except.ok.inj hresolve]
  rfl

/-! ## One identity -/

/-- **One spoofed identity everywhere.** With `--src-addr X` only the raw transport is used, every
packet has X for its source and its UDP checksum over X, the v1 agent address is X unless given,
and so is the v3 engine ID; without the flag no raw socket is asked for. -/
theorem one_spoofed_identity (r : Encoder) (hr : r.EmitsBer) (c : Crypto) (world : World)
    (net : Network) (parsed cli : Cli) (agent : Run SocketAddrV4)
    (hvalid : parsed.validate = .ok cli) :
    (∀ s, cli.srcAddr = some s → ∃ x, parseIpAddr s = some (.v4 x) ∧
      ∀ dst payload, agent = .ok dst → buildPayload r c world cli dst = .ok payload →
        run r c world net parsed agent =
          sendSpoofed net dst x cli.srcPort cli.retries payload ∧
        (∀ call ∈ (run r c world net parsed agent).calls, IsRaw call) ∧
        (∀ peer packet, .rawSendTo peer packet ∈ (run r c world net parsed agent).calls →
          peer = dst ∧ (packet.drop 12).take 4 = x.octets ∧
          buildUdpDatagram x dst.ip (cli.srcPort.getD net.ephemeralPort) dst.port payload =
            .ok (packet.drop 20) ∧
          Net.Verifies (x.octets ++ dst.ip.octets ++ [0, 17] ++ (packet.drop 24).take 2 ++
            packet.drop 20)) ∧
        (cli.version = .v1 → ∃ arg addr pdu, cli.trapArgs[1]? = some arg ∧
          (if arg = "" then addr = x else parseIpv4Addr arg = some addr) ∧
          subelement [2] payload = some pdu ∧
          subelement [1] pdu = some (element SmiV1.ipAddressTag false addr.octets)) ∧
        (cli.version = .v3 → cli.authoritativeEngineId = none →
          ∃ msg, Grammar.readV3Message payload = some msg ∧
            msg.usm.engineId = [0x80, 0x00, 0xF0, 0x45, 0x01] ++ x.octets)) ∧
    (cli.srcAddr = none →
      ∀ call ∈ (run r c world net parsed agent).calls, ¬ IsRaw call) := by
  constructor
  · intro s hs
    obtain ⟨x, hparse, hx⟩ := Cli.Validated.srcAddrV4 ⟨parsed, hvalid⟩ hs
    refine ⟨x, (parseIpAddr_v4_iff s x).mpr hparse, ?_⟩
    rintro dst payload rfl hpayload
    have hrun := run_spoofed net hvalid hpayload hx
    rw [hrun]
    refine ⟨rfl, sendSpoofed_raw, ?_, ?_, ?_⟩
    · intro peer packet hcall
      obtain h | h | ⟨udp, ident, packet', hsize, hudp, hpacket, h⟩ := sendSpoofed_calls hcall
      · cases h
      · cases h
      · cases h
        obtain ⟨hsource, hdatagram, hverifies⟩ := attemptPacket_source hsize hudp hpacket
        exact ⟨rfl, hsource, by rw [hdatagram, hudp], hverifies⟩
    · intro hv
      rw [buildPayload, hv] at hpayload
      obtain ⟨t, ht, hw⟩ := Outcome.bind_ok_iff.mp hpayload
      obtain ⟨arg, harg, hagent⟩ := assembleV1_ok ht
      rw [hx] at hagent
      obtain ⟨pdu, hpdu, haddr⟩ := subelement_agentAddr hr hw
      exact ⟨arg, t.agentAddr, pdu, harg, resolveV1AgentAddr_spoofed hagent, hpdu, haddr⟩
    · intro hv hengine
      rw [buildPayload, hv] at hpayload
      exact engineId_spoofed hr hx hengine hpayload
  · intro hs call hcall
    have hx : cli.srcAddrV4 = none := by rw [Cli.srcAddrV4, hs, Option.bind_none]
    obtain stop | dst := agent
    · simp [run, hvalid] at hcall
    · cases hpayload : buildPayload r c world cli dst with
      | error stop => simp [run, hvalid, hpayload] at hcall
      | ok payload =>
        rw [run_unprivileged net hvalid hpayload hx] at hcall
        exact send_not_raw net dst cli.srcPort cli.retries payload call hcall

/-- The community session with `--src-addr 198.51.100.42`. -/
def spoofingCli : Cli := { communityCli with srcAddr := some "198.51.100.42" }

theorem one_spoofed_identity_community :
    spoofingCli.validate = .ok spoofingCli ∧
      ∃ payload, buildPayload x690 maplesyrupCrypto maplesyrupWorld spoofingCli
          ⟨⟨127, 0, 0, 1⟩, 162⟩ = .ok payload ∧
        run x690 maplesyrupCrypto maplesyrupWorld flakyNetwork spoofingCli
            (.ok ⟨⟨127, 0, 0, 1⟩, 162⟩) =
          sendSpoofed flakyNetwork ⟨⟨127, 0, 0, 1⟩, 162⟩ ⟨198, 51, 100, 42⟩ none 0 payload := by
  have hvalid : spoofingCli.validate = .ok spoofingCli := rfl
  obtain ⟨t, ht, hrep⟩ := assembleV2c_maplesyrup
  obtain ⟨payload, hw⟩ := encode_total x690_emitsBer (messageValue_oids t hrep)
    (messageValue_within t hrep) (by unfold lengthBound; norm_num)
  rw [← buildV2cTrap_eq] at hw
  have hpayload : buildPayload x690 maplesyrupCrypto maplesyrupWorld spoofingCli
      ⟨⟨127, 0, 0, 1⟩, 162⟩ = .ok payload := Outcome.bind_ok_iff.mpr ⟨t, ht, hw⟩
  obtain ⟨x, hx, hidentity⟩ := (one_spoofed_identity x690 x690_emitsBer maplesyrupCrypto
    maplesyrupWorld flakyNetwork spoofingCli spoofingCli (.ok ⟨⟨127, 0, 0, 1⟩, 162⟩) hvalid).1
    "198.51.100.42" rfl
  have hx' : parseIpAddr "198.51.100.42" = some (.v4 ⟨198, 51, 100, 42⟩) := by decide
  rw [hx'] at hx
  cases hx
  exact ⟨hvalid, payload, hpayload, (hidentity _ payload rfl hpayload).1⟩

end SnmpTrap
