import SnmpTrap.Report
import SnmpTrap.Transport.Retries

/-! What either transport does in one run, in the same terms: what its calls send, at which of them
it ends, and what its error has to do with the answers of the operating system. -/
namespace SnmpTrap.Transport
open Rust
set_option autoImplicit false
set_option maxHeartbeats 250000
set_option maxRecDepth 120000

/-! ## Calls that send -/

def SysCall.isSend : SysCall → Bool
  | .rawSendTo _ _ | .udpSendTo _ _ => true
  | _ => false

def sends (calls : List SysCall) : List SysCall := calls.filter SysCall.isSend

/-- The payload that reaches the receiver of what is sent. -/
def SysCall.delivers : SysCall → Option (List UInt8)
  | .rawSendTo _ packet => (receive packet).map Datagram.payload
  | .udpSendTo _ payload => some payload
  | _ => none

/-- Octets on the wire, with the headers of a raw packet. -/
def SysCall.packetLength : SysCall → Option ℕ
  | .rawSendTo _ packet => some packet.length
  | _ => none

/-- The packet of an attempt is what the receiver makes of it. -/
theorem attempt_received {src dst : Ipv4Addr} {srcPort dstPort ident : UInt16}
    {payload udp packet : List UInt8} (hsize : payload.length ≤ maxUdpPayload)
    (hudp : buildUdpDatagram src dst srcPort dstPort payload = .ok udp)
    (hpacket : attemptPacket src dst udp ident = .ok packet) :
    receive packet = some ⟨src, dst, srcPort, dstPort, ident, payload⟩ ∧
      packet.length = payload.length + 20 + 8 := by
  obtain ⟨udpLen, udpSum, hudpLen, hudpSum, hbuilt, hudpVerifies⟩ :=
    buildUdpDatagram_eq src dst srcPort dstPort payload hsize
  rw [hudp] at hbuilt
  cases hbuilt
  have hlen := udpWith_length srcPort dstPort udpLen udpSum payload
  unfold maxUdpPayload at hsize
  have hcast : (UInt16.ofNat (8 + payload.length)).toNat = 8 + payload.length :=
    length_cast (by omega)
  obtain ⟨totalLength, headerSum, htotal, hheader, hheaderVerifies⟩ :=
    buildIpv4Header_eq src dst (UInt16.ofNat (8 + payload.length)) ident (by omega)
  rw [hcast] at htotal
  rw [attemptPacket, hlen, hheader, Outcome.ok_bind] at hpacket
  cases hpacket
  refine ⟨receive_packetWith src dst srcPort dstPort ident totalLength udpLen headerSum udpSum
    payload (by omega) hudpLen hudpSum hheaderVerifies hudpVerifies, ?_⟩
  have hpacketLen := packetWith_length src dst srcPort dstPort ident totalLength udpLen headerSum
    udpSum payload
  rw [packetWith] at hpacketLen
  omega

/-! ## What an error says -/

/-- The last call that sends was refused with `e`. -/
def LastRefused (net : Network) (calls : List SysCall) (e : IoError) : Prop :=
  ∃ n, (sends calls).length = n + 1 ∧ net.sendTo.reply n = .error e

/-- The raw socket was refused with `e`, or the option on it. -/
def OpeningRefused (net : Network) (calls : List SysCall) (e : IoError) : Prop :=
  net.rawSocket = .error e ∧ calls = [.rawSocket] ∨
    net.rawSocket = .ok () ∧ net.setHeaderIncluded = .error e ∧
      calls = [.rawSocket, .setHeaderIncluded]

/-- Binding the UDP socket was refused with `e`. -/
def BindRefused (net : Network) (srcPort : Option UInt16) (calls : List SysCall) (e : IoError) :
    Prop := net.udpBind = .error e ∧ calls = [.udpBind (srcPort.getD 0)]

/-- What must have happened for the error of a transport to be right. -/
def Blames (net : Network) (srcPort : Option UInt16) (payload : List UInt8)
    (calls : List SysCall) : Error → Prop
  | .usage message => ∃ e, BindRefused net srcPort calls e ∧ e.message.toList <:+ message.toList ∧
      (e.rawOsError = some eAddrInUse ∨
        e.rawOsError = some eAcces ∧ ∃ p, srcPort = some p ∧ p < 1024)
  | .encode _ | .unsupported _ => False
  | .rawSocketDenied platform e => platform = Platform.current ∧
      (e.rawOsError = some ePerm ∨ e.rawOsError = some eAcces) ∧ OpeningRefused net calls e
  | .payloadExceedsMtu payloadLen e => payloadLen = payload.length ∧
      e.rawOsError = some eMsgSize ∧ LastRefused net calls e ∧
      ∀ call ∈ sends calls, call.packetLength = some (payloadLen + 20 + 8)
  | .routing e => LastRefused net calls e
  | .other e => guardSize payload = Outcome.fail (.other e) ∧ calls = [] ∨
      OpeningRefused net calls e ∨ BindRefused net srcPort calls e ∨ LastRefused net calls e

/-- How a run of a transport ends. -/
inductive Transmission (net : Network) (srcPort : Option UInt16) (retries : UInt8)
    (payload : List UInt8) : Sending Unit → Prop
  | stopped {calls : List SysCall} {err : Error} (hsends : sends calls = [])
      (hblames : Blames net srcPort payload calls err) :
      Transmission net srcPort retries payload ⟨calls, Outcome.fail err⟩
  | ended {calls : List SysCall} {outcome : Run Unit} {n : ℕ}
      (hlength : (sends calls).length = n + 1)
      (hdelivers : ∀ call ∈ sends calls, call.delivers = some payload)
      (hlast : net.sendTo.LastCall (retries.toNat + 1) n)
      (houtcome : net.sendTo.Sent n ∧ outcome = .ok () ∨
        ∃ err, ¬ net.sendTo.Sent n ∧ outcome = Outcome.fail err ∧ err.exitCode = 1 ∧
          Blames net srcPort payload calls err) :
      Transmission net srcPort retries payload ⟨calls, outcome⟩

theorem Transmission.delivers {net : Network} {srcPort : Option UInt16} {retries : UInt8}
    {payload : List UInt8} {run : Sending Unit}
    (h : Transmission net srcPort retries payload run) :
    ∀ call ∈ sends run.calls, call.delivers = some payload := by
  cases h with
  | stopped hsends _ =>
    rw [hsends]
    intro call hcall
    cases hcall
  | ended _ hdelivers _ _ => exact hdelivers

theorem not_sent_of_error {net : Network} {n : ℕ} {e : IoError}
    (h : net.sendTo.reply n = .error e) : ¬ net.sendTo.Sent n := by
  intro hsent
  rw [Net.Replies.Sent, h] at hsent
  cases hsent

/-! ## The raw transport -/

section Raw
variable {net : Network} (srcPort : Option UInt16) {payload : List UInt8} {calls : List SysCall}
  {e : IoError}

theorem blames_classifyRawOpen (h : OpeningRefused net calls e) :
    Blames net srcPort payload calls (classifyRawOpen e) := by
  unfold classifyRawOpen
  split
  · rename_i herrno
    exact ⟨rfl, herrno, h⟩
  · exact Or.inr (Or.inl h)

theorem blames_classifyRawSend (hlast : LastRefused net calls e)
    (hlength : ∀ call ∈ sends calls, call.packetLength = some (payload.length + 20 + 8)) :
    Blames net srcPort payload calls (classifyRawSend e payload.length) := by
  obtain ⟨herrno, h⟩ | ⟨_, h | h⟩ := classifyRawSend_cases e payload.length
  · rw [h]
    exact ⟨rfl, herrno, hlast, hlength⟩
  · rw [h]
    exact hlast
  · rw [h]
    exact Or.inr (Or.inr (Or.inr hlast))

end Raw

theorem sends_rawSendTo (dst : SocketAddrV4) (packet : ℕ → List UInt8) (n : ℕ) :
    sends (.rawSocket :: .setHeaderIncluded ::
        (List.range (n + 1)).map fun i => SysCall.rawSendTo dst (packet i)) =
      (List.range (n + 1)).map fun i => .rawSendTo dst (packet i) := by
  rw [sends, List.filter_cons_of_neg (by decide), List.filter_cons_of_neg (by decide),
    List.filter_eq_self, List.forall_mem_map]
  exact fun i _ => rfl

theorem sendSpoofed_transmission (net : Network) (dst : SocketAddrV4) (src : Ipv4Addr)
    (srcPort : Option UInt16) (retries : UInt8) (payload : List UInt8) :
    Transmission net srcPort retries payload
      (sendSpoofed net dst src srcPort retries payload) := by
  obtain hlarge | hsize := Nat.lt_or_ge maxUdpPayload payload.length
  · have hguard : guardSize payload = Outcome.fail (.other _) := if_pos hlarge
    rw [sendSpoofed, hguard]
    exact .stopped rfl (Or.inl ⟨hguard, rfl⟩)
  · cases hopen : net.rawSocket with
    | error e =>
      rw [sendSpoofed_rawSocket dst src srcPort retries hsize hopen]
      exact .stopped rfl (blames_classifyRawOpen srcPort (Or.inl ⟨hopen, rfl⟩))
    | ok u =>
      cases hincluded : net.setHeaderIncluded with
      | error e =>
        rw [sendSpoofed_setHeaderIncluded dst src srcPort retries hsize hopen hincluded]
        exact .stopped rfl (blames_classifyRawOpen srcPort (Or.inr ⟨hopen, hincluded, rfl⟩))
      | ok u' =>
        obtain ⟨udp, packet, n, hudp, _, hpacket, hlast, heq⟩ :=
          sendSpoofed_opened dst src srcPort retries hsize hopen hincluded
        rw [heq]
        have hreceived := fun i => attempt_received hsize hudp (hpacket i)
        have hlength : (sends (.rawSocket :: .setHeaderIncluded ::
            (List.range (n + 1)).map fun i => SysCall.rawSendTo dst (packet i))).length =
              n + 1 := by
          rw [sends_rawSendTo, List.length_map, List.length_range]
        refine .ended hlength ?_ hlast ?_
        · rw [sends_rawSendTo, List.forall_mem_map]
          intro i _
          rw [SysCall.delivers, (hreceived i).1]
          rfl
        · obtain ⟨hsent, hstop⟩ | ⟨e, he, _, _, hstop⟩ := rawStop_cases hlast payload.length
          · exact Or.inl ⟨hsent, hstop⟩
          · refine Or.inr ⟨_, not_sent_of_error he, hstop, ?_, ?_⟩
            · obtain ⟨_, h⟩ | ⟨_, h | h⟩ := classifyRawSend_cases e payload.length <;>
                rw [h] <;> rfl
            · refine blames_classifyRawSend srcPort ⟨n, hlength, he⟩ ?_
              rw [sends_rawSendTo, List.forall_mem_map]
              intro i _
              rw [SysCall.packetLength, (hreceived i).2]

/-! ## The unprivileged transport -/

theorem suffix_message (front message : String) :
    message.toList <:+ (front ++ message).toList := by
  rw [String.toList_append]
  exact List.suffix_append _ _

theorem blames_classifyBindIo {net : Network} {srcPort : Option UInt16} {calls : List SysCall}
    {e : IoError} (payload : List UInt8) (h : BindRefused net srcPort calls e) :
    Blames net srcPort payload calls (classifyBindIo srcPort e) := by
  unfold classifyBindIo
  simp only
  split
  · rename_i hdenied
    obtain ⟨herrno, hport⟩ := hdenied
    rw [Option.any_eq_true] at hport
    obtain ⟨p, hp, hlt⟩ := hport
    exact ⟨e, h, (suffix_message _ _).trans (suffix_message _ _),
      Or.inr ⟨herrno, p, hp, of_decide_eq_true hlt⟩⟩
  · split
    · rename_i herrno
      exact ⟨e, h, suffix_message _ _, Or.inl herrno⟩
    · exact Or.inr (Or.inr (Or.inl h))

theorem mapSendIo_cases (e : IoError) : mapSendIo e = .routing e ∨ mapSendIo e = .other e := by
  unfold mapSendIo
  cases e.kind <;> simp

theorem send_transmission (net : Network) (dst : SocketAddrV4) (srcPort : Option UInt16)
    (retries : UInt8) (payload : List UInt8) :
    Transmission net srcPort retries payload (send net dst srcPort retries payload) := by
  cases hbound : net.udpBind with
  | error e =>
    have heq : send net dst srcPort retries payload =
        ⟨[.udpBind (srcPort.getD 0)], Outcome.fail (classifyBindIo srcPort e)⟩ := by
      rw [send, hbound]
      rfl
    rw [heq]
    exact .stopped rfl (blames_classifyBindIo payload ⟨hbound, rfl⟩)
  | ok u =>
    obtain ⟨n, hlast, heq⟩ := send_bound dst srcPort retries payload hbound
    rw [heq]
    have hsends : sends (.udpBind (srcPort.getD 0) ::
        List.replicate (n + 1) (.udpSendTo dst payload)) =
          List.replicate (n + 1) (.udpSendTo dst payload) := by
      rw [sends, List.filter_cons_of_neg (by simp [SysCall.isSend]), List.filter_eq_self]
      intro call hcall
      cases List.eq_of_mem_replicate hcall
      rfl
    have hlength : (sends (.udpBind (srcPort.getD 0) ::
        List.replicate (n + 1) (.udpSendTo dst payload))).length = n + 1 := by
      rw [hsends, List.length_replicate]
    refine .ended hlength ?_ hlast ?_
    · rw [hsends]
      intro call hcall
      cases List.eq_of_mem_replicate hcall
      rfl
    · by_cases hsent : net.sendTo.Sent n
      · refine Or.inl ⟨hsent, ?_⟩
        rw [show net.sendTo.reply n = .ok () from hsent]
        rfl
      · obtain ⟨e, he, _, _⟩ := hlast.failed_of_not_sent hsent
        refine Or.inr ⟨mapSendIo e, hsent, by rw [he]; rfl, ?_, ?_⟩
        · obtain h | h := mapSendIo_cases e <;> rw [h] <;> rfl
        · have hrefused : LastRefused net (.udpBind (srcPort.getD 0) ::
              List.replicate (n + 1) (.udpSendTo dst payload)) e := ⟨n, hlength, he⟩
          obtain h | h := mapSendIo_cases e
          · rw [h]
            exact hrefused
          · rw [h]
            exact Or.inr (Or.inr (Or.inr hrefused))

end SnmpTrap.Transport
