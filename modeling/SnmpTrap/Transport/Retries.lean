import SnmpTrap.Transport.Receiver
import SnmpTrap.Transport.Unprivileged

/-! Whole runs of the two transports: both loops follow one retry policy, whatever the operating
system answers. -/
namespace SnmpTrap.Transport
open Rust
set_option autoImplicit false
set_option maxHeartbeats 250000
set_option maxRecDepth 120000

/-! ## The packet of an attempt -/

/-- The header around a datagram that fits: only the identification and the checksum depend on
the attempt. -/
theorem attemptPacket_eq (src dst : Ipv4Addr) {udp : List UInt8} (h : udp.length ≤ 65515)
    (ident : UInt16) : ∃ csum : UInt16, attemptPacket src dst udp ident =
      .ok (ipv4HeaderWith src dst (20 + UInt16.ofNat udp.length) ident (toBeBytes csum) ++ udp) := by
  have hcast : (UInt16.ofNat udp.length).toNat = udp.length := length_cast (by omega)
  have hfit : (20 : UInt16).toNat + (UInt16.ofNat udp.length).toNat < 2 ^ 16 := by
    rw [hcast]
    have h20 : (20 : UInt16).toNat = 20 := rfl
    omega
  exact ⟨_, by rw [attemptPacket, buildIpv4Header, addU16_eq _ _ hfit]; rfl⟩

theorem buildUdpDatagram_fits (src dst : Ipv4Addr) (srcPort dstPort : UInt16)
    {payload : List UInt8} (h : payload.length ≤ maxUdpPayload) :
    ∃ udp, buildUdpDatagram src dst srcPort dstPort payload = .ok udp ∧ udp.length ≤ 65515 := by
  obtain ⟨udpLen, csum, _, _, hudp, _⟩ := buildUdpDatagram_eq src dst srcPort dstPort payload h
  refine ⟨_, hudp, ?_⟩
  rw [udpWith_length]
  unfold maxUdpPayload at h
  omega

/-! ## Both loops follow the policy -/

/-- How the raw loop ends. -/
def rawStop (payloadLen : ℕ) : Except (Option IoError) Unit → Run Unit
  | .ok _ => .ok ()
  | .error last => Outcome.fail
      (classifyRawSend (last.getD (ioOther "raw send_to failed without an OS error")) payloadLen)

def udpStop : Except (Option IoError) Unit → Run Unit
  | .ok _ => .ok ()
  | .error last => Outcome.fail
      (mapSendIo (last.getD (ioOther "send_to failed without an OS error")))

/-- One pass over the body of either loop: one call, and on after an error. -/
def pass (call again : Sending Unit) (failed : IoError → Sending Unit) :
    Except IoError Unit → Sending Unit
  | .ok _ => call
  | .error e =>
    if isInterrupted e = true then call >>= fun _ => again else call >>= fun _ => failed e

/-- A loop of such passes follows the policy. -/
theorem follows_of_pass {net : Network} {loop : ℕ → ℕ → Option IoError → Sending Unit}
    {call : ℕ → SysCall} {stop : Except (Option IoError) Unit → Run Unit}
    (hzero : ∀ i last, loop i 0 last = Traced.ofOutcome (stop (.error last)))
    (hsucc : ∀ i left last, loop i (left + 1) last =
      pass (Traced.call (call i) ()) (loop (i + 1) (left + 1) last)
        (fun e => loop (i + 1) left (some e)) (net.sendTo.reply i))
    (hok : stop (.ok ()) = .ok ()) :
    net.sendTo.Follows
      (fun i budget last => ((loop i budget last).calls, (loop i budget last).outcome))
      call stop where
  exhausted i last := by
    rw [hzero]
    rfl
  sent i left last h := by
    rw [hsucc, h, hok]
    rfl
  again i left last e h he := by
    rw [hsucc, h, pass, if_pos he]
    rfl
  failed i left last e h he := by
    rw [hsucc, h, pass, if_neg (by simp [he])]
    rfl

theorem spoofedLoop_succ (net : Network) (dst : SocketAddrV4) (src : Ipv4Addr)
    (udp : List UInt8) (payloadLen i left : ℕ) (last : Option IoError) {packet : List UInt8}
    (hpacket : attemptPacket src dst.ip udp (net.identification i) = .ok packet) :
    spoofedLoop net dst src udp payloadLen i (left + 1) last =
      pass (Traced.call (.rawSendTo dst packet) ())
        (spoofedLoop net dst src udp payloadLen (i + 1) (left + 1) last)
        (fun e => spoofedLoop net dst src udp payloadLen (i + 1) left (some e))
        (net.sendTo.reply i) := by
  rw [spoofedLoop, hpacket, Traced.ofOutcome_ok_bind]
  split
  · rename_i h
    rw [h]
    rfl
  · rename_i h
    rw [h]
    exact dite_eq_ite

theorem spoofedLoop_follows (net : Network) (dst : SocketAddrV4) (src : Ipv4Addr)
    (udp : List UInt8) (payloadLen : ℕ) (packet : ℕ → List UInt8)
    (hpacket : ∀ i, attemptPacket src dst.ip udp (net.identification i) = .ok (packet i)) :
    net.sendTo.Follows
      (fun i budget last =>
        ((spoofedLoop net dst src udp payloadLen i budget last).calls,
          (spoofedLoop net dst src udp payloadLen i budget last).outcome))
      (fun i => .rawSendTo dst (packet i)) (rawStop payloadLen) := by
  apply follows_of_pass
  · intro i last
    rw [spoofedLoop]
    rfl
  · intro i left last
    exact spoofedLoop_succ net dst src udp payloadLen i left last (hpacket i)
  · rfl

theorem sendLoop_succ (net : Network) (dst : SocketAddrV4) (payload : List UInt8) (i left : ℕ)
    (last : Option IoError) : sendLoop net dst payload i (left + 1) last =
      pass (Traced.call (.udpSendTo dst payload) ())
        (sendLoop net dst payload (i + 1) (left + 1) last)
        (fun e => sendLoop net dst payload (i + 1) left (some e)) (net.sendTo.reply i) := by
  rw [sendLoop]
  split
  · rename_i h
    rw [h]
    rfl
  · rename_i h
    rw [h]
    exact dite_eq_ite

theorem sendLoop_follows (net : Network) (dst : SocketAddrV4) (payload : List UInt8) :
    net.sendTo.Follows
      (fun i budget last =>
        ((sendLoop net dst payload i budget last).calls,
          (sendLoop net dst payload i budget last).outcome))
      (fun _ => .udpSendTo dst payload) udpStop := by
  apply follows_of_pass
  · intro i last
    rw [sendLoop]
    rfl
  · intro i left last
    exact sendLoop_succ net dst payload i left last
  · rfl

/-! ## Errors -/

/-- The operating system's error that an error carries. -/
def underlying : Error → Option IoError
  | .rawSocketDenied _ e => some e
  | .payloadExceedsMtu _ e => some e
  | .routing e => some e
  | .other e => some e
  | .usage _ | .unsupported _ | .encode _ => none

theorem classifyRawOpen_denied {e e' : IoError} {platform : Platform}
    (h : classifyRawOpen e = .rawSocketDenied platform e') :
    e = e' ∧ (e'.rawOsError = some ePerm ∨ e'.rawOsError = some eAcces) := by
  unfold classifyRawOpen at h
  split at h
  · rename_i herrno
    cases h
    exact ⟨rfl, herrno⟩
  · cases h

theorem classifyRawSend_cases (e : IoError) (payloadLen : ℕ) :
    (e.rawOsError = some eMsgSize ∧
      classifyRawSend e payloadLen = .payloadExceedsMtu payloadLen e) ∨
    (e.rawOsError ≠ some eMsgSize ∧
      (classifyRawSend e payloadLen = .routing e ∨ classifyRawSend e payloadLen = .other e)) := by
  unfold classifyRawSend
  by_cases hsize : e.rawOsError = some eMsgSize
  · exact Or.inl ⟨hsize, if_pos hsize⟩
  · refine Or.inr ⟨hsize, ?_⟩
    rw [if_neg hsize]
    split
    · exact Or.inl rfl
    · cases e.kind <;> simp

theorem underlying_classifyRawSend (e : IoError) (payloadLen : ℕ) :
    underlying (classifyRawSend e payloadLen) = some e := by
  rcases classifyRawSend_cases e payloadLen with ⟨_, h⟩ | ⟨_, h | h⟩ <;> rw [h] <;> rfl

theorem underlying_mapSendIo (e : IoError) : underlying (mapSendIo e) = some e := by
  unfold mapSendIo
  cases e.kind <;> rfl

/-! ## Runs of the raw transport -/

section Spoofed
variable (net : Network) (dst : SocketAddrV4) (src : Ipv4Addr) (srcPort : Option UInt16)
  (retries : UInt8) {payload : List UInt8}

theorem sendSpoofed_oversize (h : maxUdpPayload < payload.length) :
    ∃ e, sendSpoofed net dst src srcPort retries payload =
      Traced.ofOutcome (Outcome.fail (.other e)) := by
  rw [sendSpoofed, guardSize, if_pos h]
  exact ⟨_, rfl⟩

variable {net} (hsize : payload.length ≤ maxUdpPayload)
include hsize

theorem sendSpoofed_rawSocket {e : IoError} (h : net.rawSocket = .error e) :
    sendSpoofed net dst src srcPort retries payload =
      ⟨[.rawSocket], Outcome.fail (classifyRawOpen e)⟩ := by
  rw [sendSpoofed, (guardSize_ok_iff payload).mpr hsize, h]
  rfl

theorem sendSpoofed_setHeaderIncluded {e : IoError} (hopen : net.rawSocket = .ok ())
    (h : net.setHeaderIncluded = .error e) :
    sendSpoofed net dst src srcPort retries payload =
      ⟨[.rawSocket, .setHeaderIncluded], Outcome.fail (classifyRawOpen e)⟩ := by
  rw [sendSpoofed, (guardSize_ok_iff payload).mpr hsize, hopen, h]
  rfl

/-- Past the two calls that open the socket the datagram is built once, and every attempt puts a
header of its own around it. -/
theorem sendSpoofed_opened (hopen : net.rawSocket = .ok ())
    (hincluded : net.setHeaderIncluded = .ok ()) :
    ∃ (udp : List UInt8) (packet : ℕ → List UInt8) (n : ℕ),
      buildUdpDatagram src dst.ip (srcPort.getD net.ephemeralPort) dst.port payload = .ok udp ∧
      udp.length ≤ 65515 ∧
      (∀ i, attemptPacket src dst.ip udp (net.identification i) = .ok (packet i)) ∧
      net.sendTo.LastCall (retries.toNat + 1) n ∧
      sendSpoofed net dst src srcPort retries payload =
        ⟨.rawSocket :: .setHeaderIncluded ::
            (List.range (n + 1)).map fun i => .rawSendTo dst (packet i),
          rawStop payload.length ((net.sendTo.reply n).mapError some)⟩ := by
  obtain ⟨udp, hudp, hfits⟩ :=
    buildUdpDatagram_fits src dst.ip (srcPort.getD net.ephemeralPort) dst.port hsize
  have hattempt : ∀ i, ∃ packet,
      attemptPacket src dst.ip udp (net.identification i) = .ok packet := fun i => by
    obtain ⟨csum, hpacket⟩ := attemptPacket_eq src dst.ip hfits (net.identification i)
    exact ⟨_, hpacket⟩
  choose packet hpacket using hattempt
  obtain ⟨n, hlast, hloop⟩ := (spoofedLoop_follows net dst src udp payload.length packet
    hpacket).start (Nat.succ_pos retries.toNat)
  obtain ⟨hcalls, houtcome⟩ := Prod.mk.inj hloop
  refine ⟨udp, packet, n, hudp, hfits, hpacket, hlast, ?_⟩
  rw [sendSpoofed, (guardSize_ok_iff payload).mpr hsize, hopen, hincluded]
  simp only [Traced.ofOutcome_ok_bind, Traced.call_bind, Outcome.ofExcept, Outcome.mapErr, hudp,
    hcalls, houtcome]

end Spoofed

/-- How the raw transport ends once its socket is open. -/
theorem rawStop_cases {net : Network} {retries : UInt8} {n : ℕ}
    (h : net.sendTo.LastCall (retries.toNat + 1) n) (payloadLen : ℕ) :
    (net.sendTo.Sent n ∧ rawStop payloadLen ((net.sendTo.reply n).mapError some) = .ok ()) ∨
    ∃ e, net.sendTo.reply n = .error e ∧ isInterrupted e = false ∧
      net.sendTo.failures n = retries.toNat ∧ rawStop payloadLen
        ((net.sendTo.reply n).mapError some) = Outcome.fail (classifyRawSend e payloadLen) := by
  by_cases hsent : net.sendTo.Sent n
  · exact Or.inl ⟨hsent, by rw [show net.sendTo.reply n = .ok () from hsent]; rfl⟩
  · obtain ⟨e, he, hi, hn⟩ := h.failed_of_not_sent hsent
    exact Or.inr ⟨e, he, hi, Nat.succ.inj hn, by rw [he]; rfl⟩

/-- What a spoofed send does, by the phase that ends it. Calls are numbered from 0; `failures i`
counts those before call `i` that failed and were not interrupted. -/
structure SpoofedRun (net : Network) (dst : SocketAddrV4) (retries : UInt8) (payload : List UInt8)
    (run : Sending Unit) : Prop where
  oversize : maxUdpPayload < payload.length →
    run.calls = [] ∧ ∃ e, run.outcome = Outcome.fail e
  denied : ∀ platform e, run.outcome = Outcome.fail (.rawSocketDenied platform e) →
    (e.rawOsError = some ePerm ∨ e.rawOsError = some eAcces) ∧
      (net.rawSocket = .error e ∧ run.calls = [.rawSocket] ∨
        net.rawSocket = .ok () ∧ net.setHeaderIncluded = .error e ∧
          run.calls = [.rawSocket, .setHeaderIncluded])
  rawSocket : payload.length ≤ maxUdpPayload → ∀ e, net.rawSocket = .error e →
    run.calls = [.rawSocket] ∧ run.outcome = Outcome.fail (classifyRawOpen e)
  setHeaderIncluded : payload.length ≤ maxUdpPayload → net.rawSocket = .ok () →
    ∀ e, net.setHeaderIncluded = .error e →
      run.calls = [.rawSocket, .setHeaderIncluded] ∧
        run.outcome = Outcome.fail (classifyRawOpen e)
  opened : payload.length ≤ maxUdpPayload → net.rawSocket = .ok () →
    net.setHeaderIncluded = .ok () → ∃ (n : ℕ) (packet : ℕ → List UInt8),
      run.calls = .rawSocket :: .setHeaderIncluded ::
        (List.range (n + 1)).map (fun i => .rawSendTo dst (packet i)) ∧
      (∀ i < n, ¬ net.sendTo.Sent i) ∧
      net.sendTo.failures (n + 1) ≤ retries.toNat + 1 ∧
      (run.outcome = .ok () ↔
        ∃ i, net.sendTo.Sent i ∧ net.sendTo.failures i < retries.toNat + 1) ∧
      (run.outcome = .ok () ∧ net.sendTo.Sent n ∨
        ∃ e, net.sendTo.reply n = .error e ∧ isInterrupted e = false ∧
          net.sendTo.failures n = retries.toNat ∧
          run.outcome = Outcome.fail (classifyRawSend e payload.length) ∧
          (e.rawOsError = some eMsgSize →
            run.outcome = Outcome.fail (.payloadExceedsMtu payload.length e)))

section Denied
variable {net : Network} {dst : SocketAddrV4} {src : Ipv4Addr} {srcPort : Option UInt16}
  {retries : UInt8} {payload : List UInt8}

theorem classifyRawSend_ne_denied (e e' : IoError) (payloadLen : ℕ) (platform : Platform) :
    classifyRawSend e payloadLen ≠ .rawSocketDenied platform e' := by
  intro h
  rcases classifyRawSend_cases e payloadLen with ⟨_, h'⟩ | ⟨_, h' | h'⟩ <;>
    rw [h'] at h <;> cases h

theorem sendSpoofed_denied {platform : Platform} {e : IoError}
    (h : (sendSpoofed net dst src srcPort retries payload).outcome =
      Outcome.fail (.rawSocketDenied platform e)) :
    (e.rawOsError = some ePerm ∨ e.rawOsError = some eAcces) ∧
      (net.rawSocket = .error e ∧
        (sendSpoofed net dst src srcPort retries payload).calls = [.rawSocket] ∨
      net.rawSocket = .ok () ∧ net.setHeaderIncluded = .error e ∧
        (sendSpoofed net dst src srcPort retries payload).calls =
          [.rawSocket, .setHeaderIncluded]) := by
  obtain hlarge | hsize := Nat.lt_or_ge maxUdpPayload payload.length
  · obtain ⟨e', heq⟩ := sendSpoofed_oversize net dst src srcPort retries hlarge
    rw [heq] at h
    cases h
  · cases hopen : net.rawSocket with
    | error e' =>
      have heq := sendSpoofed_rawSocket dst src srcPort retries hsize hopen
      rw [heq] at h ⊢
      obtain ⟨rfl, herrno⟩ := classifyRawOpen_denied (Stop.error.inj (Except.error.inj h))
      exact ⟨herrno, Or.inl ⟨rfl, rfl⟩⟩
    | ok u =>
      cases hincluded : net.setHeaderIncluded with
      | error e' =>
        have heq := sendSpoofed_setHeaderIncluded dst src srcPort retries hsize hopen hincluded
        rw [heq] at h ⊢
        obtain ⟨rfl, herrno⟩ := classifyRawOpen_denied (Stop.error.inj (Except.error.inj h))
        exact ⟨herrno, Or.inr ⟨rfl, rfl, rfl⟩⟩
      | ok u' =>
        -- an error of `send_to` is classified elsewhere
        obtain ⟨_, _, n, _, _, _, hlast, heq⟩ :=
          sendSpoofed_opened dst src srcPort retries hsize hopen hincluded
        rw [heq] at h
        obtain ⟨_, hstop⟩ | ⟨e', _, _, _, hstop⟩ := rawStop_cases hlast payload.length
        · rw [hstop] at h
          cases h
        · rw [hstop] at h
          exact absurd (Stop.error.inj (Except.error.inj h)) (classifyRawSend_ne_denied _ _ _ _)

end Denied

/-- **A spoofed send, whatever the operating system answers.** Too large a payload opens no
socket; only opening one is ever blamed on capabilities; and from there on packets are sent until
one gets through or `retries + 1` have failed, interruptions not counted, and the error tells of
the last failure. -/
theorem spoofed_send_run (net : Network) (dst : SocketAddrV4) (src : Ipv4Addr)
    (srcPort : Option UInt16) (retries : UInt8) (payload : List UInt8) :
    SpoofedRun net dst retries payload (sendSpoofed net dst src srcPort retries payload) where
  oversize hlarge := by
    obtain ⟨e, heq⟩ := sendSpoofed_oversize net dst src srcPort retries hlarge
    rw [heq]
    exact ⟨rfl, _, rfl⟩
  denied platform e h := sendSpoofed_denied h
  rawSocket hsize e hopen := by
    rw [sendSpoofed_rawSocket dst src srcPort retries hsize hopen]
    exact ⟨rfl, rfl⟩
  setHeaderIncluded hsize hopen e hincluded := by
    rw [sendSpoofed_setHeaderIncluded dst src srcPort retries hsize hopen hincluded]
    exact ⟨rfl, rfl⟩
  opened hsize hopen hincluded := by
    obtain ⟨_, packet, n, _, _, _, hlast, heq⟩ :=
      sendSpoofed_opened dst src srcPort retries hsize hopen hincluded
    rw [heq]
    refine ⟨n, packet, rfl, hlast.noneSent, hlast.failures_le, ?_, ?_⟩
    · rw [← hlast.sent_iff]
      obtain ⟨hsent, hstop⟩ | ⟨e, he, _, _, hstop⟩ := rawStop_cases hlast payload.length
      · exact iff_of_true hstop hsent
      · refine iff_of_false ?_ ?_
        · rw [hstop]
          exact Outcome.fail_ne_ok _ _
        · intro hsent
          rw [Net.Replies.Sent, he] at hsent
          cases hsent
    · obtain ⟨hsent, hstop⟩ | ⟨e, he, hi, hn, hstop⟩ := rawStop_cases hlast payload.length
      · exact Or.inl ⟨hstop, hsent⟩
      · refine Or.inr ⟨e, he, hi, hn, hstop, fun hsize' => ?_⟩
        rw [hstop]
        obtain ⟨_, h⟩ | ⟨hne, _⟩ := classifyRawSend_cases e payload.length
        · rw [h]
        · exact absurd hsize' hne

/-! ## Runs of the unprivileged transport -/

theorem send_bound {net : Network} (dst : SocketAddrV4) (srcPort : Option UInt16)
    (retries : UInt8) (payload : List UInt8) (hbound : net.udpBind = .ok ()) :
    ∃ n, net.sendTo.LastCall (retries.toNat + 1) n ∧
      send net dst srcPort retries payload =
        ⟨.udpBind (srcPort.getD 0) :: List.replicate (n + 1) (.udpSendTo dst payload),
          udpStop ((net.sendTo.reply n).mapError some)⟩ := by
  obtain ⟨n, hlast, hloop⟩ := (sendLoop_follows net dst payload).start (Nat.succ_pos retries.toNat)
  obtain ⟨hcalls, houtcome⟩ := Prod.mk.inj hloop
  refine ⟨n, hlast, ?_⟩
  rw [send, hbound]
  simp only [Traced.ofOutcome_ok_bind, Traced.call_bind, Outcome.ofExcept, Outcome.mapErr, hcalls,
    houtcome, List.map_const', List.length_range]

/-- **The two transports have one retry semantics.** On the same answers, once their sockets are
open, both stop at the same call, succeed or fail together and blame the same error of the
operating system; one sends the payload unchanged every time, the other one datagram in packets
that differ in identification and header checksum only. -/
theorem transports_retry_alike (net : Network) (dst : SocketAddrV4) (src : Ipv4Addr)
    (srcPort srcPort' : Option UInt16) (retries : UInt8) (payload : List UInt8)
    (hsize : payload.length ≤ maxUdpPayload) (hopen : net.rawSocket = .ok ())
    (hincluded : net.setHeaderIncluded = .ok ()) (hbound : net.udpBind = .ok ()) :
    ∃ (n : ℕ) (udp : List UInt8) (packet : ℕ → List UInt8),
      (send net dst srcPort retries payload).calls =
        .udpBind (srcPort.getD 0) :: List.replicate (n + 1) (.udpSendTo dst payload) ∧
      (sendSpoofed net dst src srcPort' retries payload).calls =
        .rawSocket :: .setHeaderIncluded ::
          (List.range (n + 1)).map (fun i => .rawSendTo dst (packet i)) ∧
      ((send net dst srcPort retries payload).outcome = .ok () ∧
          (sendSpoofed net dst src srcPort' retries payload).outcome = .ok () ∨
        ∃ e error error', net.sendTo.reply n = .error e ∧ isInterrupted e = false ∧
          (send net dst srcPort retries payload).outcome = Outcome.fail error ∧
          (sendSpoofed net dst src srcPort' retries payload).outcome = Outcome.fail error' ∧
          underlying error = some e ∧ underlying error' = some e) ∧
      buildUdpDatagram src dst.ip (srcPort'.getD net.ephemeralPort) dst.port payload = .ok udp ∧
      (∀ i, (packet i).drop 20 = udp) ∧
      ∀ i j, (packet i).take 4 = (packet j).take 4 ∧
        ((packet i).drop 6).take 4 = ((packet j).drop 6).take 4 ∧
        (packet i).drop 12 = (packet j).drop 12 := by
  obtain ⟨n, hlast, heq⟩ := send_bound dst srcPort retries payload hbound
  obtain ⟨udp, packet, n', hudp, hfits, hpacket, hlast', heq'⟩ :=
    sendSpoofed_opened dst src srcPort' retries hsize hopen hincluded
  cases hlast'.unique hlast
  have hheader : ∀ i, ∃ csum : UInt16, packet i = ipv4HeaderWith src dst.ip
      (20 + UInt16.ofNat udp.length) (net.identification i) (toBeBytes csum) ++ udp := by
    intro i
    obtain ⟨csum, hcsum⟩ := attemptPacket_eq src dst.ip hfits (net.identification i)
    rw [hpacket i] at hcsum
    exact ⟨csum, Except.ok.inj hcsum⟩
  rw [heq, heq']
  refine ⟨n, udp, packet, rfl, rfl, ?_, hudp, fun i => ?_, fun i j => ?_⟩
  · obtain ⟨hsent, hstop⟩ | ⟨e, he, hi, _, hstop⟩ := rawStop_cases hlast' payload.length
    · refine Or.inl ⟨?_, hstop⟩
      rw [show net.sendTo.reply n = .ok () from hsent]
      rfl
    · refine Or.inr ⟨e, mapSendIo e, classifyRawSend e payload.length, he, hi, ?_, hstop,
        underlying_mapSendIo e, underlying_classifyRawSend e payload.length⟩
      rw [he]
      rfl
  · obtain ⟨csum, hcsum⟩ := hheader i
    rw [hcsum]
    rfl
  · obtain ⟨csum, hcsum⟩ := hheader i
    obtain ⟨csum', hcsum'⟩ := hheader j
    rw [hcsum, hcsum']
    exact ⟨rfl, rfl, rfl⟩

/-- Every third call gets through, after an interruption and a full queue. -/
def flakyNetwork : Network where
  rawSocket := .ok ()
  setHeaderIncluded := .ok ()
  udpBind := .ok ()
  sendTo :=
    { reply := fun i =>
        if i % 3 = 0 then .error ⟨.interrupted, some 4, "Interrupted system call (os error 4)"⟩
        else if i % 3 = 1 then
          .error ⟨.other, some 105, "No buffer space available (os error 105)"⟩
        else .ok ()
      settles := fun i => by
        by_cases h : i % 3 = 0
        · refine ⟨1, ?_⟩
          rw [if_neg (by omega), if_pos (by omega)]
          decide
        · refine ⟨0, ?_⟩
          rw [Nat.add_zero, if_neg h]
          split <;> decide }
  ephemeralPort := 50000
  identification := UInt16.ofNat

theorem transports_retry_alike_flaky :
    ∃ (n : ℕ) (packet : ℕ → List UInt8),
      (send flakyNetwork ⟨⟨127, 0, 0, 1⟩, 162⟩ none 1 [0x30, 0x00]).calls =
        .udpBind 0 :: List.replicate (n + 1) (.udpSendTo ⟨⟨127, 0, 0, 1⟩, 162⟩ [0x30, 0x00]) ∧
      (sendSpoofed flakyNetwork ⟨⟨127, 0, 0, 1⟩, 162⟩ ⟨198, 51, 100, 42⟩ none 1
          [0x30, 0x00]).calls =
        .rawSocket :: .setHeaderIncluded :: (List.range (n + 1)).map
          (fun i => .rawSendTo ⟨⟨127, 0, 0, 1⟩, 162⟩ (packet i)) ∧
      ∀ i j, (packet i).drop 12 = (packet j).drop 12 := by
  obtain ⟨n, _, packet, hcalls, hcalls', _, _, _, hsame⟩ :=
    transports_retry_alike flakyNetwork ⟨⟨127, 0, 0, 1⟩, 162⟩ ⟨198, 51, 100, 42⟩ none none 1
      [0x30, 0x00] (by decide) rfl rfl rfl
  exact ⟨n, packet, hcalls, hcalls', fun i j => (hsame i j).2.2⟩

end SnmpTrap.Transport
