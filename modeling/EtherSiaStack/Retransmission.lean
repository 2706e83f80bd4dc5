/-
What the timer sends again.

`tcp_resend` prepares the headers over whatever packet the buffer holds and writes the
destination address behind that, so that the source address is the one for the destination
of the packet before.
-/

import EtherSiaStack.ActiveOpen

namespace EtherSiaStack

open ByteMemory IPv6Packet Trace

/-! ### The frames of a call -/

/-- The frames sent in between. -/
def framesSent (before after : EtherSia) : List (List UInt8) :=
  after.sent.drop before.sent.length

theorem framesSent_append {before after : EtherSia} {frames : List (List UInt8)}
    (sent : after.sent = before.sent ++ frames) : framesSent before after = frames := by
  unfold framesSent
  rw [sent, List.drop_left]

theorem framesSent_of_same {before after : EtherSia} (same : after.sent = before.sent) :
    framesSent before after = [] := by
  unfold framesSent
  rw [same, List.drop_length]

theorem SendsFlags.frameFlags_eq {flags : UInt8} {before after : EtherSia}
    (sends : SendsFlags flags before after) {octets : List UInt8}
    (member : octets ∈ framesSent before after) : frameFlags octets = flags := by
  obtain ⟨frame, sent, isFlags⟩ := sends
  rw [framesSent_append sent] at member
  rw [List.mem_singleton.mp member]
  exact isFlags

theorem endpoints_congr {left right : Memory} (agree : Agree left right 0 58) :
    endpoints left = endpoints right := by
  have sameSource : source left = source right :=
    source_congr (agree.mono (by decide) (by decide))
  have sameDestination : destination left = destination right :=
    destination_congr (agree.mono (by decide) (by decide))
  have sameSourcePort : TCPHeader.sourcePort left = TCPHeader.sourcePort right :=
    agree.u16At_eq (by decide) (by decide)
  have sameDestinationPort :
      TCPHeader.destinationPort left = TCPHeader.destinationPort right :=
    agree.u16At_eq (by decide) (by decide)
  have sameEther : etherDestination left = etherDestination right :=
    congrArg MACAddress.mk (agree.blockAt_eq (by decide) (by decide))
  unfold endpoints
  rw [sameSource, sameDestination, sameSourcePort, sameDestinationPort, sameEther]

namespace TCPClient

open TCPHeader

/-- A frame that is sent because the timer has run out: a SYN, a FIN while the last ACK is
missing, or the reset with which the connection is given up. -/
inductive TimerFrame (before after : TCPClient) (octets : List UInt8) : Prop
  | syn (flag : hasFlag (frameFlags octets) TCP_FLAG_SYN = true)
  | fin (closing : before.state = .lastAck)
      (flag : hasFlag (frameFlags octets) TCP_FLAG_FIN = true)
  | reset (inTime : before.timedOut = false) (late : after.timedOut = true)

theorem resending_endpoints (client : TCPClient) (flags dataOffset : UInt8)
    (ether : EtherSia) :
    source (client.resending flags dataOffset ether).buffer =
        ether.sendSourceAddress (destination ether.buffer) ∧
      destination (client.resending flags dataOffset ether).buffer = client.remoteAddress ∧
        etherDestination (client.resending flags dataOffset ether).buffer =
          client.remoteMac := by
  let flagged := ether.modifyPacket fun packet =>
    setDataOffset (setFlags packet flags) dataOffset
  have sameDestination : destination flagged.buffer = destination ether.buffer := by
    simp [flagged, EtherSia.modifyPacket]
  have isSource := flagged.prepareSend_source
  rw [sameDestination] at isSource
  have keepsSource : source (setEtherDestination (setDestination
      flagged.prepareSend.buffer client.remoteAddress) client.remoteMac) =
      source flagged.prepareSend.buffer := by simp
  refine ⟨keepsSource.trans isSource, ?_, ?_⟩
  · have isDestination : destination (setEtherDestination (setDestination
        flagged.prepareSend.buffer client.remoteAddress) client.remoteMac) =
        client.remoteAddress := by simp
    exact isDestination
  · have isTarget : etherDestination (setEtherDestination (setDestination
        flagged.prepareSend.buffer client.remoteAddress) client.remoteMac) =
        client.remoteMac := by simp
    exact isTarget

theorem tcpSendNoData_endpoints (client : TCPClient) (ether : EtherSia) :
    endpoints (client.tcpSendNoData ether).buffer =
      { endpoints ether.buffer with
        sourcePort := client.localPort
        destinationPort := client.remotePort } := by
  let sized := setPayloadLength ether.buffer (receiveHeaderLen ether.buffer)
  have sameEndpoints : endpoints sized = endpoints ether.buffer := by
    simp [endpoints, sized]
  have filled := client.fillTCPHeader_endpoints sized
  rw [sameEndpoints] at filled
  exact filled

/-- A segment sent again goes to the peer, from the address for the destination of the
packet that was in the buffer. -/
theorem tcpResend_endpoints (client : TCPClient) (flags dataOffset : UInt8)
    (ether : EtherSia) :
    endpoints (client.tcpResend flags dataOffset ether).buffer =
      client.endpointsFrom (ether.sendSourceAddress (destination ether.buffer)) := by
  obtain ⟨isSource, isDestination, isTarget⟩ :=
    client.resending_endpoints flags dataOffset ether
  rw [tcpResend_eq, tcpSendNoData_endpoints]
  unfold endpoints endpointsFrom
  rw [isSource, isDestination, isTarget]

theorem tcpResend_framesSent (client : TCPClient) (flags dataOffset : UInt8)
    (bounds : 14 ≤ (((dataOffset &&& 0xF0) >>> 2).toUInt16).toNat ∧
      (((dataOffset &&& 0xF0) >>> 2).toUInt16).toNat ≤ 60) (ether : EtherSia) :
    ∃ octets, framesSent ether (client.tcpResend flags dataOffset ether) = [octets] ∧
      frameFlags octets = flags ∧ endpoints (ofOctets octets) =
        client.endpointsFrom (ether.sendSourceAddress (destination ether.buffer)) := by
  obtain ⟨octets, sent, agree⟩ := client.tcpResend_sendsBuffer flags dataOffset bounds ether
  refine ⟨octets, framesSent_append sent, ?_, ?_⟩
  · exact (agree 67 (by decide) (by decide)).trans (client.tcpResend_flags flags _ ether)
  · rw [endpoints_congr (agree.mono le_rfl (by decide))]
    exact client.tcpResend_endpoints flags dataOffset ether

/-- What a quiet call sends are ACKs, resets and the first FIN. -/
theorem QuietFrames.frameFlags_eq {before : TCPClient} {ether : EtherSia}
    {after : TCPClient × EtherSia} (frames : QuietFrames before ether after)
    {octets : List UInt8} (member : octets ∈ framesSent ether after.2) :
    frameFlags octets = TCP_FLAG_ACK ∨ frameFlags octets = TCP_FLAG_RST ||| TCP_FLAG_ACK ∨
      before.state = .connected ∧ after.1.state = .lastAck ∧
        frameFlags octets = TCP_FLAG_FIN ||| TCP_FLAG_ACK := by
  cases frames with
  | nothing same =>
      rw [framesSent_of_same same] at member
      cases member
  | acknowledges sends => exact Or.inl (sends.frameFlags_eq member)
  | resets sends => exact Or.inr (Or.inl (sends.frameFlags_eq member))
  | closes open_ state sends =>
      exact Or.inr (Or.inr ⟨open_, state, sends.frameFlags_eq member⟩)

theorem QuietOutcome.inTime {before after : TCPClient} {ether : EtherSia}
    (outcome : QuietOutcome before ether after) (inTime : before.timedOut = false) :
    after.timedOut = false := by
  cases outcome with
  | kept _ _ timedOut _ _ _ _ => exact timedOut.trans inTime
  | acknowledged _ timedOut _ _ => exact timedOut.elim id fun same => same.trans inTime
  | closed _ timedOut _ => exact timedOut
  | finReceived _ _ timedOut _ _ _ => exact timedOut

theorem QuietCall.not_timerFrame {before : TCPClient} {ether : EtherSia}
    {after : TCPClient × EtherSia} (quiet : QuietCall before ether after)
    {octets : List UInt8} (member : octets ∈ framesSent ether after.2) :
    ¬ TimerFrame before after.1 octets := by
  have flags := quiet.frames.frameFlags_eq member
  intro frame
  cases frame with
  | syn flag =>
      rcases flags with isFlags | isFlags | ⟨_, _, isFlags⟩
      · rw [isFlags] at flag
        exact absurd flag (by decide)
      · rw [isFlags] at flag
        exact absurd flag (by decide)
      · rw [isFlags] at flag
        exact absurd flag (by decide)
  | fin closing flag =>
      rcases flags with isFlags | isFlags | ⟨open_, _, _⟩
      · rw [isFlags] at flag
        exact absurd flag (by decide)
      · rw [isFlags] at flag
        exact absurd flag (by decide)
      · cases closing.symm.trans open_
  | reset inTime late => exact Bool.false_ne_true ((quiet.outcome.inTime inTime).symm.trans late)

/-- What the check sends with the timer run out goes out from the address for the
destination of the packet in the buffer. -/
theorem Expiry.endpoints_eq {before : TCPClient} {ether : EtherSia}
    {after : TCPClient × EtherSia} (expiry : Expiry before ether after)
    {octets : List UInt8} (member : octets ∈ framesSent ether after.2) :
    endpoints (ofOctets octets) =
      before.endpointsFrom (ether.sendSourceAddress (destination ether.buffer)) := by
  have resent (flags dataOffset : UInt8)
      (bounds : 14 ≤ (((dataOffset &&& 0xF0) >>> 2).toUInt16).toNat ∧
        (((dataOffset &&& 0xF0) >>> 2).toUInt16).toNat ≤ 60)
      (resends : after.2 = before.tcpResend flags dataOffset ether) :
      endpoints (ofOctets octets) =
        before.endpointsFrom (ether.sendSourceAddress (destination ether.buffer)) := by
    obtain ⟨frame, sent, _, isEndpoints⟩ :=
      before.tcpResend_framesSent flags dataOffset bounds ether
    rw [resends, sent] at member
    rw [List.mem_singleton.mp member]
    exact isEndpoints
  cases expiry.outcome with
  | gaveUp _ _ _ _ resends => exact resent _ _ (by decide) resends
  | retried _ _ _ performs =>
      rcases performs with ⟨_, resends⟩ | ⟨_, _, same⟩ | ⟨_, resends⟩
      · exact resent _ _ (by decide) resends
      · rw [framesSent_of_same same] at member
        cases member
      · exact resent _ _ (by decide) resends

theorem TimerFrame.of_same {before other after : TCPClient} {octets : List UInt8}
    (frame : TimerFrame before after octets) (state : other.state = before.state)
    (timedOut : other.timedOut = before.timedOut) : TimerFrame other after octets := by
  cases frame with
  | syn flag => exact .syn flag
  | fin closing flag => exact .fin (state.trans closing) flag
  | reset inTime late => exact .reset (timedOut.trans inTime) late

theorem poll_timerFrame_endpoints {client : TCPClient} {clock : HavePacketClock}
    {ether : EtherSia} {octets : List UInt8}
    (member : octets ∈ framesSent ether (client.poll clock ether).2)
    (frame : TimerFrame client (client.poll clock ether).1 octets) :
    endpoints (ofOctets octets) =
      client.endpointsFrom (ether.sendSourceAddress (destination ether.buffer)) := by
  by_cases active : client.Active
  · have sameSocket := client.ticked_toSocket clock
    rcases poll_outcome active clock ether with quiet | ⟨_, expiry⟩
    · exact absurd (frame.of_same (client.ticked_state clock) (client.ticked_timedOut clock))
        (quiet.not_timerFrame member)
    · rw [expiry.endpoints_eq member]
      unfold endpointsFrom
      rw [sameSocket]
  · rw [poll_of_idle active, framesSent_of_same rfl] at member
    cases member

/-- A call never touches the endpoints of the connection. -/
theorem poll_toSocket (client : TCPClient) (clock : HavePacketClock) (ether : EtherSia) :
    (client.poll clock ether).1.toSocket = client.toSocket := by
  by_cases active : client.Active
  · have sameSocket := client.ticked_toSocket clock
    rcases poll_outcome active clock ether with quiet | ⟨_, expiry⟩
    · exact quiet.toSocket.trans sameSocket
    · exact expiry.toSocket.trans sameSocket
  · obtain ⟨_, _, started⟩ := client.startCall_eq clock
    rw [poll_of_idle active, started]

theorem send_payloadLength (client : TCPClient) (length : UInt16) (ether : EtherSia) :
    IPv6Packet.payloadLength (client.send length false ether).2.buffer = 24 + length := by
  let prepared := client.toSocket.prepare false ether
  let packet := setPayloadLength (setDataOffset prepared.buffer 0x60)
    (receiveHeaderLen (setDataOffset prepared.buffer 0x60) + length)
  have built : (client.send length false ether).2.buffer = client.fillTCPHeader packet := by
    unfold send sendInternal
    split
    · rfl
    · rfl
  have isLength : IPv6Packet.payloadLength packet = 24 + length := by
    simp only [packet, IPv6Packet.payloadLength, setPayloadLength, u16At_store_self,
      receiveHeaderLen_setDataOffset]
    rfl
  rw [built, fillTCPHeader_payloadLength, isLength]

theorem connect_frame (client : TCPClient) (iss now : UInt32) (ether : EtherSia) :
    ∃ syn, (client.connect iss now ether).2.sent = ether.sent ++ [syn] ∧
      endpoints (ofOctets syn) = (client.opening iss now).endpointsFrom
        (ether.sendSourceAddress client.remoteAddress) := by
  have transmits := client.connect_transmits iss now ether
  have isLength := (client.opening iss now).send_payloadLength 0
    (ether.modifyPacket fun packet => setFlags packet TCP_FLAG_SYN)
  rw [← connect_eq] at isLength
  have endIs : packetEnd (client.connect iss now ether).2.buffer = 78 := by
    unfold packetEnd
    rw [isLength]
    rfl
  have long : (length (client.connect iss now ether).2.buffer).toNat = 78 := by
    rw [length_toNat (by omega), endIs]
  have agree := ofOctets_bytesAt (client.connect iss now ether).2.buffer 78
  refine ⟨_, transmits.sent, ?_⟩
  rw [long, endpoints_congr (agree.mono le_rfl (by decide))]
  exact (client.connect_endpoints iss now ether).1

end TCPClient

/-! ### Every run -/

section Runs

variable {ι : Type} [DecidableEq ι]

/-- The event leaves the client with the connection it has. -/
def KeepsConnection (index : ι) (event : StationEvent ι) : Prop :=
  (∀ socket, event ≠ .setRemoteAddress index socket) ∧
    ∀ randomNumber now, event ≠ .connect index randomNumber now

theorem step_toSocket {index : ι} {before after : Station ι} {event : StationEvent ι}
    (stepped : before.step event = some after) (keeps : KeepsConnection index event) :
    (after.clients index).toSocket = (before.clients index).toSocket := by
  apply Station.step_client_cases index stepped
  · intro _ same
    rw [same]
  · rintro socket rfl _
    exact absurd rfl (keeps.1 socket)
  · rintro randomNumber now rfl _
    exact absurd rfl (keeps.2 randomNumber now)
  · rintro clock rfl rfl
    rw [Station.update_clients_same]
    exact TCPClient.poll_toSocket _ clock before.ether
  · rintro length isReply rfl rfl
    have sent := (before.clients index).send_fst length isReply before.ether
    rw [Station.update_clients_same]
    split at sent
    · rw [sent]
    · rw [sent]

/-- The step is a call of `havePacket` on the client in which the timer has this frame
sent. -/
def SentByTimer (index : ι) (taken : Taken (Station ι) (StationEvent ι))
    (octets : List UInt8) : Prop :=
  (∃ clock, taken.event = .clientHavePacket index clock) ∧
    octets ∈ framesSent taken.before.ether taken.after.ether ∧
      TCPClient.TimerFrame (taken.before.clients index) (taken.after.clients index) octets

theorem step_sentByTimer {index : ι} {taken : Taken (Station ι) (StationEvent ι)}
    (stepped : taken.before.step taken.event = some taken.after) {octets : List UInt8}
    (sent : SentByTimer index taken octets) :
    endpoints (ofOctets octets) = (taken.before.clients index).endpointsFrom
      (taken.before.ether.sendSourceAddress (destination taken.before.ether.buffer)) := by
  obtain ⟨before, event, after⟩ := taken
  obtain ⟨⟨clock, isCall⟩, member, frame⟩ := sent
  dsimp only at stepped isCall member frame ⊢
  subst isCall
  change some (before.update index _) = some after at stepped
  obtain rfl := Option.some.inj stepped
  rw [Station.update_clients_same] at frame
  exact TCPClient.poll_timerFrame_endpoints member frame

/-- The frames the timer has sent go to the peer of the SYN from its port.  They have its
endpoints exactly when the packet in the buffer at the time is for a destination to which
the node sends from the source address of the SYN. -/
theorem retransmissions_keep_endpoints_iff {index : ι} (start : Station ι)
    (iss now : UInt32) {events : List (StationEvent ι)}
    (sameConnection : ∀ event ∈ events, KeepsConnection index event) :
    ∃ syn, ((start.clients index).connect iss now start.ether).2.sent =
        start.ether.sent ++ [syn] ∧
      Always Station.step start (.connect index iss now :: events) fun taken =>
        ∀ octets, SentByTimer index taken octets →
          (endpoints (ofOctets octets) = endpoints (ofOctets syn) ↔
            taken.before.ether.sendSourceAddress
                (destination taken.before.ether.buffer) =
              start.ether.sendSourceAddress (start.clients index).remoteAddress) := by
  let client := start.clients index
  obtain ⟨syn, sent, synEndpoints⟩ := client.connect_frame iss now start.ether
  refine ⟨syn, sent, ?_⟩
  have connects : start.step (.connect index iss now) = some
      (start.update index (client.connect iss now start.ether)) := rfl
  rw [always_cons_of_step connects]
  constructor
  · rintro octets ⟨⟨clock, isCall⟩, _⟩
    cases isCall
  · have others : Always Station.step
        (start.update index (client.connect iss now start.ether)) events
        fun taken => KeepsConnection index taken.event :=
      fun taken member => sameConnection taken.event (event_mem_of_mem_trace member)
    refine always_of_invariant
      (fun station => (station.clients index).toSocket = (client.opening iss now).toSocket)
      ?_ ?_ ?_ others
    · intro taken stepped same keeps
      exact (step_toSocket stepped keeps).trans same
    · intro taken stepped same _ octets resent
      rw [step_sentByTimer stepped resent, synEndpoints]
      unfold TCPClient.endpointsFrom
      rw [same]
      constructor
      · exact fun equal => congrArg Endpoints.source equal
      · exact fun equal => by rw [equal]
    · rw [Station.update_clients_same, TCPClient.connect_fst]

end Runs

/-- Two clients on a node with a global address. -/
def globalStation : Station Bool :=
  { twoClients with ether := TCPClient.globalEther }

/-- A datagram for the global address of the node. -/
def globalDatagram : Frame where
  octets := [2, 0, 0, 0, 0, 1, 2, 0, 0, 0, 0, 2, 0x86, 0xdd,
    0x60, 0, 0, 0, 0, 14, 17, 64,
    0xfe, 0x80, 0, 0, 0, 0, 0, 0, 0, 0, 0, 0xff, 0xfe, 0, 0, 2,
    0x20, 0x01, 0x0d, 0xb8, 0, 0, 0, 0, 0, 0, 0, 0, 0, 0, 0, 1,
    0x10, 0, 0x14, 0xe9, 0, 14, 0x85, 0x7f, 97, 98, 99, 100, 101, 102]
  fits := by decide

/-- The first client connects; then the datagram arrives and two ticks go by. -/
def untilSynExpires : List (StationEvent Bool) :=
  [.connect false 1000 0, .receivePacket globalDatagram,
    .clientHavePacket false (clockAt 250), .clientHavePacket false (clockAt 500)]

/-- The SYN goes out from the link-local address, and again from the global one. -/
theorem syn_resent_from_other_address :
    ¬ ∃ syn, ((globalStation.clients false).connect 1000 0 globalStation.ether).2.sent =
        globalStation.ether.sent ++ [syn] ∧
      Always Station.step globalStation
        (untilSynExpires ++ [.clientHavePacket false (clockAt 750)])
        fun taken => ∀ octets, SentByTimer false taken octets →
          endpoints (ofOctets octets) = endpoints (ofOctets syn) := by
  rintro ⟨syn, sent, keeps⟩
  have synSource : (((globalStation.clients false).connect 1000 0
      globalStation.ether).2.sent).map (fun octets => (endpoints (ofOctets octets)).source) =
        [globalStation.ether.linkLocalAddress] := by
    decide +kernel
  have resends : (run Station.step globalStation untilSynExpires).map (fun before =>
      (framesSent before.ether
        ((before.clients false).poll (clockAt 750) before.ether).2).map fun octets =>
          (hasFlag (frameFlags octets) TCP_FLAG_SYN, (endpoints (ofOctets octets)).source)) =
      some [(true, globalStation.ether.globalAddress)] := by
    decide +kernel
  obtain ⟨before, returns, frames⟩ := Option.map_eq_some_iff.mp resends
  have last := ((always_append_of_run returns _ _).mp keeps).2
  let after := before.update false ((before.clients false).poll (clockAt 750) before.ether)
  have stepped : before.step (.clientHavePacket false (clockAt 750)) = some after := rfl
  obtain ⟨octets, onlyFrame, facts⟩ := List.map_eq_singleton_iff.mp frames
  obtain ⟨isSyn, isSource⟩ := Prod.mk.inj facts
  have member : octets ∈ framesSent before.ether after.ether := by
    rw [Station.update_ether, onlyFrame]
    exact List.mem_singleton_self octets
  have same := ((always_cons_of_step stepped _ _).mp last).1 octets
    ⟨⟨clockAt 750, rfl⟩, member, .syn isSyn⟩
  have different : globalStation.ether.globalAddress ≠
      globalStation.ether.linkLocalAddress := by decide
  have noneSent : globalStation.ether.sent = [] := rfl
  rw [sent, noneSent] at synSource
  have isLinkLocal := (List.cons.inj synSource).1
  exact different (isSource.symm.trans ((congrArg Endpoints.source same).trans isLinkLocal))

theorem retransmissions_keep_endpoints_iff_first :
    ∃ syn, ((globalStation.clients false).connect 1000 0 globalStation.ether).2.sent =
        globalStation.ether.sent ++ [syn] ∧
      Always Station.step globalStation
        [.connect false 1000 0, .clientHavePacket false (clockAt 250),
          .clientHavePacket false (clockAt 500), .clientHavePacket false (clockAt 750)]
        fun taken => ∀ octets, SentByTimer false taken octets →
          (endpoints (ofOctets octets) = endpoints (ofOctets syn) ↔
            taken.before.ether.sendSourceAddress
                (destination taken.before.ether.buffer) =
              globalStation.ether.sendSourceAddress
                (globalStation.clients false).remoteAddress) := by
  refine retransmissions_keep_endpoints_iff globalStation 1000 0 fun event member => ?_
  constructor
  · rintro socket rfl
    simp at member
  · rintro randomNumber now rfl
    simp at member

end EtherSiaStack
