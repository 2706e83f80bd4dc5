/-
Where the answers to a packet go.

`prepareReply` takes the destination of every reply from the source field of the
packet in the buffer, and nothing on the way to it looks at what that address is.
Between the acceptance of a packet and the first reply its headers stay as they were
received, so each frame sent in answer to a packet goes to the packet's source.
-/

import EtherSiaStack.Arrival
import EtherSiaStack.Rejection
import EtherSiaStack.Segment

namespace EtherSiaStack

open ByteMemory IPv6Packet Trace

/-! ### One reply -/

/-- The call sends nothing, or one packet whose destination is `address`. -/
def SendsTo (address : IPv6Address) (before after : EtherSia) : Prop :=
  after.sent = before.sent ∨
    after.sent = before.sent ++ [packetOctets after.buffer] ∧
      destination after.buffer = address

theorem prepareReply_destination (ether : EtherSia) :
    destination ether.prepareReply.buffer = source ether.buffer := by
  simp [EtherSia.prepareReply]

theorem sendsTo_prepareReply {before ether : EtherSia} (change : Memory → Memory)
    (sent : ether.sent = before.sent)
    (sameSource : Agree ether.buffer before.buffer 22 38)
    (keeps : ∀ packet, Agree (change packet) packet 38 54) :
    SendsTo (source before.buffer) before
      (ether.prepareReply.modifyPacket change).send := by
  refine Or.inr ⟨congrArg (· ++ [_]) sent, ?_⟩
  have built : destination (change ether.prepareReply.buffer) =
      destination ether.prepareReply.buffer :=
    destination_congr (keeps _)
  exact built.trans ((prepareReply_destination ether).trans (source_congr sameSource))

namespace EtherSia

theorem icmp6PacketSend_sendsTo {before ether : EtherSia} (change : Memory → Memory)
    (sent : ether.sent = before.sent)
    (sameSource : Agree ether.buffer before.buffer 22 38)
    (keeps : ∀ packet, Agree (change packet) packet 38 54) :
    SendsTo (source before.buffer) before
      (ether.prepareReply.modifyPacket change).icmp6PacketSend := by
  apply sendsTo_prepareReply (fun packet =>
    storeChecksum (setProtocol (change packet) IP6_PROTO_ICMP6)
      ICMPv6Packet.checksumAddress) sent sameSource
  intro packet
  apply (storeChecksum_agree _ (Or.inl (by decide))).trans
  exact (agree_store _ _ (by simp)).trans (keeps packet)

theorem icmp6ErrorReply_sendsTo (ether : EtherSia) (type code : UInt8) :
    SendsTo (source ether.buffer) ether (ether.icmp6ErrorReply type code) := by
  unfold icmp6ErrorReply
  dsimp only
  generalize (if 40 + payloadLength ether.buffer > 538 then (538 : UInt16)
    else 40 + payloadLength ether.buffer) = payloadLen
  apply icmp6PacketSend_sendsTo
  · rfl
  · exact agree_store _ _ (Or.inl (by decide))
  · intro packet
    split
    · repeat apply (agree_store _ _ (by simp)).trans
      exact Agree.refl _ _ _
    · repeat apply (agree_store _ _ (by simp)).trans
      exact Agree.refl _ _ _

theorem icmp6NSReply_sendsTo (ether : EtherSia) :
    SendsTo (source ether.buffer) ether ether.icmp6NSReply := by
  unfold icmp6NSReply
  dsimp only
  split
  · exact Or.inl rfl
  · apply icmp6PacketSend_sendsTo
    · rfl
    · exact Agree.refl _ _ _
    · intro packet
      repeat apply (agree_store _ _ (by simp)).trans
      exact Agree.refl _ _ _

theorem icmp6EchoReply_sendsTo (ether : EtherSia) :
    SendsTo (source ether.buffer) ether ether.icmp6EchoReply := by
  apply icmp6PacketSend_sendsTo
  · rfl
  · exact Agree.refl _ _ _
  · intro packet
    exact (agree_store _ _ (by simp)).trans (agree_store _ _ (by simp))

theorem tcpSendRSTReply_sendsTo (ether : EtherSia) :
    SendsTo (source ether.buffer) ether ether.tcpSendRSTReply := by
  apply sendsTo_prepareReply
  · rfl
  · exact Agree.refl _ _ _
  · intro packet
    apply (storeChecksum_agree _ (Or.inl (by decide))).trans
    repeat apply (agree_store _ _ (by simp)).trans
    exact Agree.refl _ _ _

theorem rejectPacket_sendsTo (ether : EtherSia) :
    SendsTo (source ether.buffer) ether ether.rejectPacket := by
  unfold rejectPacket
  split_ifs
  · exact Or.inl rfl
  · exact Or.inl rfl
  · exact ether.tcpSendRSTReply_sendsTo
  · exact ether.icmp6ErrorReply_sendsTo _ _
  · exact Or.inl rfl
  · exact ether.icmp6ErrorReply_sendsTo _ _

theorem dispatchReceived_sendsTo {ether after : EtherSia} {len result : UInt16}
    (returned : ether.dispatchReceived len = some (result, after)) :
    SendsTo (source ether.buffer) ether after := by
  refine dispatchReceived_cases returned (motive := fun _ later =>
    SendsTo (source ether.buffer) ether later) ?_ ?_ ?_ ?_
  · exact Or.inl rfl
  · exact fun _ => ether.icmp6NSReply_sendsTo
  · exact fun _ => ether.icmp6EchoReply_sendsTo
  · intro _ walked walks
    obtain ⟨_, _, _, rfl⟩ := icmp6ProcessRA_configuresOnly walks
    exact Or.inl rfl

end EtherSia

theorem UDPSocket.sendReply_sendsTo (socket : Socket) (length : UInt16)
    (ether : EtherSia) :
    SendsTo (source ether.buffer) ether (UDPSocket.send socket length true ether) := by
  apply sendsTo_prepareReply
  · rfl
  · exact Agree.refl _ _ _
  · intro packet
    apply (storeChecksum_agree _ (Or.inl (by decide))).trans
    repeat apply (agree_store _ _ (by simp)).trans
    exact Agree.refl _ _ _

theorem TCPServer.segmentFields_destination (socket : Socket) (length : UInt16)
    (packet : Memory) : Agree (segmentFields socket length packet) packet 38 54 := by
  unfold segmentFields
  dsimp only
  repeat apply (agree_store _ _ (by simp)).trans
  split
  · exact agree_store _ _ (by simp)
  · exact Agree.refl _ _ _

theorem TCPServer.sendReply_sendsTo (socket : Socket) (length : UInt16)
    {before ether : EtherSia} (sent : ether.sent = before.sent)
    (sameSource : Agree ether.buffer before.buffer 22 38) :
    SendsTo (source before.buffer) before (TCPServer.send socket length true ether) := by
  apply sendsTo_prepareReply _ sent sameSource
  intro packet
  apply (storeChecksum_agree _ (Or.inl (by decide))).trans
  exact segmentFields_destination socket length packet

theorem TCPServer.havePacket_sendsTo (socket : Socket) (randomNumber : UInt32)
    (ether : EtherSia) :
    SendsTo (source ether.buffer) ether
      (TCPServer.havePacket socket randomNumber ether).2.2 := by
  unfold TCPServer.havePacket
  dsimp only
  split_ifs
  · exact Or.inl rfl
  · exact Or.inl rfl
  · exact Or.inl rfl
  · exact Or.inl rfl
  · exact TCPServer.sendReply_sendsTo socket 0 rfl (agree_store _ _ (by simp))
  · exact TCPServer.sendReply_sendsTo socket 0 rfl
      ((agree_store _ _ (by simp)).trans (agree_store _ _ (by simp)))
  · exact Or.inl rfl
  · exact Or.inl rfl

namespace TCPClient

open TCPHeader

theorem sendReply_sendsTo (client : TCPClient) (length : UInt16) (ether : EtherSia) :
    SendsTo (source ether.buffer) ether (client.send length true ether).2 := by
  have sends : SendsTo (source ether.buffer) ether
      (ether.prepareReply.modifyPacket fun packet =>
        let packet := setDataOffset packet 0x60
        let packet := setPayloadLength packet (receiveHeaderLen packet + length)
        client.fillTCPHeader packet).send := by
    apply sendsTo_prepareReply
    · rfl
    · exact Agree.refl _ _ _
    · intro packet
      apply (client.fillTCPHeader_agree _ (by decide)).trans
      exact (agree_store _ _ (by simp)).trans (agree_store _ _ (by simp))
  unfold send sendInternal
  split
  · exact sends
  · exact sends

theorem tcpSendNoDataReply_sendsTo (client : TCPClient) (flags : UInt8)
    (ether : EtherSia) :
    SendsTo (source ether.buffer) ether (client.tcpSendNoDataReply flags ether) := by
  have sends : SendsTo (source ether.buffer) ether
      ((ether.modifyPacket fun packet => setFlags packet flags).prepareReply.modifyPacket
        fun packet =>
          let packet := setDataOffset packet 0x50
          let packet := setPayloadLength packet (receiveHeaderLen packet)
          client.fillTCPHeader packet).send := by
    apply sendsTo_prepareReply
    · rfl
    · exact agree_store _ _ (by simp)
    · intro packet
      apply (client.fillTCPHeader_agree _ (by decide)).trans
      exact (agree_store _ _ (by simp)).trans (agree_store _ _ (by simp))
  exact sends

theorem resetReply_sendsTo (client : TCPClient) (ether : EtherSia) :
    SendsTo (source ether.buffer) ether (client.resetReply ether) := by
  unfold resetReply
  split
  · exact Or.inl rfl
  · apply sendsTo_prepareReply
    · rfl
    · exact agree_store _ _ (by simp)
    · intro packet
      apply (storeChecksum_agree _ (Or.inl (by decide))).trans
      repeat apply (agree_store _ _ (by simp)).trans
      exact Agree.refl _ _ _

theorem tcpResend_sendsTo (client : TCPClient) (flags dataOffset : UInt8)
    (ether : EtherSia) :
    SendsTo client.remoteAddress ether (client.tcpResend flags dataOffset ether) := by
  refine Or.inr ⟨rfl, ?_⟩
  let flagged := ether.modifyPacket fun packet =>
    setDataOffset (setFlags packet flags) dataOffset
  let addressed := setEtherDestination
    (setDestination flagged.prepareSend.buffer client.remoteAddress) client.remoteMac
  have filled : Agree (client.fillTCPHeader
      (setPayloadLength addressed (receiveHeaderLen addressed))) addressed 38 54 :=
    (client.fillTCPHeader_agree _ (by decide)).trans (agree_store _ _ (by simp))
  have isAddressed : destination addressed = client.remoteAddress := by
    simp [addressed]
  exact (destination_congr filled).trans isAddressed

theorem checkForRetransmit_sendsTo (client : TCPClient) (ether : EtherSia) :
    SendsTo client.remoteAddress ether (client.checkForRetransmit ether).2 := by
  apply checkForRetransmit_ether_cases
  · exact Or.inl rfl
  · intro other flags dataOffset same
    have sends := other.tcpResend_sendsTo flags dataOffset ether
    rwa [same] at sends
  · exact Or.inl rfl

/-- Whatever a call does with a packet from the peer goes back to where it came from. -/
theorem poll_sendsTo (client : TCPClient) (clock : HavePacketClock) {ether : EtherSia}
    (fromPeer : source ether.buffer = client.remoteAddress) :
    SendsTo (source ether.buffer) ether (client.poll clock ether).2 := by
  have checks (other : TCPClient) (same : other.toSocket = client.toSocket) :
      SendsTo (source ether.buffer) ether (other.checkForRetransmit ether).2 := by
    rw [fromPeer, ← congrArg Socket.remoteAddress same]
    exact other.checkForRetransmit_sendsTo ether
  have sameSocket := client.ticked_toSocket clock
  refine poll_cases client clock ether
    (motive := fun after => SendsTo (source ether.buffer) ether after.2) ?_ ?_ ?_ ?_
  · exact fun _ => Or.inl rfl
  · intro _ _ _
    apply foundSegment_ether_cases
    · exact Or.inl rfl
    · exact fun other flags => other.tcpSendNoDataReply_sendsTo flags ether
    · exact fun other => other.resetReply_sendsTo ether
    · exact fun other same => checks other (same.trans sameSocket)
  · exact fun _ _ _ => resetReply_sendsTo _ ether
  · exact fun _ _ _ => checks _ sameSocket

end TCPClient

/-! ### The headers of a packet received -/

/-- The flag stays set only over headers that have been left alone. -/
def KeepsHeaders (before after : EtherSia) : Prop :=
  after.bufferContainsReceived = true →
    before.bufferContainsReceived = true ∧ Agree after.buffer before.buffer 0 54

theorem keepsHeaders_refl (ether : EtherSia) : KeepsHeaders ether ether :=
  fun flag => ⟨flag, Agree.refl _ _ _⟩

theorem keepsHeaders_of_cleared {before after : EtherSia}
    (cleared : after.bufferContainsReceived = false) : KeepsHeaders before after := by
  intro flag
  rw [cleared] at flag
  cases flag

theorem keepsHeaders_store (ether : EtherSia) {address : Nat} (bytes : List UInt8)
    (behind : 54 ≤ address) :
    KeepsHeaders ether (ether.modifyPacket fun packet => store packet address bytes) :=
  fun flag => ⟨flag, agree_store _ _ (Or.inl behind)⟩

theorem EtherSia.rejectPacket_keepsHeaders (ether : EtherSia) :
    KeepsHeaders ether ether.rejectPacket := by
  unfold rejectPacket
  split_ifs
  · exact keepsHeaders_refl ether
  · exact keepsHeaders_refl ether
  · exact keepsHeaders_of_cleared rfl
  · exact keepsHeaders_of_cleared rfl
  · exact keepsHeaders_refl ether
  · exact keepsHeaders_of_cleared rfl

theorem TCPServer.havePacket_keepsHeaders (socket : Socket) (randomNumber : UInt32)
    (ether : EtherSia) :
    KeepsHeaders ether (TCPServer.havePacket socket randomNumber ether).2.2 := by
  unfold TCPServer.havePacket
  dsimp only
  split_ifs
  · exact keepsHeaders_refl ether
  · exact keepsHeaders_refl ether
  · exact keepsHeaders_refl ether
  · exact keepsHeaders_refl ether
  · exact keepsHeaders_of_cleared rfl
  · exact keepsHeaders_of_cleared rfl
  · exact keepsHeaders_store ether [0] (by decide)
  · exact keepsHeaders_refl ether

namespace TCPClient

theorem resetReply_keepsHeaders (client : TCPClient) (ether : EtherSia) :
    KeepsHeaders ether (client.resetReply ether) := by
  unfold resetReply
  split
  · exact keepsHeaders_refl ether
  · exact keepsHeaders_of_cleared rfl

theorem checkForRetransmit_keepsHeaders (client : TCPClient) (ether : EtherSia) :
    KeepsHeaders ether (client.checkForRetransmit ether).2 := by
  apply checkForRetransmit_ether_cases
  · exact keepsHeaders_refl ether
  · exact fun _ _ _ _ => keepsHeaders_of_cleared rfl
  · exact keepsHeaders_store ether [TCP_FLAG_ACK] (by decide)

theorem poll_keepsHeaders (client : TCPClient) (clock : HavePacketClock)
    (ether : EtherSia) : KeepsHeaders ether (client.poll clock ether).2 := by
  refine poll_cases client clock ether
    (motive := fun after => KeepsHeaders ether after.2) ?_ ?_ ?_ ?_
  · exact fun _ => keepsHeaders_refl ether
  · intro _ _ _
    apply foundSegment_ether_cases
    · exact keepsHeaders_refl ether
    · exact fun _ _ => keepsHeaders_of_cleared rfl
    · exact fun other => other.resetReply_keepsHeaders ether
    · exact fun other _ => other.checkForRetransmit_keepsHeaders ether
  · exact fun _ _ _ => resetReply_keepsHeaders _ ether
  · exact fun _ _ _ => checkForRetransmit_keepsHeaders _ ether

theorem send_cleared (client : TCPClient) (length : UInt16) (isReply : Bool)
    (ether : EtherSia) :
    (client.send length isReply ether).2.bufferContainsReceived = false := by
  unfold send sendInternal
  split
  · rfl
  · rfl

end TCPClient

/-! ### One step -/

variable {ι : Type} [DecidableEq ι]

theorem Station.step_keepsHeaders {taken : Taken (Station ι) (StationEvent ι)}
    (stepped : taken.before.step taken.event = some taken.after)
    (other : ∀ frame, taken.event ≠ .receivePacket frame) :
    KeepsHeaders taken.before.ether taken.after.ether := by
  obtain ⟨before, event, after⟩ := taken
  change before.step event = some after at stepped
  cases event with
  | receivePacket frame => exact absurd rfl (other frame)
  | rejectPacket =>
      cases stepped
      exact EtherSia.rejectPacket_keepsHeaders before.ether
  | tcpSendRSTReply =>
      cases stepped
      exact keepsHeaders_of_cleared rfl
  | icmp6SendNS target source =>
      cases stepped
      exact keepsHeaders_of_cleared rfl
  | icmp6SendRS =>
      cases stepped
      exact keepsHeaders_of_cleared rfl
  | configure globalAddress dnsServerAddress routerMac autoConfigurationEnabled =>
      cases stepped
      exact fun flag => ⟨flag, Agree.refl _ _ _⟩
  | writePayload offset bytes =>
      cases stepped
      exact keepsHeaders_store before.ether bytes (Nat.le_add_right 54 offset)
  | udpSend socket length isReply =>
      cases stepped
      exact keepsHeaders_of_cleared rfl
  | serverHavePacket socket randomNumber =>
      cases stepped
      exact TCPServer.havePacket_keepsHeaders socket randomNumber before.ether
  | serverSend socket length isReply =>
      cases stepped
      exact keepsHeaders_of_cleared rfl
  | setRemoteAddress index socket =>
      cases stepped
      exact keepsHeaders_refl before.ether
  | connect index randomNumber now =>
      cases stepped
      exact keepsHeaders_of_cleared
        (TCPClient.connect_transmits _ randomNumber now before.ether).received
  | clientHavePacket index clock =>
      cases stepped
      exact TCPClient.poll_keepsHeaders _ clock before.ether
  | clientSend index length isReply =>
      cases stepped
      exact keepsHeaders_of_cleared
        (TCPClient.send_cleared _ length isReply before.ether)

/-- The step is a call that answers the packet in the buffer, where it sends at all. -/
def Answers (taken : Taken (Station ι) (StationEvent ι)) : Prop :=
  match taken.event with
  | .receivePacket _ => True
  | .rejectPacket => True
  | .tcpSendRSTReply => True
  | .udpSend _ _ isReply => isReply = true
  | .serverHavePacket _ _ => True
  | .serverSend _ _ isReply => isReply = true
  | .clientHavePacket index _ =>
      (taken.before.clients index).OfConnection taken.before.ether ∨
        (taken.before.clients index).TakenForOld taken.before.ether
  | .clientSend _ _ isReply => isReply = true
  | _ => False

theorem Station.step_sendsTo {taken : Taken (Station ι) (StationEvent ι)}
    (stepped : taken.before.step taken.event = some taken.after)
    (other : ∀ frame, taken.event ≠ .receivePacket frame) (answers : Answers taken) :
    SendsTo (source taken.before.ether.buffer) taken.before.ether taken.after.ether := by
  obtain ⟨before, event, after⟩ := taken
  change before.step event = some after at stepped
  cases event with
  | receivePacket frame => exact absurd rfl (other frame)
  | rejectPacket =>
      cases stepped
      exact EtherSia.rejectPacket_sendsTo before.ether
  | tcpSendRSTReply =>
      cases stepped
      exact EtherSia.tcpSendRSTReply_sendsTo before.ether
  | icmp6SendNS target source => exact answers.elim
  | icmp6SendRS => exact answers.elim
  | configure globalAddress dnsServerAddress routerMac autoConfigurationEnabled =>
      exact answers.elim
  | writePayload offset bytes => exact answers.elim
  | udpSend socket length isReply =>
      cases stepped
      cases (show isReply = true from answers)
      exact UDPSocket.sendReply_sendsTo socket length before.ether
  | serverHavePacket socket randomNumber =>
      cases stepped
      exact TCPServer.havePacket_sendsTo socket randomNumber before.ether
  | serverSend socket length isReply =>
      cases stepped
      cases (show isReply = true from answers)
      exact TCPServer.sendReply_sendsTo socket length rfl (Agree.refl _ _ _)
  | setRemoteAddress index socket => exact answers.elim
  | connect index randomNumber now => exact answers.elim
  | clientHavePacket index clock =>
      cases stepped
      have fromPeer : source before.ether.buffer =
          (before.clients index).remoteAddress := by
        rcases answers with ours | old
        · exact ours.fromPeer
        · exact old.fromPeer
      exact TCPClient.poll_sendsTo _ clock fromPeer
  | clientSend index length isReply =>
      cases stepped
      cases (show isReply = true from answers)
      exact TCPClient.sendReply_sendsTo _ length before.ether

/-! ### Since the packet was accepted -/

/-- Where the step answers the packet accepted last, it sends to `address` alone. -/
def AnswersTo (address : IPv6Address) (taken : Taken (Station ι) (StationEvent ι)) : Prop :=
  Answers taken →
    (∃ frame, taken.event = .receivePacket frame) ∨
        taken.before.ether.bufferContainsReceived = true →
      SendsTo address taken.before.ether taken.after.ether

theorem dispatchReceived_keepsHeaders {ether after : EtherSia} {len result : UInt16}
    (returned : ether.dispatchReceived len = some (result, after)) :
    KeepsHeaders ether after := by
  unfold EtherSia.dispatchReceived at returned
  split at returned
  · obtain ⟨⟨handled, processed⟩, walked, same⟩ := Option.map_eq_some_iff.mp returned
    have afterSame : processed = after := by
      cases handled <;> exact (Prod.mk.inj same).2
    subst afterSame
    unfold EtherSia.icmp6ProcessPacket at walked
    split_ifs at walked with notOurs isSolicitation isEcho isRouter
    · cases walked
      exact keepsHeaders_refl ether
    · cases walked
      unfold EtherSia.icmp6NSReply
      dsimp only
      split
      · exact keepsHeaders_refl ether
      · exact keepsHeaders_of_cleared rfl
    · cases walked
      exact keepsHeaders_of_cleared rfl
    · obtain ⟨advertised, advertises, same⟩ := Option.map_eq_some_iff.mp walked
      cases same
      obtain ⟨_, _, _, rfl⟩ := EtherSia.icmp6ProcessRA_configuresOnly advertises
      exact fun flag => ⟨flag, Agree.refl _ _ _⟩
    · cases walked
      exact keepsHeaders_refl ether
  · cases returned
    exact keepsHeaders_refl ether

/-- Every frame sent in answer to an accepted packet, by whatever is called until the
next one is received, goes to the source address of that packet. -/
theorem run_answers_source {station : Station ι} {frame : Frame}
    (accepts : station.ether.Accepts frame) {events : List (StationEvent ι)}
    (others : ∀ event ∈ events, ∀ other, event ≠ .receivePacket other) :
    Always Station.step station (.receivePacket frame :: events)
      (AnswersTo (source (station.ether.accepted frame).buffer)) := by
  cases stepped : station.step (.receivePacket frame) with
  | none => simp [Always, trace, stepped]
  | some next =>
      obtain ⟨⟨len, received⟩, returned, rfl⟩ := Option.map_eq_some_iff.mp stepped
      rw [EtherSia.receivePacket_of_accepts accepts] at returned
      refine (always_cons_of_step stepped events _).mpr ⟨fun _ _ => ?_, ?_⟩
      · exact EtherSia.dispatchReceived_sendsTo returned
      · have noReceive : Always Station.step { station with ether := received } events
            (fun taken => ∀ other, taken.event ≠ .receivePacket other) :=
          fun taken member => others _ (event_mem_of_mem_trace member)
        refine always_of_invariant (fun behind : Station ι =>
          behind.ether.bufferContainsReceived = true →
            source behind.ether.buffer = source (station.ether.accepted frame).buffer)
          ?_ ?_ ?_ noReceive
        · intro taken stepped sameSource other flag
          obtain ⟨wasSet, same⟩ := Station.step_keepsHeaders stepped other flag
          exact (source_congr (same.mono (by decide) (by decide))).trans (sameSource wasSet)
        · intro taken stepped sameSource other answers isSet
          have wasSet := isSet.resolve_left (not_exists.mpr other)
          rw [← sameSource wasSet]
          exact Station.step_sendsTo stepped other answers
        · intro flag
          obtain ⟨_, same⟩ := dispatchReceived_keepsHeaders returned flag
          exact source_congr (same.mono (by decide) (by decide))

/-- The solicitation that a node sends before it takes the station's own address, from
the unspecified address. -/
def exampleDetection : Frame where
  octets := [0x33, 0x33, 0xff, 0, 0, 1, 2, 0, 0, 0, 0, 2, 0x86, 0xdd,
    0x60, 0, 0, 0, 0, 24, 58, 255,
    0, 0, 0, 0, 0, 0, 0, 0, 0, 0, 0, 0, 0, 0, 0, 0,
    0xff, 2, 0, 0, 0, 0, 0, 0, 0, 0, 0, 1, 0xff, 0, 0, 1,
    135, 0, 0x7d, 0x25, 0, 0, 0, 0,
    0xfe, 0x80, 0, 0, 0, 0, 0, 0, 0, 0, 0, 0xff, 0xfe, 0, 0, 1]
  fits := by decide

/-- The advertisement in answer to it goes to the unspecified address. -/
theorem detection_answered_to_unspecified :
    exampleStation.ether.Accepts exampleDetection ∧
      ¬ Always Station.step exampleStation [.receivePacket exampleDetection] fun taken =>
        taken.after.ether.sent = taken.before.ether.sent ∨
          (destination taken.after.ether.buffer).isMulticast = false ∧
            (destination taken.after.ether.buffer).isZero = false := by
  have accepts : exampleStation.ether.Accepts exampleDetection :=
    ⟨by decide, by decide +kernel⟩
  have sends : (exampleStation.step (.receivePacket exampleDetection)).map
      (fun station => (station.ether.sent.length,
        (destination station.ether.buffer).isZero)) = some (1, true) := by
    decide +kernel
  obtain ⟨after, stepped, outcome⟩ := Option.map_eq_some_iff.mp sends
  obtain ⟨count, unspecified⟩ := Prod.mk.inj outcome
  refine ⟨accepts, fun always => ?_⟩
  obtain ⟨silent | ⟨_, notZero⟩, _⟩ := (always_cons_of_step stepped [] _).mp always
  · have none : after.ether.sent.length = 0 := congrArg List.length silent
    rw [count] at none
    cases none
  · rw [unspecified] at notZero
    cases notZero

theorem run_answers_source_detection :
    Always Station.step exampleStation [.receivePacket exampleDetection, .rejectPacket]
      (AnswersTo (source (exampleStation.ether.accepted exampleDetection).buffer)) := by
  refine run_answers_source ⟨by decide, by decide +kernel⟩ ?_
  intro event member
  rw [List.mem_singleton.mp member]
  exact nofun

end EtherSiaStack
