/-
The two resets that answer a segment.

`tcpSendRSTReply` answers a segment for which there is no connection, the label
`reset` of a client one that does not fit its connection.  Both are made in place over
the segment.  The first leaves the sequence number 0 and acknowledges one byte
whatever the segment was; the second takes the destination port from the socket, and
stores it with its bytes the other way round.
-/

import EtherSiaStack.Responses
import EtherSiaStack.SharedBuffer

namespace EtherSiaStack

open ByteMemory IPv6Packet TCPHeader

/-! ### A reset for a segment without a connection -/

/-- The bytes a segment takes of the sequence numbers: its data, a SYN and a FIN. -/
def segmentLength (packet : Memory) : Nat :=
  (TCPClient.payloadLength packet).toNat +
    (if hasFlag (flags packet) TCP_FLAG_SYN then 1 else 0) +
    (if hasFlag (flags packet) TCP_FLAG_FIN then 1 else 0)

theorem segmentLength_lt (packet : Memory) : segmentLength packet < 65538 := by
  have bound := (TCPClient.payloadLength packet).toNat_lt
  unfold segmentLength
  split_ifs <;> omega

/-- The numbers of the reset are those the sender of the segment has to accept. -/
def MustAccept (segment reset : Memory) : Prop :=
  if hasFlag (flags segment) TCP_FLAG_ACK then
    sequenceNum reset = acknowledgementNum segment
  else
    sequenceNum reset = 0 ∧
      acknowledgementNum reset =
        sequenceNum segment + UInt32.ofNat (segmentLength segment)

/-- The call sends one frame, a reset that the sender of the segment has to accept. -/
structure SendsAcceptableReset (before after : EtherSia) : Prop where
  sent : after.sent = before.sent ++ [packetOctets after.buffer]
  isReset : hasFlag (flags after.buffer) TCP_FLAG_RST = true
  mustAccept : MustAccept before.buffer after.buffer

/-- The segment is one for which sequence number 0 and one byte acknowledged are right. -/
def FitsFixedReset (segment : Memory) : Prop :=
  if hasFlag (flags segment) TCP_FLAG_ACK then acknowledgementNum segment = 0
  else segmentLength segment = 1

theorem tcpSendRSTReply_numbers (ether : EtherSia) :
    let reset := ether.tcpSendRSTReply.buffer
    flags reset = TCP_FLAG_ACK ||| TCP_FLAG_RST ∧ sequenceNum reset = 0 ∧
      acknowledgementNum reset = sequenceNum ether.buffer + 1 := by
  refine ⟨?_, ?_, ?_⟩
  all_goals
    simp [EtherSia.tcpSendRSTReply, EtherSia.send, EtherSia.modifyPacket, storeChecksum,
      checksumAddress]

theorem ofNat_segmentLength_eq_one_iff (packet : Memory) :
    UInt32.ofNat (segmentLength packet) = 1 ↔ segmentLength packet = 1 := by
  have bound := segmentLength_lt packet
  rw [← UInt32.toNat_inj, UInt32.toNat_ofNat']
  change segmentLength packet % 4294967296 = 1 ↔ _
  omega

/-- The reset for a segment is one its sender has to accept exactly when the segment
acknowledges 0, or acknowledges nothing and takes one sequence number. -/
theorem tcpSendRSTReply_accepted_iff (ether : EtherSia) :
    SendsAcceptableReset ether ether.tcpSendRSTReply ↔ FitsFixedReset ether.buffer := by
  obtain ⟨isFlags, isZero, isNext⟩ := tcpSendRSTReply_numbers ether
  have mustAccept_iff : MustAccept ether.buffer ether.tcpSendRSTReply.buffer ↔
      FitsFixedReset ether.buffer := by
    unfold MustAccept FitsFixedReset
    rw [isZero, isNext]
    split
    · exact eq_comm
    · rw [and_iff_right rfl, add_right_inj, eq_comm]
      exact ofNat_segmentLength_eq_one_iff ether.buffer
  rw [← mustAccept_iff]
  refine ⟨SendsAcceptableReset.mustAccept, fun accepts => ⟨rfl, ?_, accepts⟩⟩
  rw [isFlags]
  decide

/-- Data of a connection that the station knows nothing of is answered with sequence
number 0 and not with the number it acknowledges. -/
theorem tcpSendRSTReply_ignored :
    ¬ ∀ (ether : EtherSia) (frame : Frame), ether.Accepts frame →
      protocol (ether.accepted frame).buffer = IP6_PROTO_TCP →
        hasFlag (flags (ether.accepted frame).buffer) TCP_FLAG_RST = false →
          SendsAcceptableReset (ether.accepted frame)
            (ether.accepted frame).tcpSendRSTReply := by
  intro accepts
  have sends := accepts exampleStation.ether dataSecond
    ⟨by decide, by decide +kernel⟩ (by decide +kernel) (by decide +kernel)
  have acknowledges : hasFlag
      (flags (exampleStation.ether.accepted dataSecond).buffer) TCP_FLAG_ACK = true ∧
        acknowledgementNum (exampleStation.ether.accepted dataSecond).buffer = 2001 := by
    decide +kernel
  have number := sends.mustAccept
  rw [MustAccept, if_pos acknowledges.1, acknowledges.2,
    (tcpSendRSTReply_numbers _).2.1] at number
  exact absurd number (by decide)

/-! ### A reset from a client -/

namespace TCPClient

/-- `havePacket` comes to its label `reset`: the segment is taken for an old one, or
is no answer to our SYN. -/
inductive ReachesReset (client : TCPClient) (ether : EtherSia) : Prop
  | old (old : client.TakenForOld ether)
  | failed (ours : client.OfConnection ether)
      (noReset : hasFlag (flags ether.buffer) TCP_FLAG_RST = false)
      (expected : client.testsSequence ether.buffer = true →
        sequenceNum ether.buffer = client.remoteSeqNum)
      (waiting : client.state = .waitSynAck)
      (unacknowledged : ¬ client.Acknowledges ether.buffer)

theorem waitSynAckSegment_of_unacknowledged {client : TCPClient} {ether : EtherSia}
    (fresh : client.appliFlags.ackData = false) :
    ∃ failed : TCPClient, failed.toSocket = client.toSocket ∧
      (client.waitSynAckSegment ether).2 = failed.resetReply ether := by
  unfold waitSynAckSegment
  rw [fresh, if_neg fun both => Bool.false_ne_true both.1]
  exact ⟨_, rfl, rfl⟩

/-- At its label `reset` the call answers with a reset from the socket of the client. -/
theorem poll_of_reachesReset {client : TCPClient} (active : client.Active)
    (clock : HavePacketClock) {ether : EtherSia}
    (received : ether.bufferContainsReceived = true)
    (reaches : client.ReachesReset ether) :
    ∃ resetting : TCPClient, resetting.toSocket = client.toSocket ∧
      (client.poll clock ether).2 = resetting.resetReply ether := by
  have sameSocket := client.ticked_toSocket clock
  rw [poll_of_active active]
  cases reaches with
  | old old =>
      rw [dispatchPacket_of_takenForOld received (old.of_toSocket sameSocket)]
      exact ⟨_, sameSocket, rfl⟩
  | failed ours noReset expected waiting unacknowledged =>
      let counted := (client.ticked clock).counted
      have isWaiting : counted.state = .waitSynAck :=
        (client.ticked_state clock).trans waiting
      have fresh : counted.appliFlags.ackData = false := by
        obtain ⟨reset, isFresh⟩ := client.ticked_appliFlags clock
        change (client.ticked clock).appliFlags.ackData = false
        rw [isFresh]
        rfl
      have notAcknowledges : ¬ counted.Acknowledges ether.buffer := by
        rintro ⟨isAck, outstanding, number⟩
        refine unacknowledged ⟨isAck, ?_, ?_⟩
        · rwa [← client.ticked_unAckLen clock]
        · rwa [← client.ticked_unAckLen clock, ← client.ticked_localSeqNum clock]
      have notUnexpected : ¬ (counted.testsSequence ether.buffer ∧
          sequenceNum ether.buffer ≠ counted.remoteSeqNum) := by
        rintro ⟨tested, differs⟩
        have sameTest : counted.testsSequence ether.buffer =
            client.testsSequence ether.buffer := by
          obtain ⟨_, _, _, _, ticks⟩ := client.ticked_eq clock
          simp only [counted, TCPClient.counted, ticks]
          rfl
        rw [sameTest] at tested
        exact differs ((expected tested).trans (client.ticked_remoteSeqNum clock).symm)
      rw [dispatchPacket_of_ofConnection received (ours.of_toSocket sameSocket)]
      unfold foundSegment
      rw [noReset, if_neg Bool.false_ne_true, if_neg notUnexpected,
        ackTest_of_not_acknowledges notAcknowledges]
      dsimp only
      rw [isWaiting]
      obtain ⟨failed, same, resets⟩ := waitSynAckSegment_of_unacknowledged fresh
      exact ⟨failed, same.trans sameSocket, resets⟩

/-- What the answer to a segment at the label `reset` should be: none to a reset, else
one reset back to where the segment came from. -/
def AnswersWithReset (before after : EtherSia) : Prop :=
  if hasFlag (flags before.buffer) TCP_FLAG_RST then after.sent = before.sent
  else
    after.sent = before.sent ++ [packetOctets after.buffer] ∧
      hasFlag (flags after.buffer) TCP_FLAG_RST = true ∧
        sourcePort after.buffer = destinationPort before.buffer ∧
          destinationPort after.buffer = sourcePort before.buffer ∧
            sequenceNum after.buffer = acknowledgementNum before.buffer ∧
              destination after.buffer = source before.buffer ∧
                etherDestination after.buffer = etherSource before.buffer

theorem htons_eq_self_iff (port : UInt16) :
    htons port = port ↔ high16 port = low16 port := by
  have high := high16_toNat port
  have low := low16_toNat port
  have bound := port.toNat_lt
  have swapped : (htons port).toNat = (low16 port).toNat * 256 + (high16 port).toNat :=
    be16_toNat _ _
  rw [← UInt16.toNat_inj, ← UInt8.toNat_inj, swapped, high, low]
  omega

theorem resetReply_fields (client : TCPClient) {ether : EtherSia}
    (noReset : hasFlag (flags ether.buffer) TCP_FLAG_RST = false) :
    let reset := (client.resetReply ether).buffer
    flags reset = TCP_FLAG_RST ||| TCP_FLAG_ACK ∧
      sourcePort reset = destinationPort ether.buffer ∧
        destinationPort reset = htons client.remotePort ∧
          sequenceNum reset = acknowledgementNum ether.buffer ∧
            destination reset = source ether.buffer ∧
              etherDestination reset = etherSource ether.buffer := by
  unfold resetReply
  rw [noReset, if_neg Bool.false_ne_true]
  refine ⟨?_, ?_, ?_, ?_, ?_, ?_⟩
  all_goals
    simp [EtherSia.send, EtherSia.modifyPacket, EtherSia.prepareReply, storeChecksum,
      checksumAddress]

theorem ReachesReset.remotePort {client : TCPClient} {ether : EtherSia}
    (reaches : client.ReachesReset ether) :
    sourcePort ether.buffer = client.remotePort := by
  cases reaches with
  | old old => exact old.remotePort
  | failed ours => exact ours.remotePort

/-- A segment that leads to the label `reset` is answered as it should be exactly when
it is a reset itself or comes from a port with two equal bytes. -/
theorem havePacket_answers_with_reset_iff {client : TCPClient} (active : client.Active)
    (clock : HavePacketClock) {ether : EtherSia}
    (received : ether.bufferContainsReceived = true)
    (reaches : client.ReachesReset ether) :
    AnswersWithReset ether (client.havePacket clock ether).2.2 ↔
      hasFlag (flags ether.buffer) TCP_FLAG_RST = true ∨
        high16 (sourcePort ether.buffer) = low16 (sourcePort ether.buffer) := by
  obtain ⟨resetting, sameSocket, answered⟩ :=
    poll_of_reachesReset active clock received reaches
  have answer : (client.havePacket clock ether).2.2 = resetting.resetReply ether :=
    answered
  have samePort : resetting.remotePort = sourcePort ether.buffer :=
    (congrArg Socket.remotePort sameSocket).trans reaches.remotePort.symm
  rw [answer]
  unfold AnswersWithReset
  cases isReset : hasFlag (flags ether.buffer) TCP_FLAG_RST with
  | true =>
      rw [resetReply_of_rst isReset, if_pos rfl]
      exact iff_of_true rfl (Or.inl rfl)
  | false =>
      obtain ⟨isFlags, fromPort, toPort, number, toSource, toSender⟩ :=
        resetReply_fields resetting isReset
      have sent : (resetting.resetReply ether).sent =
          ether.sent ++ [packetOctets (resetting.resetReply ether).buffer] := by
        unfold resetReply
        rw [isReset, if_neg Bool.false_ne_true]
        rfl
      rw [if_neg Bool.false_ne_true, or_iff_right Bool.false_ne_true,
        ← htons_eq_self_iff, ← samePort, ← toPort, samePort]
      refine ⟨fun answers => answers.2.2.2.1, fun same => ?_⟩
      refine ⟨sent, ?_, fromPort, same, number, toSource, toSender⟩
      rw [isFlags]
      decide

end TCPClient

/-! A client that has sent its SYN, and data that the server sends to another port. -/

def openingClient : TCPClient × EtherSia :=
  (TCPClient.construct (exampleServerSocket 20000)).connect 1000 0 exampleStation.ether

def oldSegment : EtherSia :=
  openingClient.2.accepted dataSecond

theorem oldSegment_reachesReset : openingClient.1.ReachesReset oldSegment :=
  .old {
    toUs := by decide +kernel
    fromPeer := by decide +kernel
    isTcp := by decide +kernel
    remotePort := by decide +kernel
    otherPort := by decide +kernel
    noSyn := by decide +kernel }

/-- The reset for a segment from port 80 goes to port 20480. -/
theorem havePacket_resets_other_port :
    openingClient.2.Accepts dataSecond ∧
      ¬ TCPClient.AnswersWithReset oldSegment
        (openingClient.1.havePacket (clockAt 1) oldSegment).2.2 := by
  refine ⟨⟨by decide, by decide +kernel⟩, fun answers => ?_⟩
  have noReset : hasFlag (flags oldSegment.buffer) TCP_FLAG_RST = false := by
    decide +kernel
  have ports : destinationPort
      (openingClient.1.havePacket (clockAt 1) oldSegment).2.2.buffer = 20480 ∧
        sourcePort oldSegment.buffer = 80 := by
    decide +kernel
  rw [TCPClient.AnswersWithReset, noReset, if_neg Bool.false_ne_true] at answers
  have samePort := answers.2.2.2.1
  rw [ports.1, ports.2] at samePort
  exact absurd samePort (by decide)

theorem havePacket_answers_with_reset_iff_old :
    TCPClient.AnswersWithReset oldSegment
        (openingClient.1.havePacket (clockAt 1) oldSegment).2.2 ↔
      hasFlag (flags oldSegment.buffer) TCP_FLAG_RST = true ∨
        high16 (sourcePort oldSegment.buffer) = low16 (sourcePort oldSegment.buffer) :=
  TCPClient.havePacket_answers_with_reset_iff
    ⟨by decide +kernel, by decide +kernel⟩ (clockAt 1) rfl oldSegment_reachesReset

end EtherSiaStack
