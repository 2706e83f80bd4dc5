/-
The retransmission timer of a client, call by call.

A call of `havePacket` is quiet, in that it neither retransmits nor gives up, or it gets
to the retransmission check with the timer run out.  What either may do to the connection
and which frames it sends is said once; the bound on the retransmissions and the life of
the timer are derived from these cases.
-/

import EtherSiaStack.Segment

namespace EtherSiaStack

open ByteMemory IPv6Packet

/-! ### Frames and their flags -/

/-- The flags byte of a frame that carries a TCP segment. -/
def frameFlags (octets : List UInt8) : UInt8 :=
  TCPHeader.flags (ofOctets octets)

/-- One frame is sent, with the headers of the packet in the buffer. -/
def SendsBuffer (before after : EtherSia) : Prop :=
  ∃ octets, after.sent = before.sent ++ [octets] ∧ Agree (ofOctets octets) after.buffer 0 68

/-- One frame is sent, and these are its flags. -/
def SendsFlags (flags : UInt8) (before after : EtherSia) : Prop :=
  ∃ octets, after.sent = before.sent ++ [octets] ∧ frameFlags octets = flags

theorem sendsBuffer_send {before ether : EtherSia} (same : ether.sent = before.sent)
    (long : 68 ≤ (length ether.buffer).toNat) : SendsBuffer before ether.send := by
  refine ⟨bytesAt ether.buffer 0 (length ether.buffer).toNat, ?_, ?_⟩
  · rw [← same]
    rfl
  · exact (ofOctets_bytesAt ether.buffer (length ether.buffer).toNat).mono le_rfl long

theorem SendsBuffer.sendsFlags {before after : EtherSia} {flags : UInt8}
    (sends : SendsBuffer before after) (isFlags : TCPHeader.flags after.buffer = flags) :
    SendsFlags flags before after := by
  obtain ⟨octets, sent, agree⟩ := sends
  exact ⟨octets, sent, (agree 67 (by decide) (by decide)).trans isFlags⟩

namespace TCPClient

open TCPHeader

theorem tcpSendNoData_flags (client : TCPClient) (ether : EtherSia) :
    flags (client.tcpSendNoData ether).buffer = flags ether.buffer := by
  let sized := setPayloadLength ether.buffer (receiveHeaderLen ether.buffer)
  have sameFlags : flags (client.fillTCPHeader sized) = flags ether.buffer := by
    rw [(client.fillTCPHeader_hasHeader sized).flags]
    simp [headerOf, sized]
  exact sameFlags

theorem tcpSendNoData_sendsBuffer (client : TCPClient) {before ether : EtherSia}
    {headerLen : UInt16} (isLen : receiveHeaderLen ether.buffer = headerLen)
    (bounds : 14 ≤ headerLen.toNat ∧ headerLen.toNat ≤ 60)
    (same : ether.sent = before.sent) :
    SendsBuffer before (client.tcpSendNoData ether) := by
  let sized := setPayloadLength ether.buffer (receiveHeaderLen ether.buffer)
  let filled := ether.modifyPacket fun packet =>
    client.fillTCPHeader (setPayloadLength packet (receiveHeaderLen packet))
  have sizedLength : IPv6Packet.payloadLength (client.fillTCPHeader sized) = headerLen := by
    rw [fillTCPHeader_payloadLength]
    simpa [sized] using isLen
  have sizedEnd : packetEnd (client.fillTCPHeader sized) = 54 + headerLen.toNat := by
    rw [← sizedLength]
    rfl
  have long : 68 ≤ (length filled.buffer).toNat := by
    change 68 ≤ (length (client.fillTCPHeader sized)).toNat
    rw [length_toNat (by omega)]
    omega
  have sends : SendsBuffer before filled.send := sendsBuffer_send same long
  exact sends

theorem tcpSendNoDataReply_flags (client : TCPClient) (value : UInt8) (ether : EtherSia) :
    flags (client.tcpSendNoDataReply value ether).buffer = value := by
  let flagged := ether.modifyPacket fun packet => setFlags packet value
  have stored : flagged.buffer 67 = value := u8_store_self ether.buffer 67 value
  have kept : flags flagged.prepareReply.buffer = value :=
    (prepareReply_payload flagged 68 67 (by decide) (by decide)).trans stored
  have sameFlags : flags (setDataOffset flagged.prepareReply.buffer 0x50) =
      flags flagged.prepareReply.buffer := by simp
  unfold tcpSendNoDataReply
  rw [tcpSendNoData_flags]
  exact sameFlags.trans kept

theorem tcpSendNoDataReply_sendsFlags (client : TCPClient) (flags : UInt8)
    (ether : EtherSia) : SendsFlags flags ether (client.tcpSendNoDataReply flags ether) := by
  let flagged := ether.modifyPacket fun packet => setFlags packet flags
  have isLen := receiveHeaderLen_setDataOffset flagged.prepareReply.buffer 0x50
  have sends : SendsBuffer ether (client.tcpSendNoDataReply flags ether) :=
    client.tcpSendNoData_sendsBuffer isLen (by decide) rfl
  exact sends.sendsFlags (client.tcpSendNoDataReply_flags flags ether)

/-- The interface once `tcp_resend` has addressed the packet. -/
def resending (client : TCPClient) (flags dataOffset : UInt8) (ether : EtherSia) :
    EtherSia :=
  let flagged := ether.modifyPacket fun packet =>
    setDataOffset (setFlags packet flags) dataOffset
  flagged.prepareSend.modifyPacket fun packet =>
    setEtherDestination (setDestination packet client.remoteAddress) client.remoteMac

theorem tcpResend_eq (client : TCPClient) (flags dataOffset : UInt8) (ether : EtherSia) :
    client.tcpResend flags dataOffset ether =
      client.tcpSendNoData (client.resending flags dataOffset ether) :=
  rfl

theorem resending_sent (client : TCPClient) (flags dataOffset : UInt8)
    (ether : EtherSia) : (client.resending flags dataOffset ether).sent = ether.sent :=
  rfl

theorem resending_agree (client : TCPClient) (flags dataOffset : UInt8)
    (ether : EtherSia) :
    Agree (client.resending flags dataOffset ether).buffer
      (setDataOffset (setFlags ether.buffer flags) dataOffset) 54 1500 := by
  let flagged := ether.modifyPacket fun packet =>
    setDataOffset (setFlags packet flags) dataOffset
  have addressed : Agree (setEtherDestination (setDestination flagged.prepareSend.buffer
      client.remoteAddress) client.remoteMac) flagged.prepareSend.buffer 54 1500 :=
    (agree_store _ _ (by simp)).trans (agree_store _ _ (by simp))
  exact addressed.trans (prepareSend_payload flagged 1500)

theorem tcpResend_sendsBuffer (client : TCPClient) (flags dataOffset : UInt8)
    (bounds : 14 ≤ (((dataOffset &&& 0xF0) >>> 2).toUInt16).toNat ∧
      (((dataOffset &&& 0xF0) >>> 2).toUInt16).toNat ≤ 60) (ether : EtherSia) :
    SendsBuffer ether (client.tcpResend flags dataOffset ether) := by
  have kept := client.resending_agree flags dataOffset ether
  rw [tcpResend_eq]
  refine client.tcpSendNoData_sendsBuffer ?_ bounds
    (client.resending_sent flags dataOffset ether)
  rw [receiveHeaderLen_congr (kept.mono (by decide) (by decide)),
    receiveHeaderLen_setDataOffset]

theorem tcpResend_flags (client : TCPClient) (flags dataOffset : UInt8)
    (ether : EtherSia) :
    TCPHeader.flags (client.tcpResend flags dataOffset ether).buffer = flags := by
  have kept := client.resending_agree flags dataOffset ether
  have isFlags : TCPHeader.flags (setDataOffset (setFlags ether.buffer flags)
      dataOffset) = flags := by simp
  rw [tcpResend_eq, tcpSendNoData_flags]
  exact (kept 67 (by decide) (by decide)).trans isFlags

theorem resetReply_sendsFlags (client : TCPClient) (ether : EtherSia) :
    client.resetReply ether = ether ∨
      SendsFlags (TCP_FLAG_RST ||| TCP_FLAG_ACK) ether (client.resetReply ether) := by
  unfold resetReply
  split
  · exact Or.inl rfl
  · right
    dsimp only
    generalize built : EtherSia.modifyPacket _ _ = ready
    have isFlags : flags ready.buffer = TCP_FLAG_RST ||| TCP_FLAG_ACK := by
      rw [← built]
      simp [EtherSia.modifyPacket, EtherSia.prepareReply, storeChecksum, checksumAddress]
    have isLength : IPv6Packet.payloadLength ready.buffer = 20 := by
      rw [← built]
      simp [EtherSia.modifyPacket, storeChecksum, checksumAddress, receiveHeaderLen]
      rfl
    have sameSent : ready.sent = ether.sent := by
      rw [← built]
      rfl
    have endIs : packetEnd ready.buffer = 74 := by
      unfold packetEnd
      rw [isLength]
      rfl
    have long : 68 ≤ (length ready.buffer).toNat := by
      rw [length_toNat (by omega), endIs]
      decide
    exact (sendsBuffer_send sameSent long).sendsFlags isFlags

/-! ### A call that neither retransmits nor gives up -/

/-- The packet in the buffer keeps the call from the retransmission check although it
acknowledges nothing. -/
inductive SkipsCheck (client : TCPClient) (ether : EtherSia) : Prop
  | old (old : client.TakenForOld ether)
  | unexpected (ours : client.OfConnection ether)
      (noReset : hasFlag (flags ether.buffer) TCP_FLAG_RST = false)
      (tested : client.testsSequence ether.buffer = true)
      (number : sequenceNum ether.buffer ≠ client.remoteSeqNum)
  | data (ours : client.OfConnection ether)
      (noReset : hasFlag (flags ether.buffer) TCP_FLAG_RST = false)
      (connected : client.state = .connected)
      (noFin : hasFlag (flags ether.buffer) TCP_FLAG_FIN = false)
      (hasData : payloadLength ether.buffer > 0)
      (unacknowledged : ¬ client.Acknowledges ether.buffer)

/-- The packet in the buffer is the FIN of the peer, and nothing is outstanding behind its
acknowledgement. -/
structure AcceptsFin (client : TCPClient) (ether : EtherSia) : Prop where
  received : ether.bufferContainsReceived = true
  connected : client.state = .connected
  ours : client.OfConnection ether
  noReset : hasFlag (flags ether.buffer) TCP_FLAG_RST = false
  fin : hasFlag (flags ether.buffer) TCP_FLAG_FIN = true
  number : sequenceNum ether.buffer = client.remoteSeqNum
  settled : client.unAckLen = 0 ∨ client.Acknowledges ether.buffer

/-- What the tests on a received packet look at. -/
structure SameConnection (client other : TCPClient) : Prop where
  toSocket : other.toSocket = client.toSocket
  state : other.state = client.state
  timedOut : other.timedOut = client.timedOut
  remoteSeqNum : other.remoteSeqNum = client.remoteSeqNum
  localSeqNum : other.localSeqNum = client.localSeqNum
  unAckLen : other.unAckLen = client.unAckLen

/-- What becomes of the connection and its timer. -/
inductive QuietOutcome (before : TCPClient) (ether : EtherSia) (after : TCPClient) : Prop
  | kept (skips : before.Due → ether.bufferContainsReceived = true ∧ before.SkipsCheck ether)
      (state : after.state = before.state) (timedOut : after.timedOut = before.timedOut)
      (localSeqNum : after.localSeqNum = before.localSeqNum)
      (unAckLen : after.unAckLen = before.unAckLen) (timer : after.timer = before.timer)
      (nrtx : after.nrtx = before.nrtx)
  | acknowledged (state : after.state = .connected)
      (timedOut : after.timedOut = false ∨ after.timedOut = before.timedOut)
      (unAckLen : after.unAckLen = 0) (nrtx : after.nrtx = before.nrtx)
  | closed (state : after.state = .disconnected) (timedOut : after.timedOut = false)
      (nrtx : after.nrtx = before.nrtx)
  | finReceived (accepts : before.AcceptsFin ether) (state : after.state = .lastAck)
      (timedOut : after.timedOut = false) (unAckLen : after.unAckLen = 1)
      (timer : after.timer = (before.ackTest ether.buffer).timer) (nrtx : after.nrtx = 0)

/-- The frames of such a call. -/
inductive QuietFrames (before : TCPClient) (ether : EtherSia)
    (after : TCPClient × EtherSia) : Prop
  | nothing (same : after.2.sent = ether.sent)
  | acknowledges (sends : SendsFlags TCP_FLAG_ACK ether after.2)
  | resets (sends : SendsFlags (TCP_FLAG_RST ||| TCP_FLAG_ACK) ether after.2)
  | closes (open_ : before.state = .connected) (state : after.1.state = .lastAck)
      (sends : SendsFlags (TCP_FLAG_FIN ||| TCP_FLAG_ACK) ether after.2)

structure QuietCall (before : TCPClient) (ether : EtherSia)
    (after : TCPClient × EtherSia) : Prop where
  toSocket : after.1.toSocket = before.toSocket
  noSignal : after.1.appliFlags.rexmit = before.appliFlags.rexmit ∨
    after.1.appliFlags.rexmit = false
  outcome : QuietOutcome before ether after.1
  frames : QuietFrames before ether after

theorem quietCall_of_not_due {client : TCPClient} (notDue : ¬ client.Due)
    (ether : EtherSia) : QuietCall client ether (client.checkForRetransmit ether) := by
  rw [checkForRetransmit_of_not_due notDue]
  exact ⟨rfl, Or.inl rfl,
    .kept (fun due => absurd due notDue) rfl rfl rfl rfl rfl rfl, .nothing rfl⟩

theorem ackTest_rexmit (client : TCPClient) (packet : Memory) :
    (client.ackTest packet).appliFlags.rexmit = client.appliFlags.rexmit ∨
      (client.ackTest packet).appliFlags.rexmit = false := by
  by_cases acknowledges : client.Acknowledges packet
  · obtain ⟨_, _, _, _, acked⟩ := ackTest_of_acknowledges acknowledges
    rw [acked]
    exact Or.inr rfl
  · rw [ackTest_of_not_acknowledges acknowledges]
    exact Or.inl rfl

/-- What an acknowledgement leaves of the timer is of no use until the next segment. -/
theorem not_due_of_acknowledges {client : TCPClient} {packet : Memory}
    (acknowledges : client.Acknowledges packet) : ¬ (client.ackTest packet).Due := by
  obtain ⟨_, _, _, _, acked⟩ := ackTest_of_acknowledges acknowledges
  have nothing : ¬ (0 : UInt16) > 0 := by decide
  rw [acked]
  exact fun due => nothing due.1

/-- Nothing is outstanding behind the acking test. -/
theorem ackTest_settles {client : TCPClient} {packet : Memory}
    (settled : ¬ (client.ackTest packet).unAckLen > 0) :
    client.unAckLen = 0 ∨ client.Acknowledges packet := by
  by_cases acknowledges : client.Acknowledges packet
  · exact Or.inr acknowledges
  · rw [ackTest_of_not_acknowledges acknowledges] at settled
    exact Or.inl (eq_zero_of_not_pos settled)

section Connected

variable {client : TCPClient} {ether : EtherSia} (connected : client.state = .connected)

include connected

theorem quietOutcome_ackTest
    (skips : ¬ client.Acknowledges ether.buffer →
      ether.bufferContainsReceived = true ∧ client.SkipsCheck ether) :
    QuietOutcome client ether (client.ackTest ether.buffer) := by
  by_cases acknowledges : client.Acknowledges ether.buffer
  · obtain ⟨_, _, _, _, acked⟩ := ackTest_of_acknowledges acknowledges
    rw [acked]
    exact .acknowledged connected (Or.inr rfl) rfl rfl
  · rw [ackTest_of_not_acknowledges acknowledges]
    exact .kept (fun _ => skips acknowledges) rfl rfl rfl rfl rfl rfl

/-- The retransmission check after the acking test of an open connection. -/
theorem check_cases_of_connected {motive : TCPClient × EtherSia → Prop}
    (quiet : ∀ after, QuietCall client ether after → motive after)
    (checks : client.Due → motive (client.checkForRetransmit ether)) :
    motive ((client.ackTest ether.buffer).checkForRetransmit ether) := by
  by_cases acknowledges : client.Acknowledges ether.buffer
  · rw [checkForRetransmit_of_not_due (not_due_of_acknowledges acknowledges)]
    obtain ⟨_, _, _, _, acked⟩ := ackTest_of_acknowledges acknowledges
    apply quiet
    refine ⟨(client.ackTest_keeps ether.buffer).1, client.ackTest_rexmit ether.buffer, ?_,
      .nothing rfl⟩
    rw [acked]
    exact .acknowledged connected (Or.inr rfl) rfl rfl
  · rw [ackTest_of_not_acknowledges acknowledges]
    by_cases due : client.Due
    · exact checks due
    · exact quiet _ (quietCall_of_not_due due ether)

theorem connectedSegment_timer_cases (ours : client.OfConnection ether)
    (flagged : ether.bufferContainsReceived = true)
    (noReset : hasFlag (flags ether.buffer) TCP_FLAG_RST = false)
    (expected : client.testsSequence ether.buffer = true →
      sequenceNum ether.buffer = client.remoteSeqNum)
    {motive : TCPClient × EtherSia → Prop}
    (quiet : ∀ after, QuietCall client ether after → motive after)
    (checks : client.Due → motive (client.checkForRetransmit ether)) :
    motive ((client.ackTest ether.buffer).connectedSegment ether) := by
  have toSocket := (client.ackTest_keeps ether.buffer).1
  have rexmit := client.ackTest_rexmit ether.buffer
  unfold connectedSegment
  by_cases fin : hasFlag (flags ether.buffer) TCP_FLAG_FIN = true
  · have tested : client.testsSequence ether.buffer = true := by
      unfold testsSequence
      rw [connected, fin, Bool.or_true]
      rfl
    rw [if_pos fin]
    split
    · exact check_cases_of_connected connected quiet checks
    · rename_i settled
      apply quiet
      have accepts : client.AcceptsFin ether :=
        ⟨flagged, connected, ours, noReset, fin, expected tested, ackTest_settles settled⟩
      exact ⟨toSocket, rexmit, .finReceived accepts rfl rfl rfl rfl rfl,
        .closes connected rfl (tcpSendNoDataReply_sendsFlags _ _ ether)⟩
  · rw [if_neg fin]
    rw [Bool.not_eq_true] at fin
    by_cases hasData : payloadLength ether.buffer > 0
    · rw [if_pos hasData]
      apply quiet
      refine ⟨toSocket, rexmit, ?_,
        .acknowledges (tcpSendNoDataReply_sendsFlags _ _ ether)⟩
      have outcome := quietOutcome_ackTest connected fun unacknowledged =>
        ⟨flagged, .data ours noReset connected fin hasData unacknowledged⟩
      cases outcome with
      | kept skips state timedOut localSeqNum unAckLen timer nrtx =>
          exact .kept skips state timedOut localSeqNum unAckLen timer nrtx
      | acknowledged state timedOut unAckLen nrtx =>
          exact .acknowledged state timedOut unAckLen nrtx
      | closed state timedOut nrtx => exact .closed state timedOut nrtx
      | finReceived accepts state timedOut unAckLen timer nrtx =>
          exact .finReceived accepts state timedOut unAckLen timer nrtx
    · rw [if_neg hasData]
      exact check_cases_of_connected connected quiet checks

end Connected

theorem waitSynAckSegment_quiet {client : TCPClient} {ether : EtherSia}
    (fresh : client.appliFlags.ackData = false) :
    QuietCall client ether ((client.ackTest ether.buffer).waitSynAckSegment ether) := by
  have toSocket := (client.ackTest_keeps ether.buffer).1
  have resets (other : TCPClient) (after : TCPClient) :
      QuietFrames client ether (after, other.resetReply ether) := by
    rcases other.resetReply_sendsFlags ether with silent | sends
    · exact .nothing (congrArg EtherSia.sent silent)
    · exact .resets sends
  unfold waitSynAckSegment
  by_cases acknowledges : client.Acknowledges ether.buffer
  · obtain ⟨_, _, _, _, acked⟩ := ackTest_of_acknowledges acknowledges
    split
    · refine ⟨toSocket, Or.inr rfl, ?_,
        .acknowledges (tcpSendNoDataReply_sendsFlags _ _ ether)⟩
      rw [acked]
      exact .acknowledged rfl (Or.inl rfl) rfl rfl
    · refine ⟨toSocket, Or.inr rfl, ?_, resets _ _⟩
      rw [acked]
      exact .closed rfl rfl rfl
  · rw [ackTest_of_not_acknowledges acknowledges, fresh,
      if_neg fun both => Bool.false_ne_true both.1]
    exact ⟨rfl, Or.inr rfl, .closed rfl rfl rfl, resets _ _⟩

theorem foundSegment_timer_cases {client : TCPClient} {ether : EtherSia}
    (open_ : client.state ≠ .disconnected) (fresh : client.appliFlags.ackData = false)
    (ours : client.OfConnection ether) (flagged : ether.bufferContainsReceived = true)
    {motive : TCPClient × EtherSia → Prop}
    (quiet : ∀ after, QuietCall client ether after → motive after)
    (checks : client.Due → motive (client.checkForRetransmit ether)) :
    motive (client.foundSegment ether) := by
  have sameState := (client.ackTest_keeps ether.buffer).2.1
  unfold foundSegment
  split
  · apply quiet
    exact ⟨rfl, Or.inr rfl, .closed rfl rfl rfl, .nothing rfl⟩
  · rename_i noReset
    rw [Bool.not_eq_true] at noReset
    split
    · rename_i unexpected
      apply quiet
      exact ⟨rfl, Or.inl rfl,
        .kept (fun _ => ⟨flagged, .unexpected ours noReset unexpected.1 unexpected.2⟩) rfl
          rfl rfl rfl rfl rfl,
        .acknowledges (tcpSendNoDataReply_sendsFlags _ _ ether)⟩
    · rename_i notUnexpected
      have expected (tested : client.testsSequence ether.buffer = true) :
          sequenceNum ether.buffer = client.remoteSeqNum := by
        by_contra different
        exact notUnexpected ⟨tested, different⟩
      dsimp only
      rw [sameState]
      cases stateIs : client.state with
      | disconnected => exact absurd stateIs open_
      | waitSynAck => exact quiet _ (waitSynAckSegment_quiet fresh)
      | connected =>
          exact connectedSegment_timer_cases stateIs ours flagged noReset expected quiet
            checks
      | lastAck =>
          dsimp only [lastAckSegment]
          by_cases acknowledges : client.Acknowledges ether.buffer
          · obtain ⟨_, _, _, _, acked⟩ := ackTest_of_acknowledges acknowledges
            rw [acked]
            apply quiet
            exact ⟨rfl, Or.inr rfl, .closed rfl rfl rfl, .nothing rfl⟩
          · rw [ackTest_of_not_acknowledges acknowledges, fresh,
              if_neg Bool.false_ne_true]
            by_cases due : client.Due
            · exact checks due
            · exact quiet _ (quietCall_of_not_due due ether)

/-- The client with other counts of packets. -/
def recounted (client : TCPClient) (nrcvd ndropped : UInt16) : TCPClient :=
  { client with nrcvd := nrcvd, ndropped := ndropped }

theorem recounted_ackTest_timer (client : TCPClient) (nrcvd ndropped : UInt16)
    (packet : Memory) :
    ((client.recounted nrcvd ndropped).ackTest packet).timer =
      (client.ackTest packet).timer := by
  by_cases acknowledges : client.Acknowledges packet
  · obtain ⟨isAck, outstanding, number⟩ := acknowledges
    unfold ackTest
    rw [if_pos ⟨isAck, outstanding, number⟩, if_pos ⟨isAck, outstanding, number⟩]
    dsimp only [recounted]
    by_cases first : client.nrtx = 0
    · simp [first, updateRto]
    · simp [first]
  · have alsoNot : ¬ (client.recounted nrcvd ndropped).Acknowledges packet :=
      fun ⟨isAck, outstanding, number⟩ => acknowledges ⟨isAck, outstanding, number⟩
    rw [ackTest_of_not_acknowledges alsoNot, ackTest_of_not_acknowledges acknowledges]
    rfl

theorem Acknowledges.of_same {client other : TCPClient} {packet : Memory}
    (acknowledges : client.Acknowledges packet) (same : SameConnection client other) :
    other.Acknowledges packet := by
  obtain ⟨isAck, outstanding, number⟩ := acknowledges
  exact ⟨isAck, same.unAckLen ▸ outstanding,
    by rw [same.localSeqNum, same.unAckLen]; exact number⟩

theorem SameConnection.symm {client other : TCPClient} (same : SameConnection client other) :
    SameConnection other client :=
  ⟨same.toSocket.symm, same.state.symm, same.timedOut.symm, same.remoteSeqNum.symm,
    same.localSeqNum.symm, same.unAckLen.symm⟩

theorem SkipsCheck.of_same {client other : TCPClient} {ether : EtherSia}
    (skips : client.SkipsCheck ether) (same : SameConnection client other) :
    other.SkipsCheck ether := by
  cases skips with
  | old old => exact .old (old.of_toSocket same.toSocket)
  | unexpected ours noReset tested number =>
      refine .unexpected (ours.of_toSocket same.toSocket) noReset ?_ ?_
      · unfold testsSequence at tested ⊢
        rwa [same.state, same.timedOut]
      · rwa [same.remoteSeqNum]
  | data ours noReset connected noFin hasData unacknowledged =>
      exact .data (ours.of_toSocket same.toSocket) noReset (same.state.trans connected) noFin
        hasData fun acknowledges => unacknowledged (acknowledges.of_same same.symm)

theorem AcceptsFin.of_same {client other : TCPClient} {ether : EtherSia}
    (accepts : client.AcceptsFin ether) (same : SameConnection client other) :
    other.AcceptsFin ether where
  received := accepts.received
  connected := same.state.trans accepts.connected
  ours := accepts.ours.of_toSocket same.toSocket
  noReset := accepts.noReset
  fin := accepts.fin
  number := accepts.number.trans same.remoteSeqNum.symm
  settled := accepts.settled.imp (fun none => same.unAckLen.trans none)
    fun acknowledges => acknowledges.of_same same

theorem recounted_same (client : TCPClient) (nrcvd ndropped : UInt16) :
    SameConnection (client.recounted nrcvd ndropped) client :=
  ⟨rfl, rfl, rfl, rfl, rfl, rfl⟩

theorem ticked_same (client : TCPClient) (clock : HavePacketClock) :
    SameConnection (client.ticked clock) client :=
  ⟨(client.ticked_toSocket clock).symm, (client.ticked_state clock).symm,
    (client.ticked_timedOut clock).symm, (client.ticked_remoteSeqNum clock).symm,
    (client.ticked_localSeqNum clock).symm, (client.ticked_unAckLen clock).symm⟩

/-- The counts of packets have no part in it. -/
theorem QuietCall.of_recounted {client : TCPClient} {nrcvd ndropped : UInt16}
    {ether : EtherSia} {after : TCPClient × EtherSia}
    (quiet : QuietCall (client.recounted nrcvd ndropped) ether after) :
    QuietCall client ether after := by
  obtain ⟨toSocket, noSignal, outcome, frames⟩ := quiet
  refine ⟨toSocket, noSignal, ?_, ?_⟩
  · cases outcome with
    | kept skips state timedOut localSeqNum unAckLen timer nrtx =>
        refine .kept (fun due => ⟨(skips due).1, ?_⟩) state timedOut localSeqNum unAckLen
          timer nrtx
        exact (skips due).2.of_same (client.recounted_same nrcvd ndropped)
    | acknowledged state timedOut unAckLen nrtx =>
        exact .acknowledged state timedOut unAckLen nrtx
    | closed state timedOut nrtx => exact .closed state timedOut nrtx
    | finReceived accepts state timedOut unAckLen timer nrtx =>
        exact .finReceived (accepts.of_same (client.recounted_same nrcvd ndropped)) state
          timedOut unAckLen
          (timer.trans (client.recounted_ackTest_timer nrcvd ndropped ether.buffer)) nrtx
  · cases frames with
    | nothing same => exact .nothing same
    | acknowledges sends => exact .acknowledges sends
    | resets sends => exact .resets sends
    | closes open_ state sends => exact .closes open_ state sends

/-- A call on an active client is quiet, once the timers have advanced, or it gets to the
retransmission check with the timer run out. -/
theorem poll_timer_cases {client : TCPClient} {clock : HavePacketClock} {ether : EtherSia}
    (active : client.Active) {motive : TCPClient × EtherSia → Prop}
    (quiet : ∀ after, QuietCall (client.ticked clock) ether after → motive after)
    (checks : ∀ nrcvd ndropped, (client.ticked clock).Due →
      motive (((client.ticked clock).recounted nrcvd ndropped).checkForRetransmit ether)) :
    motive (client.poll clock ether) := by
  let counted := (client.ticked clock).recounted ((client.ticked clock).nrcvd + 1)
    (client.ticked clock).ndropped
  obtain ⟨reset, cleared⟩ := client.ticked_appliFlags clock
  apply poll_cases client clock ether
  · exact fun idle => absurd active idle
  · intro _ flagged ours
    have open_ : counted.state ≠ .disconnected := by
      intro closed
      exact active.open_ ((client.ticked_state clock).symm.trans closed)
    have fresh : counted.appliFlags.ackData = false := congrArg AppliFlags.ackData cleared
    exact foundSegment_timer_cases open_ fresh (ours.of_toSocket rfl) flagged
      (fun after call => quiet after call.of_recounted) (checks _ _)
  · intro _ flagged isOld
    apply quiet
    have stays : QuietCall counted ether (counted, counted.resetReply ether) := by
      refine ⟨rfl, Or.inl rfl,
        .kept (fun _ => ⟨flagged, .old (isOld.of_toSocket rfl)⟩) rfl rfl rfl rfl rfl rfl, ?_⟩
      rcases counted.resetReply_sendsFlags ether with silent | sends
      · exact .nothing (congrArg EtherSia.sent silent)
      · exact .resets sends
    exact stays.of_recounted
  · intro _ nrcvd ndropped
    by_cases due : (client.ticked clock).Due
    · exact checks nrcvd ndropped due
    · have notDue : ¬ ((client.ticked clock).recounted nrcvd ndropped).Due := due
      exact quiet _ (quietCall_of_not_due notDue ether).of_recounted

/-! ### A retransmission check with the timer run out -/

/-- The tries that the protocol allows have been made. -/
def LastTry (client : TCPClient) : Prop :=
  client.nrtx = UIP_MAXRTX ∨ client.state = .waitSynAck ∧ client.timedOut = false ∧
    client.nrtx = UIP_MAXSYNRTX

instance (client : TCPClient) : Decidable client.LastTry :=
  inferInstanceAs (Decidable (_ ∨ _))

/-- What the check does with the timer run out: the connection is given up, or what is
outstanding is sent again or asked for. -/
inductive ExpiryOutcome (before : TCPClient) (ether : EtherSia)
    (after : TCPClient × EtherSia) : Prop
  | gaveUp (last : before.LastTry) (timedOut : after.1.timedOut = true)
      (nrtx : after.1.nrtx = before.nrtx)
      (noSignal : after.1.appliFlags.rexmit = before.appliFlags.rexmit)
      (resends : after.2 = before.tcpResend (TCP_FLAG_RST ||| TCP_FLAG_ACK) 0x50 ether)
  | retried (triesLeft : ¬ before.LastTry) (timedOut : after.1.timedOut = before.timedOut)
      (nrtx : after.1.nrtx = before.nrtx + 1)
      (performs : before.state = .waitSynAck ∧
          after.2 = before.tcpResend TCP_FLAG_SYN 0x60 ether ∨
        before.state = .connected ∧ after.1.appliFlags.rexmit = true ∧
          after.2.sent = ether.sent ∨
        before.state = .lastAck ∧
          after.2 = before.tcpResend (TCP_FLAG_FIN ||| TCP_FLAG_ACK) 0x50 ether)

structure Expiry (before : TCPClient) (ether : EtherSia)
    (after : TCPClient × EtherSia) : Prop where
  toSocket : after.1.toSocket = before.toSocket
  state : after.1.state = before.state
  localSeqNum : after.1.localSeqNum = before.localSeqNum
  unAckLen : after.1.unAckLen = before.unAckLen
  timer : after.1.timer = backoff before.nrtx
  outcome : ExpiryOutcome before ether after

theorem checkForRetransmit_expiry {client : TCPClient} (due : client.Due)
    (open_ : client.state ≠ .disconnected) (ether : EtherSia) :
    Expiry client ether (client.checkForRetransmit ether) := by
  have expired : client.unAckLen > 0 ∧ client.timer = 0 := due
  unfold checkForRetransmit
  rw [if_pos expired]
  dsimp only
  by_cases last : client.LastTry
  · have isLast : client.nrtx = UIP_MAXRTX ∨ client.state = .waitSynAck ∧
        client.timedOut = false ∧ client.nrtx = UIP_MAXSYNRTX := last
    rw [if_pos isLast]
    exact ⟨rfl, rfl, rfl, rfl, rfl, .gaveUp last rfl rfl rfl rfl⟩
  · have notLast : ¬ (client.nrtx = UIP_MAXRTX ∨ client.state = .waitSynAck ∧
        client.timedOut = false ∧ client.nrtx = UIP_MAXSYNRTX) := last
    rw [if_neg notLast]
    cases stateIs : client.state with
    | disconnected => exact absurd stateIs open_
    | waitSynAck =>
        exact ⟨rfl, stateIs.symm, rfl, rfl, rfl,
          .retried last rfl rfl (Or.inl ⟨stateIs, rfl⟩)⟩
    | connected =>
        exact ⟨rfl, stateIs.symm, rfl, rfl, rfl,
          .retried last rfl rfl (Or.inr (Or.inl ⟨stateIs, rfl, rfl⟩))⟩
    | lastAck =>
        exact ⟨rfl, stateIs.symm, rfl, rfl, rfl,
          .retried last rfl rfl (Or.inr (Or.inr ⟨stateIs, rfl⟩))⟩

theorem Expiry.of_recounted {client : TCPClient} {nrcvd ndropped : UInt16}
    {ether : EtherSia} {after : TCPClient × EtherSia}
    (expiry : Expiry (client.recounted nrcvd ndropped) ether after) :
    Expiry client ether after := by
  obtain ⟨toSocket, state, localSeqNum, unAckLen, timer, outcome⟩ := expiry
  refine ⟨toSocket, state, localSeqNum, unAckLen, timer, ?_⟩
  cases outcome with
  | gaveUp last timedOut nrtx noSignal resends =>
      exact .gaveUp last timedOut nrtx noSignal resends
  | retried triesLeft timedOut nrtx performs =>
      exact .retried triesLeft timedOut nrtx performs

/-- A call on an active client is quiet, or the timer has run out and the check acts. -/
theorem poll_outcome {client : TCPClient} (active : client.Active)
    (clock : HavePacketClock) (ether : EtherSia) :
    QuietCall (client.ticked clock) ether (client.poll clock ether) ∨
      (client.ticked clock).Due ∧
        Expiry (client.ticked clock) ether (client.poll clock ether) := by
  have open_ : (client.ticked clock).state ≠ .disconnected := by
    rw [client.ticked_state clock]
    exact active.open_
  refine poll_timer_cases active (motive := fun after =>
    QuietCall (client.ticked clock) ether after ∨
      (client.ticked clock).Due ∧ Expiry (client.ticked clock) ether after) ?_ ?_
  · exact fun after quiet => Or.inl quiet
  · intro nrcvd ndropped due
    have stillDue : ((client.ticked clock).recounted nrcvd ndropped).Due := due
    exact Or.inr ⟨due, (checkForRetransmit_expiry stillDue open_ ether).of_recounted⟩

end TCPClient

end EtherSiaStack
