/-
What each side does with one segment of a conversation.

The server derives its whole answer from the segment; the client compares the
segment with the numbers it keeps.  Every result here says, for one kind of
segment, what the call reports, what becomes of the client, and which segment is
sent.
-/

import EtherSiaStack.Segment

namespace EtherSiaStack

open ByteMemory IPv6Packet

/-! ### Segments received and sent -/

/-- A node with a segment for it in the buffer. -/
structure Holds (ether : EtherSia) (peer : MACAddress) (header : SegmentHeader)
    (data : List UInt8) : Prop where
  linkLocal : ether.UsesLinkLocal
  received : ether.bufferContainsReceived = true
  carries : Carries ether.buffer peer ether.localMac header data

/-- The configuration that a node keeps throughout a conversation. -/
structure SameNode (before after : EtherSia) : Prop where
  linkLocalAddress : after.linkLocalAddress = before.linkLocalAddress
  localMac : after.localMac = before.localMac

/-- The call sent one segment to the peer, and nothing else. -/
structure SendsSegment (before after : EtherSia) (peer : MACAddress)
    (header : SegmentHeader) (data : List UInt8) : Prop where
  carries : Carries after.buffer before.localMac peer header data
  sent : after.sent =
    before.sent ++ [bytesAt after.buffer 0 (length after.buffer).toNat]
  sameNode : SameNode before after

theorem SameNode.refl (ether : EtherSia) : SameNode ether ether :=
  ⟨rfl, rfl⟩

theorem SameNode.trans {first second third : EtherSia} (left : SameNode first second)
    (right : SameNode second third) : SameNode first third :=
  ⟨right.linkLocalAddress.trans left.linkLocalAddress,
    right.localMac.trans left.localMac⟩

theorem SameNode.usesLinkLocal {before after : EtherSia} (same : SameNode before after)
    (linkLocal : before.UsesLinkLocal) : after.UsesLinkLocal := by
  unfold EtherSia.UsesLinkLocal
  rw [same.linkLocalAddress, same.localMac]
  exact linkLocal

/-! ### A header rewritten in the buffer -/

theorem HasHeader.setFlags {packet : Memory} {header : SegmentHeader}
    (hasHeader : HasHeader packet header) (flags : UInt8) :
    HasHeader (TCPHeader.setFlags packet flags) { header with flags := flags } := by
  obtain ⟨isTcp, sourcePort, destinationPort, sequenceNum, acknowledgementNum,
    dataOffset, _⟩ := hasHeader
  constructor <;> simp_all

theorem HasHeader.setAcknowledgementNum {packet : Memory} {header : SegmentHeader}
    (hasHeader : HasHeader packet header) (number : UInt32) :
    HasHeader (TCPHeader.setAcknowledgementNum packet number)
      { header with acknowledgementNum := number } := by
  obtain ⟨isTcp, sourcePort, destinationPort, sequenceNum, _, dataOffset, flags⟩ :=
    hasHeader
  constructor <;> simp_all

/-! ### The data of a segment -/

section Carries

variable {packet : Memory} {sender receiver : MACAddress} {header : SegmentHeader}
  {data : List UInt8}

theorem Carries.receiveHeaderLen_toNat (carries : Carries packet sender receiver header data) :
    (TCPHeader.receiveHeaderLen packet).toNat = header.length := by
  unfold TCPHeader.receiveHeaderLen SegmentHeader.length
  rw [carries.hasHeader.dataOffset, UInt8.toNat_toUInt16]

theorem Carries.payloadLength_toNat (carries : Carries packet sender receiver header data) :
    (TCPServer.payloadLength packet).toNat = data.length := by
  have headerLen := carries.receiveHeaderLen_toNat
  have total := carries.hasData.length
  unfold TCPServer.payloadLength
  rw [UInt16.toNat_sub_of_le, total, headerLen]
  · omega
  · rw [UInt16.le_iff_toNat_le, total, headerLen]
    omega

theorem Carries.payloadLength_eq (carries : Carries packet sender receiver header data) :
    TCPServer.payloadLength packet = UInt16.ofNat data.length := by
  rw [← carries.payloadLength_toNat, UInt16.ofNat_toNat]

theorem Carries.hasPayload_iff (carries : Carries packet sender receiver header data) :
    TCPServer.payloadLength packet > 0 ↔ data ≠ [] := by
  have positive : TCPServer.payloadLength packet > 0 ↔
      0 < (TCPServer.payloadLength packet).toNat := UInt16.lt_iff_toNat_lt
  rw [positive, carries.payloadLength_toNat, List.length_pos_iff]

theorem Carries.payload_eq (carries : Carries packet sender receiver header data) :
    bytesAt packet (TCPServer.payload packet) (TCPServer.payloadLength packet).toNat =
      data := by
  rw [carries.payloadLength_toNat, TCPServer.payload, carries.receiveHeaderLen_toNat]
  exact carries.hasData.data

end Carries

namespace TCPServer

open TCPHeader

/-- The answer to a segment once its flags, and perhaps its acknowledgement number,
have been rewritten in the buffer. -/
theorem sendReply_sendsSegment (socket : Socket) {ether : EtherSia} {peer : MACAddress}
    {header answered : SegmentHeader} {data : List UInt8} (length : UInt16)
    (holds : Holds ether peer header data) (change : Memory → Memory)
    (agree : ∀ packet, Agree (change packet) packet 0 58)
    (offset : ∀ packet, Agree (change packet) packet 66 67)
    (hasHeader : HasHeader (change ether.buffer) answered)
    (fits : length.toNat ≤ 65511) :
    SendsSegment ether (send socket length true (ether.modifyPacket change)) peer
      (replyHeader socket answered (UInt16.ofNat data.length))
      (bytesAt (change ether.buffer) transmitPayload length.toNat) := by
  have addressed : Addressed (change ether.buffer) peer ether.localMac :=
    holds.carries.addressed.congr ((agree _).mono le_rfl (by decide))
      ((agree _).mono (by decide) (by decide))
  have valid : HeaderValid (change ether.buffer) :=
    (headerValid_of_isValid holds.carries.valid).congr
      ((agree _).mono (by decide) (by decide))
  have received : payloadLength (change ether.buffer) = UInt16.ofNat data.length := by
    rw [← holds.carries.payloadLength_eq]
    unfold payloadLength receiveHeaderLen
    rw [dataOffset, dataOffset, offset ether.buffer 66 le_rfl (by decide),
      IPv6Packet.payloadLength, IPv6Packet.payloadLength,
      (agree ether.buffer).u16At_eq (by decide) (by decide)]
  have carries := sendReply_carries socket length (ether.modifyPacket change)
    holds.linkLocal valid addressed hasHeader fits
  change Carries _ _ _ (replyHeader socket answered
    (payloadLength (change ether.buffer))) _ at carries
  rw [received] at carries
  exact ⟨carries, rfl, ⟨rfl, rfl⟩⟩

section HavePacket

variable {socket : Socket} {ether : EtherSia} {peer : MACAddress}
  {header : SegmentHeader} {data : List UInt8}

/-- The call on a segment for this server that is no reset. -/
theorem havePacket_of_holds (holds : Holds ether peer header data)
    (port : header.destinationPort = socket.localPort)
    (noRst : hasFlag header.flags TCP_FLAG_RST = false) (randomNumber : UInt32) :
    havePacket socket randomNumber ether =
      if hasFlag header.flags TCP_FLAG_FIN then
        (false, socket, send socket 0 true
          (ether.modifyPacket fun packet => setFlags packet (TCP_FLAG_FIN ||| TCP_FLAG_ACK)))
      else if hasFlag header.flags TCP_FLAG_SYN then
        (false, socket, send socket 0 true
          (ether.modifyPacket fun packet =>
            setFlags (setAcknowledgementNum packet (htonl randomNumber))
              (TCP_FLAG_SYN ||| TCP_FLAG_ACK)))
      else if data ≠ [] then
        (true, { socket with writePos := -1 },
          ether.modifyPacket fun packet => setFlags packet 0)
      else (false, socket, ether) := by
  have isTcp := holds.carries.hasHeader.isTcp
  have isPort := holds.carries.hasHeader.destinationPort.trans port
  unfold havePacket
  dsimp only
  rw [holds.carries.hasHeader.flags, if_neg (by rw [holds.received]; decide),
    if_neg (not_not.mpr isTcp), if_neg (not_not.mpr isPort), noRst,
    if_neg Bool.false_ne_true]
  simp only [holds.carries.hasPayload_iff]

/-- A SYN is answered with a SYN-ACK whose sequence number is the random number as
the host stores it. -/
theorem havePacket_of_syn (holds : Holds ether peer header [])
    (port : header.destinationPort = socket.localPort)
    (syn : header.flags = TCP_FLAG_SYN) (randomNumber : UInt32) :
    ∃ after, havePacket socket randomNumber ether = (false, socket, after) ∧
      SendsSegment ether after peer
        (replyHeader socket { header with
          acknowledgementNum := htonl randomNumber
          flags := TCP_FLAG_SYN ||| TCP_FLAG_ACK } 0) [] := by
  have call := havePacket_of_holds holds port (by rw [syn]; decide) randomNumber
  rw [syn, if_neg (by decide), if_pos (by decide)] at call
  refine ⟨_, call, sendReply_sendsSegment socket 0 holds _ ?_ ?_ ?_ (by decide)⟩
  · intro packet
    exact (agree_store _ _ (by simp)).trans (agree_store _ _ (by simp))
  · intro packet
    exact (agree_store _ _ (by simp)).trans (agree_store _ _ (by simp))
  · exact (holds.carries.hasHeader.setAcknowledgementNum _).setFlags _

/-- A FIN is answered with a FIN and an ACK. -/
theorem havePacket_of_fin (holds : Holds ether peer header [])
    (port : header.destinationPort = socket.localPort)
    (fin : header.flags = TCP_FLAG_FIN ||| TCP_FLAG_ACK) (randomNumber : UInt32) :
    ∃ after, havePacket socket randomNumber ether = (false, socket, after) ∧
      SendsSegment ether after peer (replyHeader socket header 0) [] := by
  have call := havePacket_of_holds holds port (by rw [fin]; decide) randomNumber
  rw [fin, if_pos (by decide)] at call
  refine ⟨_, call, sendReply_sendsSegment socket 0 holds _ ?_ ?_ ?_ (by decide)⟩
  · exact fun packet => agree_store _ _ (by simp)
  · exact fun packet => agree_store _ _ (by simp)
  · have answered := holds.carries.hasHeader.setFlags (TCP_FLAG_FIN ||| TCP_FLAG_ACK)
    have same : { header with flags := TCP_FLAG_FIN ||| TCP_FLAG_ACK } = header := by
      rw [← fin]
    rwa [same] at answered

theorem havePacket_of_ack (holds : Holds ether peer header [])
    (port : header.destinationPort = socket.localPort)
    (ack : header.flags = TCP_FLAG_ACK) (randomNumber : UInt32) :
    havePacket socket randomNumber ether = (false, socket, ether) := by
  rw [havePacket_of_holds holds port (by rw [ack]; decide) randomNumber, ack,
    if_neg (by decide), if_neg (by decide), if_neg (by decide)]

/-- Data is reported; the flags byte is cleared to remember that. -/
theorem havePacket_of_data (holds : Holds ether peer header data)
    (port : header.destinationPort = socket.localPort)
    (ack : header.flags = TCP_FLAG_ACK) (nonempty : data ≠ []) (randomNumber : UInt32) :
    havePacket socket randomNumber ether =
      (true, { socket with writePos := -1 },
        ether.modifyPacket fun packet => setFlags packet 0) := by
  rw [havePacket_of_holds holds port (by rw [ack]; decide) randomNumber, ack,
    if_neg (by decide), if_neg (by decide), if_pos nonempty]

theorem sendReply_of_data (socket : Socket) (holds : Holds ether peer header data)
    {reply : List UInt8} (fits : reply.length ≤ 490) :
    SendsSegment ether
      (send socket (UInt16.ofNat reply.length) true
        ((ether.modifyPacket fun packet => setFlags packet 0).modifyPacket fun packet =>
          store packet transmitPayload reply)) peer
      (replyHeader socket { header with flags := 0 } (UInt16.ofNat data.length))
      reply := by
  have count : (UInt16.ofNat reply.length).toNat = reply.length := by
    rw [UInt16.toNat_ofNat']
    exact Nat.mod_eq_of_lt (by change reply.length < 65536; omega)
  have answered : HasHeader (store (setFlags ether.buffer 0) transmitPayload reply)
      { header with flags := 0 } :=
    (holds.carries.hasHeader.setFlags 0).congr (agree_store _ _ (Or.inl (by decide)))
      (agree_store _ _ (Or.inl (by decide)))
  have sends := sendReply_sendsSegment socket (UInt16.ofNat reply.length) holds
    (fun packet => store (setFlags packet 0) transmitPayload reply)
    (fun packet => (agree_store _ _ (Or.inl (by decide))).trans
      (agree_store _ _ (by simp)))
    (fun packet => (agree_store _ _ (Or.inl (by decide))).trans
      (agree_store _ _ (by simp)))
    answered (by rw [count]; omega)
  rw [count, bytesAt_store_self] at sends
  exact sends

end HavePacket

end TCPServer

namespace TCPClient

open TCPHeader

/-! ### The client's side -/

/-- A client in time, with the numbers of its connection. -/
structure At (client : TCPClient) (socket : Socket) (state : TCPState)
    (localSeqNum remoteSeqNum : UInt32) (unAckLen : UInt16) : Prop where
  toSocket : client.toSocket = socket
  inTime : client.timedOut = false
  state : client.state = state
  localSeqNum : client.localSeqNum = localSeqNum
  remoteSeqNum : client.remoteSeqNum = remoteSeqNum
  unAckLen : client.unAckLen = unAckLen

section Poll

variable {client : TCPClient} {socket : Socket} {state : TCPState}
  {localSeqNum remoteSeqNum : UInt32} {unAckLen : UInt16} {ether : EtherSia}
  {peer : MACAddress} {header : SegmentHeader} {data : List UInt8}

theorem At.ticked (isAt : client.At socket state localSeqNum remoteSeqNum unAckLen)
    (clock : HavePacketClock) :
    (client.ticked clock).counted.At socket state localSeqNum remoteSeqNum unAckLen where
  toSocket := (client.ticked_toSocket clock).trans isAt.toSocket
  inTime := (client.ticked_timedOut clock).trans isAt.inTime
  state := (client.ticked_state clock).trans isAt.state
  localSeqNum := (client.ticked_localSeqNum clock).trans isAt.localSeqNum
  remoteSeqNum := (client.ticked_remoteSeqNum clock).trans isAt.remoteSeqNum
  unAckLen := (client.ticked_unAckLen clock).trans isAt.unAckLen

theorem toUInt32_ofNat {count : Nat} (fits : count < 65536) :
    (UInt16.ofNat count).toUInt32 = UInt32.ofNat count := by
  apply UInt32.toNat_inj.mp
  rw [UInt16.toNat_toUInt32, UInt16.toNat_ofNat', UInt32.toNat_ofNat']
  omega

/-- The segment goes from the client's remote port to its local port. -/
structure ForSocket (socket : Socket) (header : SegmentHeader) : Prop where
  sourcePort : header.sourcePort = socket.remotePort
  destinationPort : header.destinationPort = socket.localPort

theorem ofConnection_of_holds {client : TCPClient} (targets : client.toSocket.Targets peer)
    (ports : ForSocket client.toSocket header) (holds : Holds ether peer header data) :
    client.OfConnection ether where
  toUs := holds.carries.addressed.destination.trans holds.linkLocal.symm
  fromPeer := holds.carries.addressed.source.trans targets.remoteAddress.symm
  isTcp := holds.carries.hasHeader.isTcp
  remotePort := holds.carries.hasHeader.sourcePort.trans ports.sourcePort
  localPort := holds.carries.hasHeader.destinationPort.trans ports.destinationPort

theorem poll_of_holds (isAt : client.At socket state localSeqNum remoteSeqNum unAckLen)
    (open_ : state ≠ .disconnected) (targets : socket.Targets peer)
    (ports : ForSocket socket header) (holds : Holds ether peer header data)
    (clock : HavePacketClock) :
    client.poll clock ether = (client.ticked clock).counted.foundSegment ether := by
  have active : client.Active := ⟨by rw [isAt.state]; exact open_, isAt.inTime⟩
  have sameSocket : (client.ticked clock).toSocket = socket :=
    (client.ticked_toSocket clock).trans isAt.toSocket
  rw [poll_of_active active]
  apply dispatchPacket_of_ofConnection holds.received
  apply ofConnection_of_holds _ _ holds
  · rw [sameSocket]
    exact targets
  · rw [sameSocket]
    exact ports

/-- A segment with the expected sequence number that acknowledges everything
outstanding gets past both tests. -/
theorem foundSegment_of_expected
    (isAt : client.At socket state localSeqNum remoteSeqNum unAckLen)
    (holds : Holds ether peer header data)
    (noRst : hasFlag header.flags TCP_FLAG_RST = false)
    (expected : client.testsSequence ether.buffer = true →
      header.sequenceNum = remoteSeqNum)
    (isAck : hasFlag header.flags TCP_FLAG_ACK = true) (outstanding : unAckLen > 0)
    (acknowledges : header.acknowledgementNum = localSeqNum + unAckLen.toUInt32) :
    ∃ acked : TCPClient,
      acked.At socket state (localSeqNum + unAckLen.toUInt32) remoteSeqNum 0 ∧
        acked.appliFlags = { AppliFlags.none with ackData := true } ∧
          client.foundSegment ether =
            match acked.state with
            | .waitSynAck => acked.waitSynAckSegment ether
            | .connected => acked.connectedSegment ether
            | .lastAck => acked.lastAckSegment ether
            | .disconnected => (acked, acked.tcpSendAck ether) := by
  have hasHeader := holds.carries.hasHeader
  have acks : client.Acknowledges ether.buffer := by
    refine ⟨by rw [hasHeader.flags]; exact isAck, by rw [isAt.unAckLen]; exact outstanding, ?_⟩
    rw [hasHeader.acknowledgementNum, isAt.localSeqNum, isAt.unAckLen]
    exact acknowledges
  obtain ⟨timer, rto, sa, sv, acked⟩ := ackTest_of_acknowledges acks
  refine ⟨client.ackTest ether.buffer, ?_, ?_, ?_⟩
  · rw [acked, isAt.localSeqNum, isAt.unAckLen]
    exact ⟨isAt.toSocket, isAt.inTime, isAt.state, rfl, isAt.remoteSeqNum, rfl⟩
  · rw [acked]
  · have noUnexpected : ¬ (client.testsSequence ether.buffer = true ∧
        sequenceNum ether.buffer ≠ client.remoteSeqNum) := by
      rintro ⟨tests, differs⟩
      apply differs
      rw [hasHeader.sequenceNum, isAt.remoteSeqNum]
      exact expected tests
    unfold foundSegment
    rw [hasHeader.flags, noRst, if_neg Bool.false_ne_true]
    exact if_neg noUnexpected

theorem tcpSendNoDataReply_sendsSegment (client : TCPClient) (flags : UInt8)
    (holds : Holds ether peer header data) :
    SendsSegment ether (client.tcpSendNoDataReply flags ether) peer
      (client.headerOf 0x50 flags) [] :=
  ⟨client.tcpSendNoDataReply_carries flags holds.linkLocal
    (headerValid_of_isValid holds.carries.valid) holds.carries.addressed, rfl, ⟨rfl, rfl⟩⟩

/-- The SYN-ACK that acknowledges our SYN opens the connection. -/
theorem poll_of_synAck (isAt : client.At socket .waitSynAck localSeqNum remoteSeqNum 1)
    (targets : socket.Targets peer) (ports : ForSocket socket header)
    (holds : Holds ether peer header [])
    (synAck : header.flags = TCP_FLAG_SYN ||| TCP_FLAG_ACK)
    (acknowledges : header.acknowledgementNum = localSeqNum + 1)
    (clock : HavePacketClock) :
    ∃ after, client.poll clock ether = (after, after.tcpSendAck ether) ∧
      after.At socket .connected (localSeqNum + 1) (header.sequenceNum + 1) 0 ∧
        after.appliFlags = { AppliFlags.none with connected := true } := by
  have call := poll_of_holds isAt (by decide) targets ports holds clock
  have isFlags := holds.carries.hasHeader.flags.trans synAck
  have ticked := isAt.ticked clock
  have untested : (client.ticked clock).counted.testsSequence ether.buffer = false := by
    unfold testsSequence
    rw [isFlags, ticked.state, ticked.inTime]
    rfl
  obtain ⟨acked, ackedAt, ackedFlags, found⟩ := foundSegment_of_expected ticked holds
    (by rw [synAck]; decide) (fun tests => absurd (untested.symm.trans tests) (by decide))
    (by rw [synAck]; decide) (by decide) acknowledges
  rw [call, found, ackedAt.state]
  dsimp only
  unfold waitSynAckSegment
  rw [ackedFlags, isFlags, if_pos ⟨rfl, by decide⟩]
  refine ⟨_, rfl, ⟨ackedAt.toSocket, rfl, rfl, ackedAt.localSeqNum, ?_, ackedAt.unAckLen⟩,
    rfl⟩
  exact congrArg (· + 1) holds.carries.hasHeader.sequenceNum

/-- The peer's last data, with its FIN, is reported and answered with our FIN. -/
theorem poll_of_lastData {unAckLen : UInt16}
    (isAt : client.At socket .connected localSeqNum remoteSeqNum unAckLen)
    (outstanding : unAckLen > 0) (targets : socket.Targets peer)
    (ports : ForSocket socket header) (holds : Holds ether peer header data)
    (nonempty : data ≠ []) (short : data.length ≤ 65514)
    (isFlags : header.flags = TCP_FLAG_ACK ||| TCP_FLAG_FIN ||| TCP_FLAG_PSH)
    (expected : header.sequenceNum = remoteSeqNum)
    (acknowledges : header.acknowledgementNum = localSeqNum + unAckLen.toUInt32)
    (clock : HavePacketClock) :
    ∃ after, client.poll clock ether = (after, after.tcpSendFinAck ether) ∧
      after.At socket .lastAck (localSeqNum + unAckLen.toUInt32)
        (remoteSeqNum + UInt32.ofNat (data.length + 1)) 1 ∧
        after.appliFlags = { AppliFlags.none with
          ackData := true, newData := true, close := true } := by
  have call := poll_of_holds isAt (by decide) targets ports holds clock
  have bufferFlags := holds.carries.hasHeader.flags.trans isFlags
  obtain ⟨acked, ackedAt, ackedFlags, found⟩ := foundSegment_of_expected
    (isAt.ticked clock) holds (by rw [isFlags]; decide) (fun _ => expected)
    (by rw [isFlags]; decide) outstanding acknowledges
  rw [call, found, ackedAt.state]
  dsimp only
  unfold connectedSegment
  rw [ackedFlags, bufferFlags, if_pos (by decide), ackedAt.unAckLen, if_neg (by decide)]
  refine ⟨_, rfl, ⟨ackedAt.toSocket, rfl, rfl, ackedAt.localSeqNum, ?_, rfl⟩, ?_⟩
  · have length : payloadLength ether.buffer = UInt16.ofNat data.length :=
      holds.carries.payloadLength_eq
    dsimp only
    rw [ackedAt.remoteSeqNum, length, ← toUInt32_ofNat (by omega), UInt16.ofNat_add]
    rfl
  · have reports : (payloadLength ether.buffer > 0) = True :=
      eq_true (holds.carries.hasPayload_iff.mpr nonempty)
    simp only [reports, decide_true, Bool.or_true]

/-- The peer's FIN, acknowledging ours, closes the connection without an answer. -/
theorem poll_of_lastAck (isAt : client.At socket .lastAck localSeqNum remoteSeqNum 1)
    (targets : socket.Targets peer) (ports : ForSocket socket header)
    (holds : Holds ether peer header [])
    (isFlags : header.flags = TCP_FLAG_FIN ||| TCP_FLAG_ACK)
    (expected : header.sequenceNum = remoteSeqNum)
    (acknowledges : header.acknowledgementNum = localSeqNum + 1)
    (clock : HavePacketClock) :
    ∃ after, client.poll clock ether = (after, ether) ∧
      after.At socket .disconnected (localSeqNum + 1) remoteSeqNum 0 ∧
        after.appliFlags = { AppliFlags.none with close := true } := by
  have call := poll_of_holds isAt (by decide) targets ports holds clock
  obtain ⟨acked, ackedAt, ackedFlags, found⟩ := foundSegment_of_expected
    (isAt.ticked clock) holds (by rw [isFlags]; decide) (fun _ => expected)
    (by rw [isFlags]; decide) (by decide) acknowledges
  rw [call, found, ackedAt.state]
  dsimp only
  unfold lastAckSegment
  rw [ackedFlags, if_pos rfl]
  exact ⟨_, rfl, ⟨ackedAt.toSocket, rfl, rfl, ackedAt.localSeqNum, ackedAt.remoteSeqNum,
    ackedAt.unAckLen⟩, rfl⟩

/-- With nothing received and no retransmission due the client only keeps time. -/
theorem poll_of_quiet (ether : EtherSia)
    (isAt : client.At socket state localSeqNum remoteSeqNum unAckLen)
    (empty : ether.bufferContainsReceived = false) {clock : HavePacketClock}
    (inTime : ¬ (client.unAckLen > 0 ∧ client.TimerExpires clock)) :
    ∃ after, client.poll clock ether = (after, ether) ∧
      after.At socket state localSeqNum remoteSeqNum unAckLen ∧
        after.appliFlags.newData = false ∧ after.appliFlags.connected = false := by
  by_cases active : client.Active
  · have notDue : ¬ (client.ticked clock).Due := by
      rintro ⟨outstanding, expired⟩
      rw [ticked_unAckLen] at outstanding
      exact inTime ⟨outstanding, (client.ticked_timer_eq_zero_iff clock outstanding).mp
        expired⟩
    obtain ⟨reset, flags⟩ := client.ticked_appliFlags clock
    rw [poll_of_active active, dispatchPacket_of_not_received _ empty,
      checkForRetransmit_of_not_due notDue]
    refine ⟨_, rfl, ?_, by rw [flags]; rfl, by rw [flags]; rfl⟩
    obtain ⟨toSocket, inTime, state, localSeqNum, remoteSeqNum, unAckLen⟩ :=
      isAt.ticked clock
    exact ⟨toSocket, inTime, state, localSeqNum, remoteSeqNum, unAckLen⟩
  · have closed : state = .disconnected := by
      by_contra open_
      exact active ⟨by rw [isAt.state]; exact open_, isAt.inTime⟩
    obtain ⟨inactivity, reset, started⟩ := client.startCall_eq clock
    rw [poll_of_idle active, started]
    exact ⟨_, rfl, ⟨isAt.toSocket, rfl, closed.symm, isAt.localSeqNum, isAt.remoteSeqNum,
      isAt.unAckLen⟩, rfl, rfl⟩

/-- The client's application writes data behind the header and sends it. -/
theorem send_of_data (ether : EtherSia)
    (isAt : client.At socket state localSeqNum remoteSeqNum 0)
    (noRexmit : client.appliFlags.rexmit = false) (targets : socket.Targets peer)
    (linkLocal : ether.UsesLinkLocal) {request : List UInt8}
    (fits : request.length ≤ 490) :
    ∃ sent after, client.send (UInt16.ofNat request.length) false
        (ether.modifyPacket fun packet => store packet transmitPayload request) =
          (sent, after) ∧
      sent.At socket state localSeqNum remoteSeqNum (UInt16.ofNat request.length) ∧
        SendsSegment ether after peer (client.headerOf 0x60 (flags ether.buffer)) request := by
  let written := ether.modifyPacket fun packet => store packet transmitPayload request
  have count : (UInt16.ofNat request.length).toNat = request.length := by
    rw [UInt16.toNat_ofNat']
    exact Nat.mod_eq_of_lt (by change request.length < 65536; omega)
  have forPeer : client.toSocket.Targets peer := by
    rw [isAt.toSocket]
    exact targets
  have carries := client.send_carries (UInt16.ofNat request.length) written forPeer
    linkLocal (by rw [count]; omega)
  have untouched : Agree written.buffer ether.buffer 67 68 :=
    agree_store ether.buffer request (Or.inl (by decide))
  have sameFlags : flags written.buffer = flags ether.buffer :=
    untouched 67 le_rfl (by decide)
  have isRequest : bytesAt written.buffer transmitPayload request.length = request :=
    bytesAt_store_self ether.buffer transmitPayload request
  rw [sameFlags, count, isRequest] at carries
  have lengthFits : TCPLengthFits (UInt16.ofNat request.length) := by
    change 18 ≤ (24 + UInt16.ofNat request.length).toNat
    rw [add_24_toNat (by rw [count]; omega)]
    omega
  have transmits : Transmits written
      (client.send (UInt16.ofNat request.length) false written).2 :=
    client.send_transmits (fun reply => by cases reply) lengthFits
  have sameAddress : (client.send (UInt16.ofNat request.length) false
      written).2.linkLocalAddress = ether.linkLocalAddress := by
    unfold send sendInternal
    split
    · rfl
    · rfl
  refine ⟨(client.send (UInt16.ofNat request.length) false written).1,
    (client.send (UInt16.ofNat request.length) false written).2, rfl, ?_,
    carries, transmits.sent, ⟨sameAddress, transmits.localMac⟩⟩
  have sends : (client.send (UInt16.ofNat request.length) false written).1 =
      { client with
        unAckLen := client.unAckLen + UInt16.ofNat request.length
        timer := client.rto
        nrtx := 0 } := by
    unfold send sendInternal
    rw [noRexmit]
    rfl
  rw [sends, isAt.unAckLen, UInt16.zero_add]
  exact ⟨isAt.toSocket, isAt.inTime, isAt.state, isAt.localSeqNum, isAt.remoteSeqNum, rfl⟩

/-- `connect` sends a SYN from the next local port. -/
theorem connect_sendsSegment (client : TCPClient) (targets : client.toSocket.Targets peer)
    (linkLocal : ether.UsesLinkLocal) (randomNumber now : UInt32) :
    ∃ connecting after, client.connect randomNumber now ether = (connecting, after) ∧
      connecting.At { client.toSocket with localPort := client.localPort + 1 } .waitSynAck
        randomNumber 0 1 ∧
        SendsSegment ether after peer (connecting.headerOf 0x60 TCP_FLAG_SYN) [] := by
  let opening : TCPClient := { client with
    localSeqNum := randomNumber
    remoteSeqNum := 0
    localPort := client.localPort + 1
    unAckLen := 1
    timer := UIP_RTO
    rto := UIP_RTO
    sa := 0
    sv := 16
    nrtx := 0
    state := .waitSynAck
    timedOut := false
    periodic := now
    inactivity := now }
  let flagged := ether.modifyPacket fun packet => setFlags packet TCP_FLAG_SYN
  have call : client.connect randomNumber now ether = opening.send 0 false flagged := rfl
  have sent : (opening.send 0 false flagged).1.At
      { client.toSocket with localPort := client.localPort + 1 } .waitSynAck
        randomNumber 0 1 := by
    unfold send sendInternal
    split
    · exact ⟨rfl, rfl, rfl, rfl, rfl, rfl⟩
    · exact ⟨rfl, rfl, rfl, rfl, rfl, rfl⟩
  have sameHeader : (opening.send 0 false flagged).1.headerOf 0x60 TCP_FLAG_SYN =
      opening.headerOf 0x60 TCP_FLAG_SYN := by
    unfold headerOf
    rw [sent.toSocket, sent.localSeqNum, sent.remoteSeqNum]
  have forPeer : opening.toSocket.Targets peer :=
    ⟨targets.remoteAddress, targets.remoteMac⟩
  have carries := opening.send_carries 0 flagged forPeer linkLocal (by decide)
  have isSyn : flags flagged.buffer = TCP_FLAG_SYN := u8_store_self ether.buffer 67 _
  rw [isSyn, ← sameHeader] at carries
  have transmits := client.connect_transmits randomNumber now ether
  have sameAddress : (opening.send 0 false flagged).2.linkLocalAddress =
      ether.linkLocalAddress := by
    unfold send sendInternal
    split
    · rfl
    · rfl
  rw [call] at transmits ⊢
  exact ⟨(opening.send 0 false flagged).1, (opening.send 0 false flagged).2, rfl, sent,
    carries, transmits.sent, ⟨sameAddress, transmits.localMac⟩⟩

end Poll

end TCPClient

end EtherSiaStack
