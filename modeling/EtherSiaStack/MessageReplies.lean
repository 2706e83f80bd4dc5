/-
The replies of ICMPv6, byte for byte.

Both replies are made in the buffer over the packet they answer.  An echo reply
keeps everything behind the checksum as it is; an error moves the packet it reports
48 bytes towards the end first, and cuts it where the buffer ends.  Neither reads or
writes a byte behind the buffer.
-/

import EtherSiaStack.Datagram
import EtherSiaStack.Responses

namespace EtherSiaStack

open ByteMemory IPv6Packet

/-! ### What a call can see of the buffer -/

/-- The interfaces differ at most in the bytes of the buffer from `last` on. -/
def SameUpTo (last : Nat) (left right : EtherSia) : Prop :=
  ∃ memory, right = left.withBuffer memory ∧ Agree left.buffer memory 0 last

theorem Agree.storeChecksum_both {left right : Memory} {last : Nat}
    (agree : Agree left right 0 last) (inside : packetEnd left ≤ last) (address : Nat)
    (behind : 54 ≤ address) :
    Agree (storeChecksum left address) (storeChecksum right address) 0 last := by
  have cleared := agree.store_both address (bytes16 0)
  have sameEnd : packetEnd (store left address (bytes16 0)) = packetEnd left := by
    unfold packetEnd
    rw [payloadLength_store left (bytes16 0) behind]
  have sameSum : calculateChecksum (store left address (bytes16 0)) =
      calculateChecksum (store right address (bytes16 0)) :=
    calculateChecksum_congr (cleared.mono (Nat.zero_le _) (by omega))
  unfold storeChecksum
  dsimp only
  rw [sameSum]
  exact cleared.store_both address _

namespace SameUpTo

variable {last : Nat} {left right : EtherSia}

/-- A change may carry the agreement on or cut it off. -/
theorem modifyPacket {last' : Nat} (same : SameUpTo last left right)
    {change : Memory → Memory}
    (carries : ∀ memory, Agree left.buffer memory 0 last →
      Agree (change left.buffer) (change memory) 0 last') :
    SameUpTo last' (left.modifyPacket change) (right.modifyPacket change) := by
  obtain ⟨memory, rfl, agree⟩ := same
  exact ⟨change memory, rfl, carries memory agree⟩

theorem send (same : SameUpTo last left right) (inside : packetEnd left.buffer ≤ last)
    (short : packetEnd left.buffer < 65536) : SameUpTo last left.send right.send := by
  obtain ⟨memory, rfl, agree⟩ := same
  have header := payload_le_packetEnd left.buffer
  have start : payload = 54 := rfl
  have samePayload : payloadLength left.buffer = payloadLength memory :=
    agree.u16At_eq (Nat.zero_le _) (by omega)
  have sameLength : length left.buffer = length memory := by
    unfold length
    rw [samePayload]
  have sameOctets : bytesAt left.buffer 0 (length left.buffer).toNat =
      bytesAt memory 0 (length memory).toNat := by
    rw [← sameLength, length_toNat short]
    exact agree.bytesAt_eq (Nat.zero_le _) (by omega)
  refine ⟨memory, ?_, agree⟩
  unfold EtherSia.send EtherSia.withBuffer
  rw [sameOctets]

theorem prepareReply (same : SameUpTo last left right) (header : 54 ≤ last) :
    SameUpTo last left.prepareReply right.prepareReply := by
  obtain ⟨memory, rfl, agree⟩ := same
  have sameReplySource : (left.withBuffer memory).replySourceAddress =
      left.replySourceAddress := by
    have sameDestination : destination memory = destination left.buffer :=
      destination_congr (agree.symm.mono (Nat.zero_le _) header)
    unfold EtherSia.replySourceAddress
    rw [EtherSia.withBuffer_buffer, sameDestination]
    rfl
  refine ⟨(left.withBuffer memory).prepareReply.buffer, rfl, ?_⟩
  unfold EtherSia.prepareReply
  dsimp only
  rw [sameReplySource]
  have hopLimit := agree.store_both 21 [IP6_DEFAULT_HOP_LIMIT]
  have toSource := hopLimit.store_block 38 22 16 (Nat.zero_le _) (by omega)
  have fromUs := toSource.store_both 22 (blockBytes left.replySourceAddress.octet)
  have toSender := fromUs.store_block 0 6 6 (Nat.zero_le _) (by omega)
  exact toSender.store_both 6 (blockBytes left.localMac.octet)

end SameUpTo

/-- The call reads and writes no byte behind the buffer: it leaves them as they are,
and does the same whatever they are. -/
structure UsesOnlyBuffer (call : EtherSia → EtherSia) (ether : EtherSia) : Prop where
  writes : ∀ address, ETHERSIA_MAX_PACKET_SIZE ≤ address →
    (call ether).buffer address = ether.buffer address
  reads : ∀ memory, Agree ether.buffer memory 0 ETHERSIA_MAX_PACKET_SIZE →
    SameUpTo ETHERSIA_MAX_PACKET_SIZE (call ether) (call (ether.withBuffer memory))

/-! ### Errors -/

/-- How much of a packet an error quotes: its IPv6 header and payload, as far as they
fit behind the ICMPv6 header. -/
def quotedLength (packet : Memory) : Nat :=
  min (40 + (payloadLength packet).toNat) 538

/-- `payloadLen` as `icmp6ErrorReply` computes it. -/
def errorPayloadLen (packet : Memory) : UInt16 :=
  if 40 + payloadLength packet > 538 then 538 else 40 + payloadLength packet

theorem errorPayloadLen_toNat {packet : Memory}
    (fits : packetEnd packet ≤ ETHERSIA_MAX_PACKET_SIZE) :
    (errorPayloadLen packet).toNat = quotedLength packet := by
  have endIs : packetEnd packet = 54 + (payloadLength packet).toNat := rfl
  have most : ETHERSIA_MAX_PACKET_SIZE = 600 := rfl
  have limit : (538 : UInt16).toNat = 538 := rfl
  have total : (40 + payloadLength packet).toNat = 40 + (payloadLength packet).toNat := by
    rw [UInt16.toNat_add]
    change (40 + (payloadLength packet).toNat) % 65536 = _
    omega
  unfold errorPayloadLen quotedLength
  split
  · rename_i long
    have above := UInt16.lt_iff_toNat_lt.mp long
    omega
  · rename_i short
    have below := UInt16.le_iff_toNat_le.mp (UInt16.not_lt.mp short)
    omega

/-- The error message in the buffer before `icmp6PacketSend` finishes it. -/
def errorMessage (ether : EtherSia) (type code : UInt8) : EtherSia :=
  let moved := ether.modifyPacket fun packet =>
    store packet 62 (bytesAt packet 14 (errorPayloadLen ether.buffer).toNat)
  moved.prepareReply.modifyPacket fun packet =>
    let packet := setPayloadLength packet (4 + 4 + errorPayloadLen ether.buffer)
    let packet := ICMPv6Packet.setType packet type
    let packet := ICMPv6Packet.setCode packet code
    if type = ICMP6_TYPE_PARAM_PROB then store packet 58 (bytes32 6)
    else store packet 58 (bytes32 0)

theorem icmp6ErrorReply_eq (ether : EtherSia) (type code : UInt8) :
    ether.icmp6ErrorReply type code = (errorMessage ether type code).icmp6PacketSend :=
  rfl

theorem icmp6PacketSend_agree (ether : EtherSia) {first last : Nat}
    (notProtocol : last ≤ 20 ∨ 21 ≤ first) (notChecksum : last ≤ 56 ∨ 58 ≤ first) :
    Agree ether.icmp6PacketSend.buffer ether.buffer first last := by
  have sealed : Agree ether.icmp6PacketSend.buffer
      (setProtocol ether.buffer IP6_PROTO_ICMP6) first last :=
    storeChecksum_agree _ notChecksum
  exact sealed.trans (agree_store _ _ notProtocol)

theorem icmp6PacketSend_protocol (ether : EtherSia) :
    protocol ether.icmp6PacketSend.buffer = IP6_PROTO_ICMP6 := by
  have sealed : Agree ether.icmp6PacketSend.buffer
      (setProtocol ether.buffer IP6_PROTO_ICMP6) 20 21 :=
    storeChecksum_agree _ (Or.inl (by decide))
  exact (sealed 20 le_rfl (by decide)).trans (u8_store_self _ _ _)

theorem icmp6PacketSend_packetEnd (ether : EtherSia) :
    packetEnd ether.icmp6PacketSend.buffer = packetEnd ether.buffer := by
  have same : payloadLength ether.icmp6PacketSend.buffer = payloadLength ether.buffer :=
    (icmp6PacketSend_agree ether (Or.inl (by decide)) (Or.inl (by decide))).u16At_eq
      (Nat.zero_le _) (le_refl 20)
  unfold packetEnd
  rw [same]

theorem SameUpTo.icmp6PacketSend {last : Nat} {left right : EtherSia}
    (same : SameUpTo last left right) (inside : packetEnd left.buffer ≤ last)
    (short : packetEnd left.buffer < 65536) :
    SameUpTo last left.icmp6PacketSend right.icmp6PacketSend := by
  have kept : packetEnd (setProtocol left.buffer IP6_PROTO_ICMP6) =
      packetEnd left.buffer := by
    simp [packetEnd]
  apply SameUpTo.send
  · apply same.modifyPacket
    intro memory agree
    exact Agree.storeChecksum_both (agree.store_both 20 [IP6_PROTO_ICMP6])
      (kept.trans_le inside) _ (by decide)
  · exact (icmp6PacketSend_packetEnd left).trans_le inside
  · exact (icmp6PacketSend_packetEnd left).trans_lt short

theorem errorMessage_payloadLength (ether : EtherSia) (type code : UInt8) :
    payloadLength (errorMessage ether type code).buffer =
      4 + 4 + errorPayloadLen ether.buffer := by
  simp only [errorMessage, EtherSia.modifyPacket]
  split
  · simp
  · simp

theorem errorMessage_packetEnd {ether : EtherSia} (type code : UInt8)
    (fits : packetEnd ether.buffer ≤ ETHERSIA_MAX_PACKET_SIZE) :
    packetEnd (errorMessage ether type code).buffer =
      62 + quotedLength ether.buffer := by
  have cut : quotedLength ether.buffer ≤ 538 := Nat.min_le_right _ _
  have total : (4 + 4 + errorPayloadLen ether.buffer).toNat =
      8 + quotedLength ether.buffer := by
    rw [UInt16.toNat_add, errorPayloadLen_toNat fits]
    change (8 + quotedLength ether.buffer) % 65536 = _
    omega
  unfold packetEnd
  rw [errorMessage_payloadLength, total]
  change 54 + _ = _
  omega

/-- The packet once it has been moved towards the end. -/
def movedPacket (packet : Memory) : Memory :=
  store packet 62 (bytesAt packet 14 (errorPayloadLen packet).toNat)

theorem errorMessage_agree (ether : EtherSia) (type code : UInt8) (last : Nat) :
    Agree (errorMessage ether type code).buffer (movedPacket ether.buffer) 62 last := by
  let moved := ether.modifyPacket movedPacket
  have finished : Agree (errorMessage ether type code).buffer moved.prepareReply.buffer 62
      last := by
    simp only [errorMessage, EtherSia.modifyPacket]
    split
    · iterate 4 apply (agree_store _ _ (by simp)).trans
      exact Agree.refl _ _ _
    · iterate 4 apply (agree_store _ _ (by simp)).trans
      exact Agree.refl _ _ _
  exact finished.trans ((prepareReply_payload moved last).mono (by decide) le_rfl)

/-- Behind the ICMPv6 header the message is the packet from its IPv6 header on. -/
theorem errorMessage_quotes {ether : EtherSia} (type code : UInt8)
    (fits : packetEnd ether.buffer ≤ ETHERSIA_MAX_PACKET_SIZE) :
    bytesAt (errorMessage ether type code).buffer 62 (quotedLength ether.buffer) =
      bytesAt ether.buffer 14 (quotedLength ether.buffer) := by
  have stored := bytesAt_store_self ether.buffer 62
    (bytesAt ether.buffer 14 (quotedLength ether.buffer))
  rw [bytesAt_length] at stored
  rw [(errorMessage_agree ether type code _).bytesAt_eq le_rfl le_rfl, movedPacket,
    errorPayloadLen_toNat fits, stored]

theorem errorMessage_behind {ether : EtherSia} (type code : UInt8)
    (fits : packetEnd ether.buffer ≤ ETHERSIA_MAX_PACKET_SIZE) (last : Nat) :
    Agree (errorMessage ether type code).buffer ether.buffer ETHERSIA_MAX_PACKET_SIZE
      last := by
  have cut : quotedLength ether.buffer ≤ 538 := Nat.min_le_right _ _
  have most : ETHERSIA_MAX_PACKET_SIZE = 600 := rfl
  have moved : Agree (movedPacket ether.buffer) ether.buffer ETHERSIA_MAX_PACKET_SIZE
      last := by
    apply agree_store _ _ (Or.inr _)
    rw [bytesAt_length, errorPayloadLen_toNat fits]
    omega
  exact ((errorMessage_agree ether type code last).mono (by decide) le_rfl).trans moved

theorem SameUpTo.errorMessage {left right : EtherSia}
    (same : SameUpTo ETHERSIA_MAX_PACKET_SIZE left right) (type code : UInt8)
    (fits : packetEnd left.buffer ≤ ETHERSIA_MAX_PACKET_SIZE) :
    SameUpTo ETHERSIA_MAX_PACKET_SIZE (errorMessage left type code)
      (errorMessage right type code) := by
  have most : ETHERSIA_MAX_PACKET_SIZE = 600 := rfl
  have cut : quotedLength left.buffer ≤ 538 := Nat.min_le_right _ _
  have sameLen : errorPayloadLen right.buffer = errorPayloadLen left.buffer := by
    obtain ⟨memory, rfl, agree⟩ := same
    have samePayload : payloadLength left.buffer = payloadLength memory :=
      agree.u16At_eq (Nat.zero_le _) (by decide)
    unfold errorPayloadLen
    rw [EtherSia.withBuffer_buffer, samePayload]
  let move : Memory → Memory := fun packet =>
    store packet 62 (bytesAt packet 14 (errorPayloadLen left.buffer).toNat)
  have moved : SameUpTo ETHERSIA_MAX_PACKET_SIZE (left.modifyPacket move)
      (right.modifyPacket move) := by
    apply same.modifyPacket
    intro memory agree
    have sameBytes : bytesAt left.buffer 14 (errorPayloadLen left.buffer).toNat =
        bytesAt memory 14 (errorPayloadLen left.buffer).toNat := by
      apply agree.bytesAt_eq (Nat.zero_le _)
      rw [errorPayloadLen_toNat fits]
      omega
    dsimp only [move]
    rw [sameBytes]
    exact agree.store_both _ _
  unfold EtherSiaStack.errorMessage
  rw [sameLen]
  apply (moved.prepareReply (by decide)).modifyPacket
  intro memory agree
  have header := ((agree.store_both 18
    (bytes16 (4 + 4 + errorPayloadLen left.buffer))).store_both 54 [type]).store_both 55
      [code]
  dsimp only
  split
  · exact header.store_both 58 _
  · exact header.store_both 58 _

/-- The packet sent is a valid error that quotes the packet it answers. -/
structure ReportsError (mac : MACAddress) (packet : Memory) (type code : UInt8)
    (reply : Memory) : Prop where
  valid : isValid reply = true
  isIcmp : protocol reply = IP6_PROTO_ICMP6
  isType : ICMPv6Packet.type reply = type
  isCode : reply 55 = code
  fromTarget : source reply = destination packet
  toSource : destination reply = source packet
  fromMac : etherSource reply = mac
  toSender : etherDestination reply = etherSource packet
  fits : (packetOctets reply).length ≤ ETHERSIA_MAX_PACKET_SIZE
  body : (packetOctets reply).drop 62 =
    bytesAt packet 14 (min (40 + (payloadLength packet).toNat) 538)

theorem errorMessage_header {ether : EtherSia} (type code : UInt8)
    (unicast : destination ether.buffer = ether.linkLocalAddress ∨
      destination ether.buffer = ether.globalAddress) :
    let message := (errorMessage ether type code).buffer
    source message = destination ether.buffer ∧ destination message = source ether.buffer ∧
      etherDestination message = etherSource ether.buffer ∧ message 54 = type ∧
        message 55 = code := by
  let moved := ether.modifyPacket movedPacket
  have kept : Agree moved.buffer ether.buffer 0 54 := agree_store _ _ (Or.inl (by decide))
  have sameDestination : destination moved.buffer = destination ether.buffer :=
    destination_congr (kept.mono (by decide) le_rfl)
  have sameSource : source moved.buffer = source ether.buffer :=
    source_congr (kept.mono (by decide) (by decide))
  have sameSender : etherSource moved.buffer = etherSource ether.buffer :=
    congrArg MACAddress.mk (kept.blockAt_eq (by decide) (by decide))
  have repliesFrom : moved.replySourceAddress = destination ether.buffer := by
    rw [← sameDestination] at unicast ⊢
    exact replySourceAddress_eq unicast
  have toSource : destination moved.prepareReply.buffer = source ether.buffer :=
    (prepareReply_destination moved).trans sameSource
  have fromUs : source moved.prepareReply.buffer = destination ether.buffer := by
    rw [← repliesFrom]
    simp [EtherSia.prepareReply]
  have toSender : etherDestination moved.prepareReply.buffer = etherSource ether.buffer := by
    rw [← sameSender]
    simp [EtherSia.prepareReply]
  rw [← toSource, ← fromUs, ← toSender]
  simp only [errorMessage, EtherSia.modifyPacket]
  split
  · refine ⟨?_, ?_, ?_, ?_, ?_⟩
    all_goals simp [moved, movedPacket, EtherSia.modifyPacket]
  · refine ⟨?_, ?_, ?_, ?_, ?_⟩
    all_goals simp [moved, movedPacket, EtherSia.modifyPacket]

theorem icmp6ErrorReply_reports {ether : EtherSia} (type code : UInt8)
    (valid : isValid ether.buffer = true)
    (unicast : destination ether.buffer = ether.linkLocalAddress ∨
      destination ether.buffer = ether.globalAddress)
    (fits : packetEnd ether.buffer ≤ ETHERSIA_MAX_PACKET_SIZE) :
    ReportsError ether.localMac ether.buffer type code
      (ether.icmp6ErrorReply type code).buffer := by
  have transmits := ether.icmp6ErrorReply_transmits (headerValid_of_isValid valid) type code
  have cut : quotedLength ether.buffer ≤ 538 := Nat.min_le_right _ _
  have most : ETHERSIA_MAX_PACKET_SIZE = 600 := rfl
  obtain ⟨fromTarget, toSource, toSender, isType, isCode⟩ :=
    errorMessage_header type code unicast
  rw [icmp6ErrorReply_eq] at transmits ⊢
  let message := errorMessage ether type code
  have kept : Agree message.icmp6PacketSend.buffer message.buffer 21 56 :=
    icmp6PacketSend_agree message (Or.inr le_rfl) (Or.inl le_rfl)
  have quoted : Agree message.icmp6PacketSend.buffer message.buffer 62
      (62 + quotedLength ether.buffer) :=
    icmp6PacketSend_agree message (Or.inr (by decide)) (Or.inr (by decide))
  have isEnd : packetEnd message.icmp6PacketSend.buffer =
      62 + quotedLength ether.buffer :=
    (icmp6PacketSend_packetEnd message).trans (errorMessage_packetEnd type code fits)
  have isLength : (length message.icmp6PacketSend.buffer).toNat =
      62 + quotedLength ether.buffer := by
    rw [length_toNat (by omega), isEnd]
  exact {
    valid := transmits.valid
    isIcmp := icmp6PacketSend_protocol message
    isType := (kept 54 (by decide) (by decide)).trans isType
    isCode := (kept 55 (by decide) (by decide)).trans isCode
    fromTarget := (source_congr (kept.mono (by decide) (by decide))).trans fromTarget
    toSource := (destination_congr (kept.mono (by decide) (by decide))).trans toSource
    fromMac := transmits.source
    toSender := by
      have low : Agree message.icmp6PacketSend.buffer message.buffer 0 6 :=
        icmp6PacketSend_agree message (Or.inl (by decide)) (Or.inl (by decide))
      exact (congrArg MACAddress.mk (low.blockAt_eq le_rfl le_rfl)).trans toSender
    fits := by
      rw [packetOctets, bytesAt_length, isLength]
      omega
    body := by
      rw [packetOctets, drop_bytesAt, isLength, Nat.zero_add, Nat.add_sub_cancel_left]
      exact (quoted.bytesAt_eq le_rfl le_rfl).trans (errorMessage_quotes type code fits) }

theorem icmp6ErrorReply_usesOnlyBuffer {ether : EtherSia} (type code : UInt8)
    (fits : packetEnd ether.buffer ≤ ETHERSIA_MAX_PACKET_SIZE) :
    UsesOnlyBuffer (fun ether => ether.icmp6ErrorReply type code) ether := by
  have most : ETHERSIA_MAX_PACKET_SIZE = 600 := rfl
  have cut : quotedLength ether.buffer ≤ 538 := Nat.min_le_right _ _
  have isEnd := errorMessage_packetEnd type code fits
  constructor
  · intro address behind
    have sealed : Agree (errorMessage ether type code).icmp6PacketSend.buffer
        (errorMessage ether type code).buffer ETHERSIA_MAX_PACKET_SIZE (address + 1) :=
      icmp6PacketSend_agree _ (Or.inr (by decide)) (Or.inr (by decide))
    exact (sealed.trans (errorMessage_behind type code fits _)) address behind
      (Nat.lt_succ_self _)
  · intro memory agree
    have same : SameUpTo ETHERSIA_MAX_PACKET_SIZE ether (ether.withBuffer memory) :=
      ⟨memory, rfl, agree⟩
    exact (same.errorMessage type code fits).icmp6PacketSend (by omega) (by omega)

/-- Type and code of the error that reports a packet of this protocol. -/
def errorFor (protocol : UInt8) : UInt8 × UInt8 :=
  if protocol = IP6_PROTO_UDP then (ICMP6_TYPE_UNREACHABLE, ICMP6_CODE_PORT_UNREACHABLE)
  else (ICMP6_TYPE_PARAM_PROB, ICMP6_CODE_UNRECOGNIZED_NH)

theorem rejectPacket_of_other {ether : EtherSia}
    (received : ether.bufferContainsReceived = true)
    (unicast : (destination ether.buffer).isMulticast = false)
    (notTcp : protocol ether.buffer ≠ IP6_PROTO_TCP)
    (notIcmp : protocol ether.buffer ≠ IP6_PROTO_ICMP6) :
    ether.rejectPacket = ether.icmp6ErrorReply (errorFor (protocol ether.buffer)).1
      (errorFor (protocol ether.buffer)).2 := by
  unfold EtherSia.rejectPacket errorFor
  rw [received, unicast, if_neg (by decide), if_neg (by decide), if_neg notTcp]
  by_cases isUdp : protocol ether.buffer = IP6_PROTO_UDP
  · rw [if_pos isUdp, if_pos isUdp]
  · rw [if_neg isUdp, if_neg isUdp, if_neg notIcmp]

/-- A packet of UDP or of an unknown protocol, sent to one of our addresses, is rejected
by one error that quotes as much of it as fits. -/
theorem rejectPacket_reports {ether : EtherSia} {frame : Frame}
    (accepts : ether.Accepts frame)
    (notTcp : protocol (ether.accepted frame).buffer ≠ IP6_PROTO_TCP)
    (notIcmp : protocol (ether.accepted frame).buffer ≠ IP6_PROTO_ICMP6)
    (ours : destination (ether.accepted frame).buffer = ether.linkLocalAddress ∨
      destination (ether.accepted frame).buffer = ether.globalAddress)
    (unicast : (destination (ether.accepted frame).buffer).isMulticast = false)
    (fits : packetEnd (ether.accepted frame).buffer ≤ ETHERSIA_MAX_PACKET_SIZE) :
    let received := ether.accepted frame
    let error := errorFor (protocol received.buffer)
    ether.receivePacket frame = some (UInt16.ofNat frame.octets.length, received) ∧
      received.rejectPacket.sent =
        ether.sent ++ [packetOctets received.rejectPacket.buffer] ∧
      ReportsError ether.localMac received.buffer error.1 error.2
        received.rejectPacket.buffer ∧
      UsesOnlyBuffer EtherSia.rejectPacket received := by
  have valid : isValid (ether.accepted frame).buffer = true :=
    ((EtherSia.acceptsPacket_iff _).mp accepts.2).1
  have rejects := rejectPacket_of_other rfl unicast notTcp notIcmp
  have reports : ReportsError ether.localMac (ether.accepted frame).buffer _ _ _ :=
    icmp6ErrorReply_reports (errorFor (protocol (ether.accepted frame).buffer)).1
      (errorFor (protocol (ether.accepted frame).buffer)).2 valid ours fits
  have usesOnly := icmp6ErrorReply_usesOnlyBuffer
    (errorFor (protocol (ether.accepted frame).buffer)).1
    (errorFor (protocol (ether.accepted frame).buffer)).2 fits
  refine ⟨EtherSia.receivePacket_of_not_icmp accepts notIcmp, ?_, ?_, ?_, ?_⟩
  · rw [rejects]
    rfl
  · rw [rejects]
    exact reports
  · rw [rejects]
    exact usesOnly.writes
  · intro memory agree
    have sameProtocol : protocol memory = protocol (ether.accepted frame).buffer :=
      (agree 20 (by decide) (by decide)).symm
    have sameDestination : destination memory = destination (ether.accepted frame).buffer :=
      destination_congr (agree.symm.mono (by decide) (by decide))
    have alsoRejects : ((ether.accepted frame).withBuffer memory).rejectPacket = _ :=
      rejectPacket_of_other rfl (sameDestination ▸ unicast) (sameProtocol ▸ notTcp)
        (sameProtocol ▸ notIcmp)
    rw [rejects, alsoRejects, EtherSia.withBuffer_buffer, sameProtocol]
    exact usesOnly.reads memory agree

/-- Six bytes of data for port 53. -/
def datagramToReport : Frame :=
  exampleFrame 14 IP6_PROTO_UDP
    [0x10, 0, 0, 53, 0, 14, 0xb0, 0xa5, 0x68, 0x65, 0x6c, 0x6c, 0x6f, 0x21] (by decide)

theorem rejectPacket_reports_datagram :
    let received := exampleStation.ether.accepted datagramToReport
    exampleStation.ether.receivePacket datagramToReport = some (68, received) ∧
      received.rejectPacket.sent = [packetOctets received.rejectPacket.buffer] ∧
      ReportsError (exampleMac 1) received.buffer ICMP6_TYPE_UNREACHABLE
        ICMP6_CODE_PORT_UNREACHABLE received.rejectPacket.buffer ∧
      UsesOnlyBuffer EtherSia.rejectPacket received :=
  rejectPacket_reports ⟨by decide, by decide +kernel⟩ (by decide +kernel)
    (by decide +kernel) (Or.inl (by decide +kernel)) (by decide +kernel)
    (by decide +kernel)

/-! ### Echo replies -/

/-- The packet sent is a valid echo reply that differs from the request in its
addresses, type, code, hop limit and checksum alone. -/
structure AnswersEcho (mac : MACAddress) (request reply : Memory) : Prop where
  valid : isValid reply = true
  exactLength : (packetOctets reply).length = packetEnd request
  isIcmp : protocol reply = IP6_PROTO_ICMP6
  isReply : ICMPv6Packet.type reply = ICMP6_TYPE_ECHO_REPLY
  isCode : reply 55 = 0
  fromTarget : source reply = destination request
  toSource : destination reply = source request
  fromMac : etherSource reply = mac
  toSender : etherDestination reply = etherSource request
  data : (packetOctets reply).drop 58 = bytesAt request 58 (packetEnd request - 58)

theorem icmp6EchoReply_answers {ether : EtherSia} (valid : isValid ether.buffer = true)
    (unicast : destination ether.buffer = ether.linkLocalAddress ∨
      destination ether.buffer = ether.globalAddress)
    (long : 8 ≤ (payloadLength ether.buffer).toNat)
    (fits : packetEnd ether.buffer ≤ ETHERSIA_MAX_PACKET_SIZE) :
    AnswersEcho ether.localMac ether.buffer ether.icmp6EchoReply.buffer := by
  have transmits := EtherSia.icmp6EchoReply_transmits (headerValid_of_isValid valid) (by omega)
  have most : ETHERSIA_MAX_PACKET_SIZE = 600 := rfl
  let message := ether.prepareReply.modifyPacket fun packet =>
    ICMPv6Packet.setCode (ICMPv6Packet.setType packet ICMP6_TYPE_ECHO_REPLY) 0
  have isReply : ether.icmp6EchoReply = message.icmp6PacketSend := rfl
  rw [isReply] at transmits ⊢
  have edited (last : Nat) : Agree message.buffer ether.prepareReply.buffer 56 last :=
    (agree_store _ _ (by simp)).trans (agree_store _ _ (by simp))
  have header : Agree message.buffer ether.prepareReply.buffer 0 54 :=
    (agree_store _ _ (by simp)).trans (agree_store _ _ (by simp))
  have kept : Agree message.icmp6PacketSend.buffer message.buffer 21 56 :=
    icmp6PacketSend_agree message (Or.inr le_rfl) (Or.inl le_rfl)
  have low : Agree message.icmp6PacketSend.buffer message.buffer 0 20 :=
    icmp6PacketSend_agree message (Or.inl le_rfl) (Or.inl (by decide))
  have endIs : packetEnd ether.buffer = 54 + (payloadLength ether.buffer).toNat := rfl
  have sameLength : payloadLength message.buffer = payloadLength ether.buffer := by
    simp [message, EtherSia.modifyPacket, EtherSia.prepareReply]
  have sameEnd : packetEnd message.icmp6PacketSend.buffer = packetEnd ether.buffer := by
    rw [icmp6PacketSend_packetEnd]
    unfold packetEnd
    rw [sameLength]
  have isLength : (length message.icmp6PacketSend.buffer).toNat =
      packetEnd ether.buffer := by
    rw [length_toNat (by omega), sameEnd]
  have behind : Agree message.icmp6PacketSend.buffer ether.buffer 58
      (packetEnd ether.buffer) :=
    ((icmp6PacketSend_agree message (Or.inr (by decide)) (Or.inr le_rfl)).trans
      ((edited _).mono (by decide) le_rfl)).trans
        ((prepareReply_payload ether _).mono (by decide) le_rfl)
  have repliesFrom := replySourceAddress_eq unicast
  have fromUs : source ether.prepareReply.buffer = destination ether.buffer := by
    rw [← repliesFrom]
    simp [EtherSia.prepareReply]
  have toSender : etherDestination ether.prepareReply.buffer = etherSource ether.buffer := by
    simp [EtherSia.prepareReply]
  exact {
    valid := transmits.valid
    exactLength := by rw [packetOctets, bytesAt_length, isLength]
    isIcmp := icmp6PacketSend_protocol message
    isReply := by
      refine (kept 54 (by decide) (by decide)).trans ?_
      simp [message, EtherSia.modifyPacket]
    isCode := by
      refine (kept 55 (by decide) (by decide)).trans ?_
      simp [message, EtherSia.modifyPacket]
    fromTarget := (source_congr ((kept.mono (by decide) (by decide)).trans
      (header.mono (by decide) (by decide)))).trans fromUs
    toSource := (destination_congr ((kept.mono (by decide) (by decide)).trans
      (header.mono (by decide) le_rfl))).trans (prepareReply_destination ether)
    fromMac := transmits.source
    toSender := (congrArg MACAddress.mk (((low.mono le_rfl (by decide)).trans
      (header.mono le_rfl (by decide))).blockAt_eq le_rfl le_rfl)).trans toSender
    data := by
      rw [packetOctets, drop_bytesAt, isLength, Nat.zero_add]
      exact behind.bytesAt_eq le_rfl (by omega) }

/-- The echo law. -/
theorem receivePacket_answers_echo {ether : EtherSia} {frame : Frame}
    (accepts : ether.Accepts frame)
    (isIcmp : protocol (ether.accepted frame).buffer = IP6_PROTO_ICMP6)
    (isRequest : ICMPv6Packet.type (ether.accepted frame).buffer = ICMP6_TYPE_ECHO)
    (ours : destination (ether.accepted frame).buffer = ether.linkLocalAddress ∨
      destination (ether.accepted frame).buffer = ether.globalAddress ∧
        ether.globalAddress.isZero = false)
    (long : 8 ≤ (payloadLength (ether.accepted frame).buffer).toNat)
    (fits : packetEnd (ether.accepted frame).buffer ≤ ETHERSIA_MAX_PACKET_SIZE) :
    ∃ after, ether.receivePacket frame = some (0, after) ∧
      after.sent = ether.sent ++ [packetOctets after.buffer] ∧
        AnswersEcho ether.localMac (ether.accepted frame).buffer after.buffer := by
  let received := ether.accepted frame
  have unicast : destination received.buffer = received.linkLocalAddress ∨
      destination received.buffer = received.globalAddress := ours.imp_right And.left
  have valid : isValid received.buffer = true :=
    ((EtherSia.acceptsPacket_iff _).mp accepts.2).1
  have forUs : received.isOurAddress (destination received.buffer) ≠ none := by
    rcases unicast with isLinkLocal | isGlobal
    · rw [isLinkLocal, isOurAddress_linkLocal]
      simp
    · rw [isGlobal]
      exact isOurAddress_global_ne_none received
  refine ⟨received.icmp6EchoReply, ?_, rfl,
    icmp6EchoReply_answers valid unicast long fits⟩
  rw [EtherSia.receivePacket_of_accepts accepts]
  exact EtherSia.dispatchReceived_echoed ⟨isIcmp, forUs, isRequest⟩ _

theorem receivePacket_answers_echoRequest :
    ∃ after, exampleStation.ether.receivePacket echoRequest = some (0, after) ∧
      after.sent = [packetOctets after.buffer] ∧
        AnswersEcho (exampleMac 1) (exampleStation.ether.accepted echoRequest).buffer
          after.buffer :=
  receivePacket_answers_echo ⟨by decide, by decide +kernel⟩ (by decide +kernel)
    (by decide +kernel) (Or.inl (by decide +kernel)) (by decide +kernel)
    (by decide +kernel)

end EtherSiaStack
