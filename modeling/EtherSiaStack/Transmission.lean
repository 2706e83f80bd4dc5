/-
Every frame the library transmits.

A packet is handed to `sendFrame` by exactly one function, and every path to it
ends by filling in the checksum.  `Transmits` says what such a call leaves
behind; the frame is a valid packet whenever the checksum field it filled in lay
inside the payload it announces.
-/

import EtherSiaStack.Checksum
import EtherSiaStack.Station

namespace EtherSiaStack

open ByteMemory IPv6Packet

/-- The memory of a station that received the octets into a cleared buffer. -/
def ofOctets (octets : List UInt8) : Memory :=
  store (fun _ => 0) 0 octets

theorem ofOctets_bytesAt (memory : Memory) (count : Nat) :
    Agree (ofOctets (bytesAt memory 0 count)) memory 0 count := by
  have agree := agree_store_bytesAt memory (fun _ => 0) 0 count
  rwa [Nat.zero_add] at agree

theorem length_toNat {memory : Memory} (short : packetEnd memory < 65536) :
    (length memory).toNat = packetEnd memory := by
  have bound : 54 + (payloadLength memory).toNat < 65536 := short
  have sum : (length memory).toNat =
      ((14 + 40 : UInt16).toNat + (payloadLength memory).toNat) % 65536 :=
    UInt16.toNat_add _ _
  rw [sum]
  exact Nat.mod_eq_of_lt bound

/-- A frame that is a valid packet, of exactly its own length, from `mac`. -/
structure FrameOk (mac : MACAddress) (octets : List UInt8) : Prop where
  valid : isValid (ofOctets octets) = true
  exactLength : octets.length = 54 + (payloadLength (ofOctets octets)).toNat
  fromMac : etherSource (ofOctets octets) = mac

theorem frameOk_of_packet {memory : Memory} {mac : MACAddress}
    (valid : isValid memory = true) (fromMac : etherSource memory = mac)
    (short : packetEnd memory < 65536) :
    FrameOk mac (bytesAt memory 0 (length memory).toNat) := by
  rw [length_toNat short]
  have headerInside : 54 ≤ packetEnd memory := payload_le_packetEnd memory
  have agree := ofOctets_bytesAt memory (packetEnd memory)
  have sameLength :
      payloadLength (ofOctets (bytesAt memory 0 (packetEnd memory))) =
        payloadLength memory :=
    agree.u16At_eq (by decide) (by omega)
  have sameEnd :
      packetEnd (ofOctets (bytesAt memory 0 (packetEnd memory))) = packetEnd memory := by
    rw [packetEnd, sameLength]
    rfl
  refine ⟨?_, ?_, ?_⟩
  · rw [isValid_congr
      (agree.mono (Nat.zero_le 12) (Nat.le_of_eq sameEnd))]
    exact valid
  · rw [bytesAt_length, sameLength]
    rfl
  · have sameSource :
        etherSource (ofOctets (bytesAt memory 0 (packetEnd memory))) =
          etherSource memory := by
      simp only [etherSource]
      rw [agree.blockAt_eq (Nat.zero_le 6) (by omega)]
    exact sameSource.trans fromMac

/-! ### One transmission -/

/-- The call handed the packet in the buffer to `sendFrame`, and it is valid and
ours. -/
structure Transmits (before after : EtherSia) : Prop where
  received : after.bufferContainsReceived = false
  sent : after.sent =
    before.sent ++ [bytesAt after.buffer 0 (length after.buffer).toNat]
  valid : isValid after.buffer = true
  source : etherSource after.buffer = before.localMac
  localMac : after.localMac = before.localMac

namespace EtherSia

/-- A packet in the buffer that only lacks its checksum. -/
structure Unsealed (ether : EtherSia) (checksumAddress : Nat) : Prop where
  header : HeaderValid ether.buffer
  source : etherSource ether.buffer = ether.localMac
  field : ChecksumField ether.buffer checksumAddress

theorem transmits_send_storeChecksum {ether : EtherSia} {address : Nat}
    (ready : ether.Unsealed address) :
    Transmits ether
      (ether.modifyPacket fun packet => storeChecksum packet address).send where
  received := rfl
  sent := rfl
  valid := isValid_storeChecksum ready.header ready.field
  source := by
    have above : 54 ≤ address := ready.field.inPayload
    have kept : etherSource (storeChecksum ether.buffer address) =
        etherSource ether.buffer := by
      simp only [etherSource, storeChecksum]
      rw [blockAt_store_disjoint _ _ (by omega), blockAt_store_disjoint _ _ (by omega)]
    exact kept.trans ready.source
  localMac := rfl

end EtherSia

theorem Transmits.of_eq {before between after : EtherSia}
    (transmits : Transmits between after) (sent : between.sent = before.sent)
    (localMac : between.localMac = before.localMac) : Transmits before after where
  received := transmits.received
  sent := by rw [transmits.sent, sent]
  valid := transmits.valid
  source := transmits.source.trans localMac
  localMac := transmits.localMac.trans localMac

/-! ### The send paths -/

/-- The headers `prepareSend` and `prepareReply` leave behind. -/
structure Prepared (ether : EtherSia) : Prop where
  header : HeaderValid ether.buffer
  source : etherSource ether.buffer = ether.localMac

theorem prepared_prepareSend (ether : EtherSia) : Prepared ether.prepareSend := by
  constructor
  · apply (headerValid_init ether.buffer).congr
    simp only [EtherSia.prepareSend]
    apply (agree_store _ _ (by simp)).trans
    split_ifs
    · exact agree_store _ _ (by simp)
    · exact agree_store _ _ (by simp)
  · simp [EtherSia.prepareSend]

theorem prepared_prepareReply {ether : EtherSia} (header : HeaderValid ether.buffer) :
    Prepared ether.prepareReply := by
  constructor
  · apply header.congr
    simp only [EtherSia.prepareReply]
    iterate 4 apply (agree_store _ _ (by simp)).trans
    exact agree_store _ _ (by simp)
  · simp [EtherSia.prepareReply]

theorem prepareSend_payload (ether : EtherSia) (last : Nat) :
    Agree ether.prepareSend.buffer ether.buffer 54 last := by
  simp only [EtherSia.prepareSend]
  apply (agree_store _ _ (by simp)).trans
  split_ifs
  · iterate 6 apply (agree_store _ _ (by simp)).trans
    exact Agree.refl _ _ _
  · iterate 6 apply (agree_store _ _ (by simp)).trans
    exact Agree.refl _ _ _

theorem prepareReply_payload (ether : EtherSia) (last : Nat) :
    Agree ether.prepareReply.buffer ether.buffer 54 last := by
  simp only [EtherSia.prepareReply]
  iterate 5 apply (agree_store _ _ (by simp)).trans
  exact Agree.refl _ _ _

/-- Changes behind the IP version keep the headers prepared. -/
theorem Prepared.modifyPacket {ether : EtherSia} (prepared : Prepared ether)
    {change : Memory → Memory}
    (agree : Agree (change ether.buffer) ether.buffer 6 15) :
    Prepared (ether.modifyPacket change) where
  header := prepared.header.congr (agree.mono (by decide) (Nat.le_refl _))
  source := by
    have same : etherSource (change ether.buffer) = etherSource ether.buffer := by
      simp only [etherSource]
      rw [agree.blockAt_eq (Nat.le_refl _) (by decide)]
    exact same.trans prepared.source

theorem Prepared.unsealed {ether : EtherSia} (prepared : Prepared ether)
    {address : Nat} (field : ChecksumField ether.buffer address) :
    ether.Unsealed address :=
  ⟨prepared.header, prepared.source, field⟩

namespace EtherSia

/-- A packet built behind prepared headers and sealed, once its length field
says that the checksum field is part of it. -/
theorem send_modifyPacket_transmits {before ether : EtherSia} (prepared : Prepared ether)
    {change : Memory → Memory} {address : Nat}
    (agree : ∀ packet, Agree (change packet) packet 6 15)
    (inPayload : payload ≤ address) (even : (address - payload) % 2 = 0)
    (covered : address + 2 ≤ 54 + (payloadLength (change ether.buffer)).toNat)
    (sent : ether.sent = before.sent) (localMac : ether.localMac = before.localMac) :
    Transmits before
      (ether.modifyPacket fun packet => storeChecksum (change packet) address).send :=
  (transmits_send_storeChecksum
    ((prepared.modifyPacket (agree _)).unsealed ⟨inPayload, even, covered⟩)).of_eq
      sent localMac

theorem icmp6PacketSend_transmits {before ether : EtherSia} (prepared : Prepared ether)
    {change : Memory → Memory} (agree : ∀ packet, Agree (change packet) packet 6 15)
    (long : 4 ≤ (payloadLength (change ether.buffer)).toNat)
    (sent : ether.sent = before.sent) (localMac : ether.localMac = before.localMac) :
    Transmits before (ether.modifyPacket change).icmp6PacketSend := by
  have start : payload = 54 := rfl
  have sameLength :
      payloadLength (setProtocol (change ether.buffer) IP6_PROTO_ICMP6) =
        payloadLength (change ether.buffer) := by simp
  apply send_modifyPacket_transmits
    (prepared.modifyPacket (agree ether.buffer))
  · intro packet
    exact agree_store _ _ (by simp)
  · decide
  · decide
  · change 58 ≤ 54 +
      (payloadLength (setProtocol (change ether.buffer) IP6_PROTO_ICMP6)).toNat
    rw [sameLength]
    omega
  · exact sent
  · exact localMac

theorem icmp6ErrorReply_transmits {ether : EtherSia}
    (header : HeaderValid ether.buffer) (type code : UInt8) :
    Transmits ether (ether.icmp6ErrorReply type code) := by
  simp only [icmp6ErrorReply]
  generalize hLen : (if 40 + payloadLength ether.buffer > 538 then (538 : UInt16)
    else 40 + payloadLength ether.buffer) = payloadLen
  have bounded : payloadLen.toNat ≤ 538 := by
    rw [← hLen]
    split
    · decide
    · rename_i small
      exact UInt16.le_iff_toNat_le.mp (UInt16.not_lt.mp small)
  have movedHeader : HeaderValid
      (store ether.buffer 62 (bytesAt ether.buffer 14 payloadLen.toNat)) :=
    header.congr (agree_store _ _ (Or.inl (by decide)))
  let moved := ether.modifyPacket fun packet =>
    store packet 62 (bytesAt packet 14 payloadLen.toNat)
  have prepared : Prepared moved.prepareReply := prepared_prepareReply movedHeader
  apply icmp6PacketSend_transmits prepared
  · intro packet
    split
    · repeat apply (agree_store _ _ (by simp)).trans
      exact Agree.refl _ _ _
    · repeat apply (agree_store _ _ (by simp)).trans
      exact Agree.refl _ _ _
  · split
    · simp
      omega
    · simp
      omega
  · rfl
  · rfl

/-- Nothing is sent when the target is not ours. -/
theorem icmp6NSReply_transmits {ether : EtherSia} (header : HeaderValid ether.buffer) :
    ether.icmp6NSReply = ether ∨ Transmits ether ether.icmp6NSReply := by
  simp only [icmp6NSReply]
  split
  · exact Or.inl rfl
  · right
    apply icmp6PacketSend_transmits (prepared_prepareReply header)
    · intro packet
      repeat apply (agree_store _ _ (by simp)).trans
      exact Agree.refl _ _ _
    · simp
    · rfl
    · rfl

/-- The reply keeps the length of the request, which must cover the header. -/
theorem icmp6EchoReply_transmits {ether : EtherSia} (header : HeaderValid ether.buffer)
    (long : 4 ≤ (payloadLength ether.buffer).toNat) :
    Transmits ether ether.icmp6EchoReply := by
  apply icmp6PacketSend_transmits (prepared_prepareReply header)
  · intro packet
    repeat apply (agree_store _ _ (by simp)).trans
    exact Agree.refl _ _ _
  · simpa [prepareReply] using long
  · rfl
  · rfl

theorem icmp6SendNS_transmits (ether : EtherSia) (target source : IPv6Address) :
    Transmits ether (ether.icmp6SendNS target source) := by
  apply icmp6PacketSend_transmits (prepared_prepareSend _)
  · intro packet
    repeat apply (agree_store _ _ (by simp)).trans
    exact Agree.refl _ _ _
  · simp
  · rfl
  · rfl

theorem icmp6SendRS_transmits (ether : EtherSia) :
    Transmits ether ether.icmp6SendRS := by
  apply icmp6PacketSend_transmits (prepared_prepareSend ether)
  · intro packet
    repeat apply (agree_store _ _ (by simp)).trans
    exact Agree.refl _ _ _
  · simp
  · rfl
  · rfl

theorem tcpSendRSTReply_transmits {ether : EtherSia}
    (header : HeaderValid ether.buffer) : Transmits ether ether.tcpSendRSTReply := by
  apply send_modifyPacket_transmits (prepared_prepareReply header)
  · intro packet
    repeat apply (agree_store _ _ (by simp)).trans
    exact Agree.refl _ _ _
  · decide
  · decide
  · simp [TCPHeader.checksumAddress, TCP_MINIMUM_HEADER_LEN]
  · rfl
  · rfl

end EtherSia

/-! ### Sockets -/

theorem Socket.prepared_prepare (socket : Socket) {isReply : Bool} {ether : EtherSia}
    (header : isReply = true → HeaderValid ether.buffer) :
    Prepared (socket.prepare isReply ether) := by
  unfold Socket.prepare
  split
  · rename_i reply
    exact prepared_prepareReply (header reply)
  · exact prepared_prepareSend _

theorem Socket.prepare_sent (socket : Socket) (isReply : Bool) (ether : EtherSia) :
    (socket.prepare isReply ether).sent = ether.sent := by
  unfold Socket.prepare
  split <;> rfl

theorem Socket.prepare_localMac (socket : Socket) (isReply : Bool) (ether : EtherSia) :
    (socket.prepare isReply ether).localMac = ether.localMac := by
  unfold Socket.prepare
  split <;> rfl

/-- The UDP length does not wrap. -/
theorem UDPSocket.send_transmits (socket : Socket) {length : UInt16} {isReply : Bool}
    {ether : EtherSia} (header : isReply = true → HeaderValid ether.buffer)
    (fits : length.toNat ≤ 65527) :
    Transmits ether (UDPSocket.send socket length isReply ether) := by
  apply EtherSia.send_modifyPacket_transmits (socket.prepared_prepare header)
  · intro packet
    cases isReply
    · repeat apply (agree_store _ _ (by simp)).trans
      exact Agree.refl _ _ _
    · repeat apply (agree_store _ _ (by simp)).trans
      exact Agree.refl _ _ _
  · decide
  · decide
  · cases isReply
    · simp [UDPHeader.checksumAddress, UDP_HEADER_LEN]
      omega
    · simp [UDPHeader.checksumAddress, UDP_HEADER_LEN]
      omega
  · exact socket.prepare_sent isReply ether
  · exact socket.prepare_localMac isReply ether

/-- The TCP length, which may wrap, still covers the checksum field. -/
def TCPLengthFits (length : UInt16) : Prop :=
  18 ≤ (TCP_TRANSMIT_HEADER_LEN + length).toNat

instance (length : UInt16) : Decidable (TCPLengthFits length) :=
  inferInstanceAs (Decidable (18 ≤ (TCP_TRANSMIT_HEADER_LEN + length).toNat))

theorem TCPServer.send_transmits (socket : Socket) {length : UInt16} {isReply : Bool}
    {ether : EtherSia} (header : isReply = true → HeaderValid ether.buffer)
    (fits : TCPLengthFits length) :
    Transmits ether (TCPServer.send socket length isReply ether) := by
  apply EtherSia.send_modifyPacket_transmits (socket.prepared_prepare header)
  · intro packet
    unfold segmentFields
    repeat apply (agree_store _ _ (by simp)).trans
    split
    · exact agree_store _ _ (by simp)
    · exact Agree.refl _ _ _
  · decide
  · decide
  · unfold segmentFields
    have fits : 18 ≤ (TCP_TRANSMIT_HEADER_LEN + length).toNat := fits
    simp only [IPv6Packet.payloadLength, setPayloadLength, u16At_store_self,
      TCPHeader.checksumAddress]
    omega
  · exact socket.prepare_sent isReply ether
  · exact socket.prepare_localMac isReply ether

namespace TCPClient

open TCPHeader

theorem tcpHeaderFields_agree (client : TCPClient) (packet : Memory) :
    Agree (client.tcpHeaderFields packet) packet 6 20 := by
  unfold tcpHeaderFields
  repeat apply (agree_store _ _ (by simp)).trans
  split
  · repeat apply (agree_store _ _ (by simp)).trans
    exact Agree.refl _ _ _
  · repeat apply (agree_store _ _ (by simp)).trans
    exact Agree.refl _ _ _

/-- Set the payload length and fill in the TCP header. -/
theorem send_fillTCPHeader_transmits {before ether : EtherSia}
    (prepared : Prepared ether) (client : TCPClient) {change : Memory → Memory}
    (agree : ∀ packet, Agree (change packet) packet 6 15)
    (fits : 18 ≤ (IPv6Packet.payloadLength (change ether.buffer)).toNat)
    (sent : ether.sent = before.sent) (localMac : ether.localMac = before.localMac) :
    Transmits before
      (ether.modifyPacket fun packet => client.fillTCPHeader (change packet)).send := by
  apply EtherSia.send_modifyPacket_transmits prepared
  · intro packet
    exact ((client.tcpHeaderFields_agree _).mono (Nat.le_refl _) (by decide)).trans
      (agree packet)
  · decide
  · decide
  · have same : IPv6Packet.payloadLength
          (client.tcpHeaderFields (change ether.buffer)) =
        IPv6Packet.payloadLength (change ether.buffer) :=
      (client.tcpHeaderFields_agree _).u16At_eq (by decide) (by decide)
    rw [same]
    simp only [checksumAddress]
    omega
  · exact sent
  · exact localMac

theorem receiveHeaderLen_setDataOffset (packet : Memory) (dataOffset : UInt8) :
    receiveHeaderLen (setDataOffset packet dataOffset) =
      ((dataOffset &&& 0xF0) >>> 2).toUInt16 := by
  simp [receiveHeaderLen]

theorem send_transmits (client : TCPClient) {length : UInt16} {isReply : Bool}
    {ether : EtherSia} (header : isReply = true → HeaderValid ether.buffer)
    (fits : TCPLengthFits length) :
    Transmits ether (client.send length isReply ether).2 := by
  have transmits : Transmits ether
      ((client.toSocket.prepare isReply ether).modifyPacket fun packet =>
        let packet := setDataOffset packet 0x60
        let packet := setPayloadLength packet (receiveHeaderLen packet + length)
        client.fillTCPHeader packet).send := by
    apply send_fillTCPHeader_transmits (client.toSocket.prepared_prepare header)
    · intro packet
      repeat apply (agree_store _ _ (by simp)).trans
      exact Agree.refl _ _ _
    · rw [receiveHeaderLen_setDataOffset]
      simp only [IPv6Packet.payloadLength, setPayloadLength, u16At_store_self]
      exact fits
    · exact client.toSocket.prepare_sent isReply ether
    · exact client.toSocket.prepare_localMac isReply ether
  unfold send sendInternal
  split
  · exact transmits
  · exact transmits

/-- Label `tcp_send_nodata`: the data offset says how long the header is. -/
theorem tcpSendNoData_transmits {before ether : EtherSia} (prepared : Prepared ether)
    (client : TCPClient) (fits : 18 ≤ (receiveHeaderLen ether.buffer).toNat)
    (sent : ether.sent = before.sent) (localMac : ether.localMac = before.localMac) :
    Transmits before (client.tcpSendNoData ether) := by
  apply send_fillTCPHeader_transmits prepared client
  · intro packet
    exact agree_store _ _ (by simp)
  · simpa only [IPv6Packet.payloadLength, setPayloadLength, u16At_store_self] using fits
  · exact sent
  · exact localMac

theorem tcpSendNoDataReply_transmits (client : TCPClient) (flags : UInt8)
    {ether : EtherSia} (header : HeaderValid ether.buffer) :
    Transmits ether (client.tcpSendNoDataReply flags ether) := by
  have flagged : HeaderValid (setFlags ether.buffer flags) :=
    header.congr (agree_store _ _ (by simp))
  have prepared : Prepared (ether.modifyPacket fun packet =>
      setFlags packet flags).prepareReply := prepared_prepareReply flagged
  apply tcpSendNoData_transmits
    (prepared.modifyPacket (agree_store _ _ (by simp)))
  · change 18 ≤ (receiveHeaderLen (setDataOffset _ 0x50)).toNat
    rw [receiveHeaderLen_setDataOffset]
    decide
  · rfl
  · rfl

theorem receiveHeaderLen_congr {left right : Memory}
    (agree : Agree left right 66 67) : receiveHeaderLen left = receiveHeaderLen right := by
  simp only [receiveHeaderLen, dataOffset, agree 66 (by decide) (by decide)]

/-- Label `tcp_resend`, with a header of at least 18 bytes. -/
theorem tcpResend_transmits (client : TCPClient) (flags : UInt8) {dataOffset : UInt8}
    (fits : 18 ≤ ((dataOffset &&& 0xF0) >>> 2).toUInt16.toNat) (ether : EtherSia) :
    Transmits ether (client.tcpResend flags dataOffset ether) := by
  let flagged := ether.modifyPacket fun packet =>
    setDataOffset (setFlags packet flags) dataOffset
  have addressed : Prepared (flagged.prepareSend.modifyPacket fun packet =>
      setEtherDestination (setDestination packet client.remoteAddress)
        client.remoteMac) := by
    apply (prepared_prepareSend flagged).modifyPacket
    exact (agree_store _ _ (by simp)).trans (agree_store _ _ (by simp))
  apply tcpSendNoData_transmits addressed client
  · have payloadKept : Agree
        (setEtherDestination (setDestination flagged.prepareSend.buffer
          client.remoteAddress) client.remoteMac) flagged.buffer 66 67 := by
      apply (agree_store _ _ (by simp)).trans
      apply (agree_store _ _ (by simp)).trans
      exact (prepareSend_payload flagged 67).mono (by decide) (Nat.le_refl _)
    have sameLen := receiveHeaderLen_congr payloadKept
    have stated : receiveHeaderLen flagged.buffer =
        ((dataOffset &&& 0xF0) >>> 2).toUInt16 :=
      receiveHeaderLen_setDataOffset _ dataOffset
    change 18 ≤ (receiveHeaderLen (setEtherDestination (setDestination
      flagged.prepareSend.buffer client.remoteAddress) client.remoteMac)).toNat
    rw [sameLen, stated]
    exact fits
  · rfl
  · rfl

/-- Label `reset`: silent when the segment is itself a reset. -/
theorem resetReply_transmits (client : TCPClient) {ether : EtherSia}
    (header : HeaderValid ether.buffer) :
    client.resetReply ether = ether ∨ Transmits ether (client.resetReply ether) := by
  unfold resetReply
  split
  · exact Or.inl rfl
  · right
    have flagged : HeaderValid
        (setFlags ether.buffer (TCP_FLAG_RST ||| TCP_FLAG_ACK)) :=
      header.congr (agree_store _ _ (by simp))
    have prepared : Prepared (ether.modifyPacket fun packet =>
        setFlags packet (TCP_FLAG_RST ||| TCP_FLAG_ACK)).prepareReply :=
      prepared_prepareReply flagged
    apply EtherSia.send_modifyPacket_transmits prepared
    · intro packet
      repeat apply (agree_store _ _ (by simp)).trans
      exact Agree.refl _ _ _
    · decide
    · decide
    · simp [receiveHeaderLen, checksumAddress]
    · rfl
    · rfl

end TCPClient

/-! ### Calls that may transmit -/

/-- What is flagged as received has the headers of a valid packet. -/
def ReceivedHeader (ether : EtherSia) : Prop :=
  ether.bufferContainsReceived = true → HeaderValid ether.buffer

/-- The call sent nothing. -/
structure Quiet (before after : EtherSia) : Prop where
  sent : after.sent = before.sent
  localMac : after.localMac = before.localMac
  received : ReceivedHeader before → ReceivedHeader after

/-- The call sent nothing or one valid packet. -/
def Effect (before after : EtherSia) : Prop :=
  Quiet before after ∨ Transmits before after

theorem Quiet.refl (ether : EtherSia) : Quiet ether ether :=
  ⟨rfl, rfl, id⟩

theorem quiet_modifyPacket (ether : EtherSia) {change : Memory → Memory}
    (agree : Agree (change ether.buffer) ether.buffer 12 15) :
    Quiet ether (ether.modifyPacket change) where
  sent := rfl
  localMac := rfl
  received := fun header flagged => (header flagged).congr agree

theorem quiet_setFlags (ether : EtherSia) (flags : UInt8) :
    Quiet ether (ether.modifyPacket fun packet => TCPHeader.setFlags packet flags) :=
  quiet_modifyPacket ether (agree_store _ _ (by simp))

theorem Effect.received {before after : EtherSia} (effect : Effect before after)
    (header : ReceivedHeader before) : ReceivedHeader after := by
  rcases effect with quiet | transmits
  · exact quiet.received header
  · intro flagged
    rw [transmits.received] at flagged
    cases flagged

theorem Effect.localMac {before after : EtherSia} (effect : Effect before after) :
    after.localMac = before.localMac := by
  rcases effect with quiet | transmits
  · exact quiet.localMac
  · exact transmits.localMac

theorem effect_of_eq_or_transmits {before after : EtherSia}
    (outcome : after = before ∨ Transmits before after) : Effect before after := by
  rcases outcome with rfl | transmits
  · exact Or.inl (Quiet.refl _)
  · exact Or.inr transmits

namespace TCPClient

open TCPHeader

theorem checkForRetransmit_effect (client : TCPClient) (ether : EtherSia) :
    Effect ether (client.checkForRetransmit ether).2 := by
  unfold checkForRetransmit
  split
  · simp only []
    split
    · exact Or.inr (tcpResend_transmits _ _ (by decide) ether)
    · cases client.state with
      | waitSynAck => exact Or.inr (tcpResend_transmits _ _ (by decide) ether)
      | connected => exact Or.inl (quiet_setFlags ether TCP_FLAG_ACK)
      | lastAck => exact Or.inr (tcpResend_transmits _ _ (by decide) ether)
      | disconnected => exact Or.inl (Quiet.refl ether)
  · exact Or.inl (Quiet.refl ether)

theorem connectedSegment_effect (client : TCPClient) {ether : EtherSia}
    (header : HeaderValid ether.buffer) :
    Effect ether (client.connectedSegment ether).2 := by
  unfold connectedSegment
  split
  · split
    · exact client.checkForRetransmit_effect ether
    · exact Or.inr (tcpSendNoDataReply_transmits _ _ header)
  · split
    · exact Or.inr (tcpSendNoDataReply_transmits _ _ header)
    · exact client.checkForRetransmit_effect ether

theorem waitSynAckSegment_effect (client : TCPClient) {ether : EtherSia}
    (header : HeaderValid ether.buffer) :
    Effect ether (client.waitSynAckSegment ether).2 := by
  unfold waitSynAckSegment
  split
  · exact Or.inr (tcpSendNoDataReply_transmits _ _ header)
  · exact effect_of_eq_or_transmits (resetReply_transmits _ header)

theorem lastAckSegment_effect (client : TCPClient) (ether : EtherSia) :
    Effect ether (client.lastAckSegment ether).2 := by
  unfold lastAckSegment
  split
  · exact Or.inl (Quiet.refl ether)
  · exact client.checkForRetransmit_effect ether

theorem foundSegment_effect (client : TCPClient) {ether : EtherSia}
    (header : HeaderValid ether.buffer) :
    Effect ether (client.foundSegment ether).2 := by
  unfold foundSegment
  split
  · exact Or.inl (Quiet.refl ether)
  · split
    · exact Or.inr (tcpSendNoDataReply_transmits _ _ header)
    · simp only []
      split
      · exact waitSynAckSegment_effect _ header
      · exact connectedSegment_effect _ header
      · exact lastAckSegment_effect _ ether
      · exact Or.inr (tcpSendNoDataReply_transmits _ _ header)

theorem dispatchPacket_effect (client : TCPClient) {ether : EtherSia}
    (header : ReceivedHeader ether) : Effect ether (client.dispatchPacket ether).2 := by
  unfold dispatchPacket
  dsimp only
  by_cases flagged : ether.bufferContainsReceived = false
  · rw [if_pos flagged]
    exact client.checkForRetransmit_effect ether
  · have valid : HeaderValid ether.buffer := header (by simpa using flagged)
    rw [if_neg flagged]
    split_ifs
    · exact checkForRetransmit_effect _ ether
    · exact checkForRetransmit_effect _ ether
    · exact checkForRetransmit_effect _ ether
    · exact foundSegment_effect _ valid
    · exact checkForRetransmit_effect _ ether
    · exact effect_of_eq_or_transmits (resetReply_transmits _ valid)

theorem poll_effect (client : TCPClient) (clock : HavePacketClock) {ether : EtherSia}
    (header : ReceivedHeader ether) : Effect ether (client.poll clock ether).2 := by
  unfold poll
  simp only []
  split
  · exact Or.inl (Quiet.refl ether)
  · split
    · exact Or.inl (Quiet.refl ether)
    · exact dispatchPacket_effect _ header

theorem connect_transmits (client : TCPClient) (randomNumber now : UInt32)
    (ether : EtherSia) : Transmits ether (client.connect randomNumber now ether).2 := by
  unfold connect
  refine (send_transmits _ (fun reply => by cases reply) ?_).of_eq rfl rfl
  decide

end TCPClient

theorem TCPServer.havePacket_effect (socket : Socket) (randomNumber : UInt32)
    {ether : EtherSia} (header : ReceivedHeader ether) :
    Effect ether (TCPServer.havePacket socket randomNumber ether).2.2 := by
  unfold TCPServer.havePacket
  dsimp only
  by_cases flagged : ether.bufferContainsReceived = false
  · rw [if_pos flagged]
    exact Or.inl (Quiet.refl ether)
  · have valid : HeaderValid ether.buffer := header (by simpa using flagged)
    rw [if_neg flagged]
    split_ifs
    · exact Or.inl (Quiet.refl ether)
    · exact Or.inl (Quiet.refl ether)
    · exact Or.inl (Quiet.refl ether)
    · refine Or.inr ((TCPServer.send_transmits socket ?_ (by decide)).of_eq rfl rfl)
      exact fun _reply => valid.congr (agree_store _ _ (by simp))
    · refine Or.inr ((TCPServer.send_transmits socket ?_ (by decide)).of_eq rfl rfl)
      exact fun _reply => valid.congr
        ((agree_store _ _ (by simp)).trans (agree_store _ _ (by simp)))
    · exact Or.inl (quiet_setFlags ether 0)
    · exact Or.inl (Quiet.refl ether)

namespace EtherSia

theorem rejectPacket_effect {ether : EtherSia} (header : ReceivedHeader ether) :
    Effect ether ether.rejectPacket := by
  unfold rejectPacket
  by_cases flagged : ether.bufferContainsReceived = false
  · rw [if_pos flagged]
    exact Or.inl (Quiet.refl ether)
  · have valid : HeaderValid ether.buffer := header (by simpa using flagged)
    rw [if_neg flagged]
    split_ifs
    · exact Or.inl (Quiet.refl ether)
    · exact Or.inr (tcpSendRSTReply_transmits valid)
    · exact Or.inr (icmp6ErrorReply_transmits valid _ _)
    · exact Or.inl (Quiet.refl ether)
    · exact Or.inr (icmp6ErrorReply_transmits valid _ _)

end EtherSia

end EtherSiaStack
