/-
TCP segments between two nodes.

A packet between the link-local addresses of two nodes is described by their MAC
addresses, its TCP header and its data.  Each function that sends a segment has
one result that says which segment it sends, and a frame carries its segment
into the buffer of the node that receives it.
-/

import EtherSiaStack.ClientCall
import EtherSiaStack.Reception

namespace EtherSiaStack

open ByteMemory IPv6Packet

/-- The fields of a TCP header that both sides look at. -/
structure SegmentHeader where
  sourcePort : UInt16
  destinationPort : UInt16
  sequenceNum : UInt32
  acknowledgementNum : UInt32
  dataOffset : UInt8
  flags : UInt8

/-- The bytes the data offset says the header has. -/
def SegmentHeader.length (header : SegmentHeader) : Nat :=
  ((header.dataOffset &&& 0xF0) >>> 2).toNat

/-- The addresses of a packet from `sender` to `receiver`, both link-local. -/
structure Addressed (packet : Memory) (sender receiver : MACAddress) : Prop where
  etherSource : etherSource packet = sender
  etherDestination : etherDestination packet = receiver
  source : source packet = IPv6Address.linkLocalOf sender
  destination : destination packet = IPv6Address.linkLocalOf receiver

/-- The packet is a TCP segment with this header. -/
structure HasHeader (packet : Memory) (header : SegmentHeader) : Prop where
  isTcp : protocol packet = IP6_PROTO_TCP
  sourcePort : TCPHeader.sourcePort packet = header.sourcePort
  destinationPort : TCPHeader.destinationPort packet = header.destinationPort
  sequenceNum : TCPHeader.sequenceNum packet = header.sequenceNum
  acknowledgementNum : TCPHeader.acknowledgementNum packet = header.acknowledgementNum
  dataOffset : TCPHeader.dataOffset packet = header.dataOffset
  flags : TCPHeader.flags packet = header.flags

/-- The packet carries the data behind its header, and nothing else. -/
structure HasData (packet : Memory) (header : SegmentHeader) (data : List UInt8) :
    Prop where
  fullHeader : 20 ≤ header.length
  length : (payloadLength packet).toNat = header.length + data.length
  data : bytesAt packet (payload + header.length) data.length = data

/-- A valid segment from `sender` to `receiver`. -/
structure Carries (packet : Memory) (sender receiver : MACAddress)
    (header : SegmentHeader) (data : List UInt8) : Prop where
  valid : isValid packet = true
  addressed : Addressed packet sender receiver
  hasHeader : HasHeader packet header
  hasData : HasData packet header data

/-! ### What a description depends on -/

theorem destination_congr {left right : Memory} (agree : Agree left right 38 54) :
    destination left = destination right :=
  congrArg IPv6Address.mk (agree.blockAt_eq le_rfl le_rfl)

theorem source_congr {left right : Memory} (agree : Agree left right 22 38) :
    source left = source right :=
  congrArg IPv6Address.mk (agree.blockAt_eq le_rfl le_rfl)

theorem Addressed.congr {left right : Memory} {sender receiver : MACAddress}
    (addressed : Addressed left sender receiver) (low : Agree right left 0 12)
    (high : Agree right left 22 54) : Addressed right sender receiver where
  etherSource := by
    have same : (blockAt right 6 : Fin 6 → UInt8) = blockAt left 6 :=
      low.blockAt_eq (by decide) (by decide)
    exact (congrArg MACAddress.mk same).trans addressed.etherSource
  etherDestination := by
    have same : (blockAt right 0 : Fin 6 → UInt8) = blockAt left 0 :=
      low.blockAt_eq (by decide) (by decide)
    exact (congrArg MACAddress.mk same).trans addressed.etherDestination
  source := (source_congr (high.mono le_rfl (by decide))).trans addressed.source
  destination :=
    (destination_congr (high.mono (by decide) le_rfl)).trans addressed.destination

theorem HasHeader.congr {left right : Memory} {header : SegmentHeader}
    (hasHeader : HasHeader left header) (sameProtocol : Agree right left 20 21)
    (agree : Agree right left 54 68) : HasHeader right header where
  isTcp := (sameProtocol 20 le_rfl (by decide)).trans hasHeader.isTcp
  sourcePort :=
    (agree.u16At_eq (by decide) (by decide)).trans hasHeader.sourcePort
  destinationPort :=
    (agree.u16At_eq (by decide) (by decide)).trans hasHeader.destinationPort
  sequenceNum :=
    (agree.u32At_eq (by decide) (by decide)).trans hasHeader.sequenceNum
  acknowledgementNum :=
    (agree.u32At_eq (by decide) (by decide)).trans hasHeader.acknowledgementNum
  dataOffset := (agree 66 (by decide) (by decide)).trans hasHeader.dataOffset
  flags := (agree 67 (by decide) (by decide)).trans hasHeader.flags

theorem HasData.packetEnd_eq {packet : Memory} {header : SegmentHeader}
    {data : List UInt8} (hasData : HasData packet header data) :
    packetEnd packet = 54 + header.length + data.length := by
  have endIs : packetEnd packet = 54 + (payloadLength packet).toNat := rfl
  rw [endIs, hasData.length]
  omega

theorem HasData.congr {left right : Memory} {header : SegmentHeader}
    {data : List UInt8} (hasData : HasData left header data)
    (agree : Agree right left 18 (packetEnd left)) : HasData right header data := by
  have endIs := hasData.packetEnd_eq
  have full := hasData.fullHeader
  have sameLength : payloadLength right = payloadLength left :=
    agree.u16At_eq (by decide) (by omega)
  have start : payload = 54 := rfl
  refine ⟨full, ?_, ?_⟩
  · rw [sameLength]
    exact hasData.length
  · have same : bytesAt right (payload + header.length) data.length =
        bytesAt left (payload + header.length) data.length :=
      agree.bytesAt_eq (by omega) (by omega)
    exact same.trans hasData.data

/-- A segment is decided by the bytes of its packet. -/
theorem Carries.congr {left right : Memory} {sender receiver : MACAddress}
    {header : SegmentHeader} {data : List UInt8}
    (carries : Carries left sender receiver header data)
    (agree : Agree right left 0 (packetEnd left)) :
    Carries right sender receiver header data := by
  have endIs := carries.hasData.packetEnd_eq
  have full := carries.hasData.fullHeader
  refine ⟨?_, ?_, ?_, ?_⟩
  · rw [← isValid_congr (agree.symm.mono (by decide) le_rfl)]
    exact carries.valid
  · exact carries.addressed.congr (agree.mono le_rfl (by omega))
      (agree.mono (by decide) (by omega))
  · exact carries.hasHeader.congr (agree.mono (by decide) (by omega))
      (agree.mono (by decide) (by omega))
  · exact carries.hasData.congr (agree.mono (by decide) le_rfl)

/-! ### Segments sent -/

theorem storeChecksum_agree (memory : Memory) {address first last : Nat}
    (disjoint : last ≤ address ∨ address + 2 ≤ first) :
    Agree (storeChecksum memory address) memory first last := by
  unfold storeChecksum
  exact (agree_store _ _ disjoint).trans (agree_store memory _ disjoint)

theorem storeChecksum_payloadLength (memory : Memory) {address : Nat}
    (behind : 20 ≤ address) :
    payloadLength (storeChecksum memory address) = payloadLength memory := by
  have agree : Agree (storeChecksum memory address) memory 18 20 :=
    storeChecksum_agree memory (Or.inl behind)
  exact agree.u16At_eq le_rfl le_rfl

/-- The interface uses the link-local address of its MAC address. -/
def EtherSia.UsesLinkLocal (ether : EtherSia) : Prop :=
  ether.linkLocalAddress = IPv6Address.linkLocalOf ether.localMac

theorem EtherSia.prepareReply_addressed {ether : EtherSia} {peer : MACAddress}
    (linkLocal : ether.UsesLinkLocal)
    (addressed : Addressed ether.buffer peer ether.localMac) :
    Addressed ether.prepareReply.buffer ether.localMac peer := by
  have ours : destination ether.buffer = ether.linkLocalAddress :=
    addressed.destination.trans linkLocal.symm
  have replySource : ether.replySourceAddress = ether.linkLocalAddress := by
    unfold replySourceAddress isOurAddress
    rw [if_pos ours]
    rfl
  constructor
  · simp [prepareReply]
  · have peerIs : etherSource ether.buffer = peer := addressed.etherSource
    rw [← peerIs]
    simp [prepareReply]
  · rw [← linkLocal, ← replySource]
    simp [prepareReply]
  · have peerIs : source ether.buffer = IPv6Address.linkLocalOf peer := addressed.source
    rw [← peerIs]
    simp [prepareReply]

/-- A socket set up for a node. -/
structure Socket.Targets (socket : Socket) (peer : MACAddress) : Prop where
  remoteAddress : socket.remoteAddress = IPv6Address.linkLocalOf peer
  remoteMac : socket.remoteMac = peer

theorem Socket.prepare_addressed {socket : Socket} {peer : MACAddress}
    (targets : socket.Targets peer) {ether : EtherSia} (linkLocal : ether.UsesLinkLocal) :
    Addressed (socket.prepare false ether).buffer ether.localMac peer := by
  have isLinkLocal : (IPv6Address.linkLocalOf peer).isLinkLocal = true :=
    IPv6Address.linkLocalOf_isLinkLocal peer
  unfold Socket.prepare EtherSia.prepareSend EtherSia.modifyPacket
  simp only [Bool.false_eq_true, if_false, targets.remoteAddress, targets.remoteMac]
  constructor
  · simp
  · split_ifs <;> simp
  · rw [← linkLocal]
    simp [isLinkLocal]
  · split_ifs <;> simp

/-- The data behind a transmitted header is what the application wrote there. -/
theorem Socket.prepare_payload (socket : Socket) (isReply : Bool) (ether : EtherSia)
    (last : Nat) : Agree (socket.prepare isReply ether).buffer ether.buffer 54 last := by
  unfold Socket.prepare
  split
  · exact prepareReply_payload ether last
  · apply (prepareSend_payload _ last).trans
    change Agree (setEtherDestination (setDestination ether.buffer socket.remoteAddress)
      socket.remoteMac) ether.buffer 54 last
    exact (agree_store _ _ (by simp)).trans (agree_store _ _ (by simp))

theorem add_24_toNat {length : UInt16} (fits : length.toNat ≤ 65511) :
    (24 + length).toNat = 24 + length.toNat := by
  rw [UInt16.toNat_add]
  exact Nat.mod_eq_of_lt (by change 24 + length.toNat < 65536; omega)

namespace TCPClient

open TCPHeader

/-- The header a client fills in over the flags and the data offset it finds. -/
def headerOf (client : TCPClient) (dataOffset flags : UInt8) : SegmentHeader where
  sourcePort := client.localPort
  destinationPort := client.remotePort
  sequenceNum := client.localSeqNum
  acknowledgementNum := client.remoteSeqNum
  dataOffset := dataOffset
  flags := flags

@[simp] theorem headerOf_length (client : TCPClient) (dataOffset flags : UInt8) :
    (client.headerOf dataOffset flags).length = ((dataOffset &&& 0xF0) >>> 2).toNat :=
  rfl

theorem fillTCPHeader_hasHeader (client : TCPClient) (packet : Memory) :
    HasHeader (client.fillTCPHeader packet)
      (client.headerOf (dataOffset packet) (flags packet)) := by
  have fields : HasHeader (client.tcpHeaderFields packet)
      (client.headerOf (dataOffset packet) (flags packet)) := by
    unfold tcpHeaderFields
    constructor <;> dsimp only [headerOf] <;> split_ifs <;> simp
  exact fields.congr (storeChecksum_agree _ (by decide)) (storeChecksum_agree _ (by decide))

/-- Outside the TCP header, filling it in changes the protocol alone. -/
theorem fillTCPHeader_agree (client : TCPClient) (packet : Memory) {first last : Nat}
    (outside : last ≤ 20 ∨ 21 ≤ first ∧ last ≤ 54 ∨ 78 ≤ first) :
    Agree (client.fillTCPHeader packet) packet first last := by
  have start : checksumAddress = 70 := rfl
  unfold fillTCPHeader tcpHeaderFields
  apply (storeChecksum_agree _ (by omega)).trans
  apply (agree_store _ _ (by simp; omega)).trans
  split_ifs
  · repeat apply (agree_store _ _ (by simp; omega)).trans
    exact Agree.refl _ _ _
  · repeat apply (agree_store _ _ (by simp; omega)).trans
    exact Agree.refl _ _ _

theorem fillTCPHeader_payloadLength (client : TCPClient) (packet : Memory) :
    IPv6Packet.payloadLength (client.fillTCPHeader packet) =
      IPv6Packet.payloadLength packet := by
  have agree : Agree (client.fillTCPHeader packet) packet 18 20 :=
    client.fillTCPHeader_agree packet (Or.inl le_rfl)
  exact agree.u16At_eq le_rfl le_rfl

theorem fillTCPHeader_addressed (client : TCPClient) {packet : Memory}
    {sender receiver : MACAddress} (addressed : Addressed packet sender receiver) :
    Addressed (client.fillTCPHeader packet) sender receiver :=
  addressed.congr (client.fillTCPHeader_agree packet (by decide))
    (client.fillTCPHeader_agree packet (by decide))

theorem tcpSendNoDataReply_carries (client : TCPClient) (flags : UInt8)
    {ether : EtherSia} {peer : MACAddress} (linkLocal : ether.UsesLinkLocal)
    (header : HeaderValid ether.buffer)
    (addressed : Addressed ether.buffer peer ether.localMac) :
    Carries (client.tcpSendNoDataReply flags ether).buffer ether.localMac peer
      (client.headerOf 0x50 flags) [] := by
  let flagged := ether.modifyPacket fun packet => setFlags packet flags
  have flaggedAddressed : Addressed flagged.buffer peer flagged.localMac :=
    addressed.congr (agree_store _ _ (by simp)) (agree_store _ _ (by simp))
  have prepared : Addressed flagged.prepareReply.buffer ether.localMac peer :=
    EtherSia.prepareReply_addressed linkLocal flaggedAddressed
  let packet := setDataOffset flagged.prepareReply.buffer 0x50
  have built : (client.tcpSendNoDataReply flags ether).buffer =
      client.fillTCPHeader (setPayloadLength packet (receiveHeaderLen packet)) := rfl
  have stored : flagged.buffer 67 = flags := u8_store_self ether.buffer 67 flags
  have keptFlags : TCPHeader.flags flagged.prepareReply.buffer = flags :=
    (prepareReply_payload flagged 68 67 (by decide) (by decide)).trans stored
  have headerLen : receiveHeaderLen packet = 20 := by
    rw [receiveHeaderLen_setDataOffset]
    decide
  refine ⟨(client.tcpSendNoDataReply_transmits flags header).valid, ?_, ?_, ?_⟩
  · rw [built]
    apply client.fillTCPHeader_addressed
    exact prepared.congr
      ((agree_store _ _ (by simp)).trans (agree_store _ _ (by simp)))
      ((agree_store _ _ (by simp)).trans (agree_store _ _ (by simp)))
  · rw [built]
    have filled := client.fillTCPHeader_hasHeader
      (setPayloadLength packet (receiveHeaderLen packet))
    have isOffset : dataOffset (setPayloadLength packet (receiveHeaderLen packet)) =
        0x50 := by simp [packet]
    have isFlags : TCPHeader.flags (setPayloadLength packet (receiveHeaderLen packet)) =
        flags := by
      rw [← keptFlags]
      simp [packet]
    rwa [isOffset, isFlags] at filled
  · rw [built]
    have twenty : (client.headerOf 0x50 flags).length = 20 := by
      rw [headerOf_length]
      decide
    refine ⟨Nat.le_of_eq twenty.symm, ?_, rfl⟩
    rw [fillTCPHeader_payloadLength, headerLen, twenty]
    simp only [IPv6Packet.payloadLength, setPayloadLength, u16At_store_self]
    rfl

/-- Data the application has written behind the header; the flags are those it
finds in the buffer. -/
theorem send_carries (client : TCPClient) (length : UInt16) (ether : EtherSia)
    {peer : MACAddress} (targets : client.toSocket.Targets peer)
    (linkLocal : ether.UsesLinkLocal) (fits : length.toNat ≤ 65511) :
    Carries (client.send length false ether).2.buffer ether.localMac peer
      (client.headerOf 0x60 (flags ether.buffer))
      (bytesAt ether.buffer transmitPayload length.toNat) := by
  let prepared := client.toSocket.prepare false ether
  let packet := setPayloadLength (setDataOffset prepared.buffer 0x60)
    (receiveHeaderLen (setDataOffset prepared.buffer 0x60) + length)
  have built : (client.send length false ether).2.buffer =
      client.fillTCPHeader packet := by
    unfold send sendInternal
    split <;> rfl
  have prepares : Addressed prepared.buffer ether.localMac peer :=
    Socket.prepare_addressed targets linkLocal
  have keeps (last : Nat) : Agree prepared.buffer ether.buffer 54 last :=
    client.toSocket.prepare_payload false ether last
  have isFlags : flags packet = flags ether.buffer := by
    have same : flags packet = flags prepared.buffer := by simp [packet]
    exact same.trans (keeps 68 67 (by decide) (by decide))
  have isOffset : dataOffset packet = 0x60 := by simp [packet]
  have twentyFour : (client.headerOf 0x60 (flags ether.buffer)).length = 24 := by
    rw [headerOf_length]
    decide
  have lengthFits : TCPLengthFits length := by
    change 18 ≤ (24 + length).toNat
    rw [add_24_toNat fits]
    omega
  have count : (bytesAt ether.buffer transmitPayload length.toNat).length =
      length.toNat := bytesAt_length _ _ _
  refine ⟨(client.send_transmits (fun reply => by cases reply) lengthFits).valid,
    ?_, ?_, ?_⟩
  · rw [built]
    apply client.fillTCPHeader_addressed
    exact prepares.congr
      ((agree_store _ _ (by simp)).trans (agree_store _ _ (by simp)))
      ((agree_store _ _ (by simp)).trans (agree_store _ _ (by simp)))
  · rw [built, ← isFlags, ← isOffset]
    exact client.fillTCPHeader_hasHeader packet
  · rw [built]
    refine ⟨by rw [twentyFour]; decide, ?_, ?_⟩
    · have isLength : IPv6Packet.payloadLength packet = 24 + length := by
        simp only [packet, IPv6Packet.payloadLength, setPayloadLength, u16At_store_self,
          receiveHeaderLen_setDataOffset]
        rfl
      rw [fillTCPHeader_payloadLength, isLength, add_24_toNat fits, twentyFour, count]
    · rw [twentyFour, count]
      have start : IPv6Packet.payload + 24 = 78 := rfl
      have behind : Agree (client.fillTCPHeader packet) ether.buffer 78
          (78 + length.toNat) := by
        apply (client.fillTCPHeader_agree packet (by omega)).trans
        apply (agree_store _ _ (by simp)).trans
        apply (agree_store _ _ (by simp)).trans
        exact (keeps _).mono (by decide) le_rfl
      exact behind.bytesAt_eq (by rw [start]) (by rw [start])

end TCPClient

namespace TCPServer

open TCPHeader

/-- The header of an answer to a segment with `received` bytes of data. -/
def replyHeader (socket : Socket) (header : SegmentHeader) (received : UInt16) :
    SegmentHeader where
  sourcePort := socket.localPort
  destinationPort := header.sourcePort
  sequenceNum := header.acknowledgementNum
  acknowledgementNum :=
    header.sequenceNum + (if received = 0 then 1 else received).toUInt32
  dataOffset := 0x60
  flags :=
    if header.flags = 0 then TCP_FLAG_ACK ||| TCP_FLAG_FIN ||| TCP_FLAG_PSH
    else header.flags

theorem segmentFields_hasHeader (socket : Socket) (length : UInt16) {packet : Memory}
    {header : SegmentHeader} (hasHeader : HasHeader packet header) :
    HasHeader (segmentFields socket length packet)
      (replyHeader socket header (payloadLength packet)) := by
  unfold segmentFields
  constructor <;> dsimp only [replyHeader]
  · rw [← hasHeader.isTcp]
    split_ifs <;> simp
  · simp
  · rw [← hasHeader.sourcePort]
    split_ifs <;> simp
  · rw [← hasHeader.acknowledgementNum]
    simp
  · rw [← hasHeader.sequenceNum]
    simp
  · simp
  · rw [← hasHeader.flags]
    split_ifs <;> simp

theorem segmentFields_agree (socket : Socket) (length : UInt16) (packet : Memory)
    {first last : Nat} (outside : last ≤ 18 ∨ 20 ≤ first ∧ last ≤ 54 ∨ 78 ≤ first) :
    Agree (segmentFields socket length packet) packet first last := by
  unfold segmentFields
  repeat apply (agree_store _ _ (by simp; omega)).trans
  split_ifs
  · exact agree_store _ _ (by simp; omega)
  · exact Agree.refl _ _ _

/-- The answer to a segment, with the data the application has written behind the
header. -/
theorem sendReply_carries (socket : Socket) (length : UInt16) (ether : EtherSia)
    {peer : MACAddress}
    {header : SegmentHeader} (linkLocal : ether.UsesLinkLocal)
    (valid : HeaderValid ether.buffer)
    (addressed : Addressed ether.buffer peer ether.localMac)
    (hasHeader : HasHeader ether.buffer header) (fits : length.toNat ≤ 65511) :
    Carries (send socket length true ether).buffer ether.localMac peer
      (replyHeader socket header (payloadLength ether.buffer))
      (bytesAt ether.buffer transmitPayload length.toNat) := by
  have prepares : Addressed ether.prepareReply.buffer ether.localMac peer :=
    EtherSia.prepareReply_addressed linkLocal addressed
  have built : (send socket length true ether).buffer =
      storeChecksum (segmentFields socket length ether.prepareReply.buffer)
        checksumAddress := rfl
  have keeps (last : Nat) : Agree ether.prepareReply.buffer ether.buffer 54 last :=
    prepareReply_payload ether last
  have sameReceived : payloadLength ether.prepareReply.buffer =
      payloadLength ether.buffer := by
    unfold payloadLength
    rw [TCPClient.receiveHeaderLen_congr ((keeps 67).mono (by decide) le_rfl)]
    simp [EtherSia.prepareReply]
  have preparedHeader : HasHeader ether.prepareReply.buffer header := by
    apply hasHeader.congr _ (keeps 68)
    unfold EtherSia.prepareReply
    repeat apply (agree_store _ _ (by simp)).trans
    exact Agree.refl _ _ _
  have lengthFits : TCPLengthFits length := by
    change 18 ≤ (24 + length).toNat
    rw [add_24_toNat fits]
    omega
  have count : (bytesAt ether.buffer transmitPayload length.toNat).length =
      length.toNat := bytesAt_length _ _ _
  have twentyFour :
      (replyHeader socket header (payloadLength ether.buffer)).length = 24 := by
    change ((0x60 &&& 0xF0 : UInt8) >>> 2).toNat = 24
    decide
  refine ⟨(send_transmits socket (fun _ => valid) lengthFits).valid, ?_, ?_, ?_⟩
  · rw [built]
    apply Addressed.congr prepares
    · exact (storeChecksum_agree _ (by decide)).trans
        (segmentFields_agree socket length _ (by decide))
    · exact (storeChecksum_agree _ (by decide)).trans
        (segmentFields_agree socket length _ (by decide))
  · rw [built, ← sameReceived]
    exact (segmentFields_hasHeader socket length preparedHeader).congr
      (storeChecksum_agree _ (by decide)) (storeChecksum_agree _ (by decide))
  · rw [built]
    refine ⟨by rw [twentyFour]; decide, ?_, ?_⟩
    · have sameLength : IPv6Packet.payloadLength
          (storeChecksum (segmentFields socket length ether.prepareReply.buffer)
            checksumAddress) = 24 + length := by
        rw [storeChecksum_payloadLength _ (by decide)]
        unfold segmentFields
        exact u16At_store_self _ _ _
      rw [sameLength, add_24_toNat fits, twentyFour, count]
    · rw [twentyFour, count]
      have start : IPv6Packet.payload + 24 = 78 := rfl
      have behind : Agree
          (storeChecksum (segmentFields socket length ether.prepareReply.buffer)
            checksumAddress) ether.buffer 78 (78 + length.toNat) := by
        apply (storeChecksum_agree _ (by simp [checksumAddress])).trans
        apply (segmentFields_agree socket length _ (by omega)).trans
        exact (keeps _).mono (by decide) le_rfl
      exact behind.bytesAt_eq (by rw [start]) (by rw [start])

end TCPServer

end EtherSiaStack
