/-
UDP datagrams between two nodes.

A request goes to the other node's link-local or global address, from whichever
of its own addresses `prepareSend` picks.  The receiver's socket knows only its
port; its reply is made from the header of the request, and leaves from the
address the request was sent to, so that it gets past every filter of the
socket that asked.
-/

import EtherSiaStack.Arrival
import EtherSiaStack.Segment
import EtherSiaStack.Library.Spelling

namespace EtherSiaStack

open ByteMemory IPv6Packet

/-- A datagram and the addresses it travels under. -/
structure Datagram where
  etherSource : MACAddress
  etherDestination : MACAddress
  source : IPv6Address
  destination : IPv6Address
  sourcePort : UInt16
  destinationPort : UInt16
  data : List UInt8

/-- The packet in the buffer is this datagram. -/
structure CarriesDatagram (packet : Memory) (datagram : Datagram) : Prop where
  valid : isValid packet = true
  etherSource : etherSource packet = datagram.etherSource
  etherDestination : etherDestination packet = datagram.etherDestination
  source : source packet = datagram.source
  destination : destination packet = datagram.destination
  isUdp : protocol packet = IP6_PROTO_UDP
  sourcePort : UDPHeader.sourcePort packet = datagram.sourcePort
  destinationPort : UDPHeader.destinationPort packet = datagram.destinationPort
  payloadLength : (IPv6Packet.payloadLength packet).toNat = 8 + datagram.data.length
  length : UDPHeader.length packet = IPv6Packet.payloadLength packet
  data : Spells packet UDPSocket.payload datagram.data

theorem CarriesDatagram.packetEnd_eq {packet : Memory} {datagram : Datagram}
    (carries : CarriesDatagram packet datagram) :
    packetEnd packet = 62 + datagram.data.length := by
  have endIs : packetEnd packet = 54 + (IPv6Packet.payloadLength packet).toNat := rfl
  rw [endIs, carries.payloadLength]
  omega

/-- A datagram is decided by the bytes of its packet. -/
theorem CarriesDatagram.congr {left right : Memory} {datagram : Datagram}
    (carries : CarriesDatagram left datagram)
    (agree : Agree right left 0 (packetEnd left)) : CarriesDatagram right datagram := by
  have ends := carries.packetEnd_eq
  have start : UDPSocket.payload = 62 := rfl
  have sameLength : IPv6Packet.payloadLength right = IPv6Packet.payloadLength left :=
    agree.u16At_eq (by decide) (by omega)
  constructor
  · rw [← isValid_congr (agree.symm.mono (by decide) le_rfl)]
    exact carries.valid
  · exact (congrArg MACAddress.mk (agree.blockAt_eq (by decide) (by omega))).trans
      carries.etherSource
  · exact (congrArg MACAddress.mk (agree.blockAt_eq (by decide) (by omega))).trans
      carries.etherDestination
  · exact (congrArg IPv6Address.mk (agree.blockAt_eq (by decide) (by omega))).trans
      carries.source
  · exact (congrArg IPv6Address.mk (agree.blockAt_eq (by decide) (by omega))).trans
      carries.destination
  · exact (agree 20 (by decide) (by omega)).trans carries.isUdp
  · exact (agree.u16At_eq (by decide) (by omega)).trans carries.sourcePort
  · exact (agree.u16At_eq (by decide) (by omega)).trans carries.destinationPort
  · rw [sameLength]
    exact carries.payloadLength
  · rw [sameLength]
    exact (agree.u16At_eq (by decide) (by omega)).trans carries.length
  · exact carries.data.congr (agree.mono (by omega) (by omega))

namespace UDPSocket

/-- `Socket::send(data, length, isReply)`: the data is copied to the payload, then
the headers are filled in. -/
def sendData (socket : Socket) (data : List UInt8) (isReply : Bool) (ether : EtherSia) :
    EtherSia :=
  let ether := ether.modifyPacket fun packet => store packet payload data
  send socket (UInt16.ofNat data.length) isReply ether

/-! ### What `sendInternal` makes of a prepared packet -/

theorem sendInternal_agree (socket : Socket) (length : UInt16) (isReply : Bool)
    (ether : EtherSia) {first last : Nat}
    (outside : last ≤ 18 ∨ 21 ≤ first ∧ last ≤ 54 ∨ 62 ≤ first) :
    Agree (sendInternal socket length isReply ether).buffer ether.buffer first last := by
  unfold sendInternal
  have start : UDPHeader.checksumAddress = 60 := rfl
  apply (storeChecksum_agree _ (by omega)).trans
  cases isReply
  · repeat apply (agree_store _ _ (by simp; omega)).trans
    exact Agree.refl _ _ _
  · repeat apply (agree_store _ _ (by simp; omega)).trans
    exact Agree.refl _ _ _

/-- The fields it fills in. -/
structure FillsHeader (socket : Socket) (length : UInt16) (isReply : Bool)
    (before after : Memory) : Prop where
  isUdp : protocol after = IP6_PROTO_UDP
  payloadLength : IPv6Packet.payloadLength after = UDP_HEADER_LEN + length
  length : UDPHeader.length after = UDP_HEADER_LEN + length
  sourcePort : UDPHeader.sourcePort after = socket.localPort
  destinationPort : UDPHeader.destinationPort after =
    if isReply then UDPHeader.sourcePort before else socket.remotePort

theorem sendInternal_fillsHeader (socket : Socket) (length : UInt16) (isReply : Bool)
    (ether : EtherSia) :
    FillsHeader socket length isReply ether.buffer
      (sendInternal socket length isReply ether).buffer := by
  cases isReply
  · constructor <;> simp [sendInternal, EtherSia.send, EtherSia.modifyPacket,
      storeChecksum, UDPHeader.checksumAddress]
  · constructor <;> simp [sendInternal, EtherSia.send, EtherSia.modifyPacket,
      storeChecksum, UDPHeader.checksumAddress]

theorem ofNat_length_toNat {data : List UInt8} (fits : data.length ≤ 538) :
    (UInt16.ofNat data.length).toNat = data.length := by
  rw [UInt16.toNat_ofNat']
  exact Nat.mod_eq_of_lt (by change data.length < 65536; omega)

theorem totalLen_toNat {data : List UInt8} (fits : data.length ≤ 538) :
    (UDP_HEADER_LEN + UInt16.ofNat data.length).toNat = 8 + data.length := by
  rw [UInt16.toNat_add, ofNat_length_toNat fits]
  exact Nat.mod_eq_of_lt (by change 8 + data.length < 65536; omega)

/-- The source address `prepareSend` picks. -/
def sendSourceAddress (ether : EtherSia) (destination : IPv6Address) : IPv6Address :=
  if destination.isLinkLocal ∨ ether.globalAddress.isZero then ether.linkLocalAddress
  else ether.globalAddress

/-- The datagram that a call of `send` puts on the network. -/
def sentDatagram (socket : Socket) (data : List UInt8) (isReply : Bool)
    (ether : EtherSia) : Datagram where
  etherSource := ether.localMac
  etherDestination := if isReply then etherSource ether.buffer else socket.remoteMac
  source :=
    if isReply then ether.replySourceAddress
    else sendSourceAddress ether socket.remoteAddress
  destination := if isReply then source ether.buffer else socket.remoteAddress
  sourcePort := socket.localPort
  destinationPort :=
    if isReply then UDPHeader.sourcePort ether.buffer else socket.remotePort
  data := data

/-- The addresses of the packet that `prepare` leaves in the buffer. -/
structure PreparedFor (datagram : Datagram) (packet : Memory) : Prop where
  etherSource : etherSource packet = datagram.etherSource
  etherDestination : etherDestination packet = datagram.etherDestination
  source : source packet = datagram.source
  destination : destination packet = datagram.destination

theorem prepare_preparedFor (socket : Socket) (data : List UInt8) (isReply : Bool)
    (ether : EtherSia) :
    PreparedFor (sentDatagram socket data isReply ether)
      (socket.prepare isReply ether).buffer := by
  cases isReply
  · unfold Socket.prepare EtherSia.prepareSend EtherSia.modifyPacket
    constructor
    · simp [sentDatagram]
    · simp only [sentDatagram, Bool.false_eq_true, if_false]
      split_ifs <;> simp
    · simp only [sentDatagram, sendSourceAddress, Bool.false_eq_true, if_false]
      split_ifs with same other other
      · simp
      · simp_all
      · simp_all
      · simp
    · simp only [sentDatagram, Bool.false_eq_true, if_false]
      split_ifs <;> simp
  · unfold Socket.prepare EtherSia.prepareReply
    constructor <;> simp [sentDatagram]

/-- Copying data to the payload keeps the headers. -/
theorem sentDatagram_storePayload (socket : Socket) (data : List UInt8) (isReply : Bool)
    (ether : EtherSia) :
    sentDatagram socket data isReply
        (ether.modifyPacket fun packet => store packet payload data) =
      sentDatagram socket data isReply ether := by
  have start : payload = 62 := rfl
  have sameReply : (ether.modifyPacket fun packet =>
      store packet payload data).replySourceAddress = ether.replySourceAddress := by
    have sameDestination : destination (store ether.buffer payload data) =
        destination ether.buffer := by simp [start]
    exact congrArg (fun address =>
      if ether.isOurAddress address = some .global then ether.globalAddress
      else ether.linkLocalAddress) sameDestination
  unfold sentDatagram
  rw [sameReply]
  unfold EtherSia.modifyPacket sendSourceAddress
  simp [start]

theorem sendData_carries (socket : Socket) (data : List UInt8) (isReply : Bool)
    (ether : EtherSia) (header : isReply = true → HeaderValid ether.buffer)
    (fits : data.length ≤ 538) :
    CarriesDatagram (sendData socket data isReply ether).buffer
      (sentDatagram socket data isReply ether) := by
  let written := ether.modifyPacket fun packet => store packet payload data
  let prepared := socket.prepare isReply written
  have built : (sendData socket data isReply ether).buffer =
      (sendInternal socket (UInt16.ofNat data.length) isReply prepared).buffer := rfl
  have fields := sendInternal_fillsHeader socket (UInt16.ofNat data.length) isReply prepared
  have addresses := prepare_preparedFor socket data isReply written
  rw [sentDatagram_storePayload] at addresses
  have keeps {first last : Nat} (outside : last ≤ 18 ∨ 21 ≤ first ∧ last ≤ 54 ∨ 62 ≤ first) :
      Agree (sendInternal socket (UInt16.ofNat data.length) isReply prepared).buffer
        prepared.buffer first last :=
    sendInternal_agree socket _ isReply prepared outside
  have untouched (last : Nat) : Agree prepared.buffer written.buffer 54 last :=
    socket.prepare_payload isReply written last
  have writtenHeader : isReply = true → HeaderValid written.buffer := fun reply =>
    (header reply).congr (agree_store _ _ (Or.inl (by decide)))
  have counted := ofNat_length_toNat fits
  have transmits : Transmits written (sendData socket data isReply ether) :=
    send_transmits socket writtenHeader (by omega)
  have valid := transmits.valid
  rw [built] at valid ⊢
  constructor
  · exact valid
  · exact (congrArg MACAddress.mk ((keeps (by decide)).blockAt_eq le_rfl le_rfl)).trans
      addresses.etherSource
  · exact (congrArg MACAddress.mk ((keeps (by decide)).blockAt_eq le_rfl le_rfl)).trans
      addresses.etherDestination
  · exact (congrArg IPv6Address.mk ((keeps (by decide)).blockAt_eq le_rfl le_rfl)).trans
      addresses.source
  · exact (congrArg IPv6Address.mk ((keeps (by decide)).blockAt_eq le_rfl le_rfl)).trans
      addresses.destination
  · exact fields.isUdp
  · exact fields.sourcePort
  · rw [fields.destinationPort]
    have samePort : UDPHeader.sourcePort prepared.buffer =
        UDPHeader.sourcePort ether.buffer := by
      have start : payload = 62 := rfl
      apply ((untouched 56).u16At_eq le_rfl le_rfl).trans
      exact u16At_store_disjoint _ _ (Or.inl (by omega))
    rw [samePort]
    rfl
  · rw [fields.payloadLength, totalLen_toNat fits]
    rfl
  · rw [fields.length, fields.payloadLength]
  · have spelled : Spells written.buffer payload data := spells_store ether.buffer payload data
    apply Spells.congr spelled
    have start : payload = 62 := rfl
    exact (keeps (by omega)).trans ((untouched _).mono (by omega) le_rfl)

/-- The frame that arrives at the other end of a call of `sendData`. -/
def sentFrame (socket : Socket) (data : List UInt8) (isReply : Bool)
    (ether : EtherSia) : Frame :=
  Frame.delivered (packetOctets (sendData socket data isReply ether).buffer)

theorem sendData_sent (socket : Socket) (data : List UInt8) (isReply : Bool)
    (ether : EtherSia) (header : isReply = true → HeaderValid ether.buffer)
    (fits : data.length ≤ 538) :
    (sendData socket data isReply ether).sent =
      ether.sent ++ [(sentFrame socket data isReply ether).octets] := by
  have ends := (sendData_carries socket data isReply ether header fits).packetEnd_eq
  have kept := socket.prepare_sent isReply
    (ether.modifyPacket fun packet => store packet payload data)
  have whole : packetEnd (sendData socket data isReply ether).buffer ≤ 600 := by
    rw [ends]
    exact Nat.add_le_add_left fits 62
  unfold sentFrame
  rw [delivered_eq_packetOctets whole]
  change (socket.prepare isReply _).sent ++ [_] = _
  rw [kept]
  rfl

end UDPSocket

/-! ### A datagram received -/

/-- The node takes the datagram from the network and leaves it to its sockets. -/
theorem receivePacket_of_datagram (ether : EtherSia) {packet : Memory}
    {datagram : Datagram} (carries : CarriesDatagram packet datagram)
    (fits : datagram.data.length ≤ 537)
    (toUs : datagram.etherDestination = ether.localMac)
    (foreign : datagram.etherSource ≠ ether.localMac) :
    let frame := Frame.delivered (packetOctets packet)
    ether.receivePacket frame =
        some (UInt16.ofNat frame.octets.length, ether.accepted frame) ∧
      UInt16.ofNat frame.octets.length ≠ 0 ∧
        CarriesDatagram (ether.accepted frame).buffer datagram := by
  have ends := carries.packetEnd_eq
  have meant : MeantFor packet ether :=
    { valid := carries.valid
      fits := by omega
      addressed := Or.inr (carries.etherDestination.trans toUs)
      foreign := by
        rw [carries.etherSource]
        exact foreign }
  have arrived := carries.congr (accepted_agree ether meant.fits)
  refine ⟨?_, delivered_length_ne_zero meant, arrived⟩
  apply EtherSia.receivePacket_of_not_icmp meant.accepts
  rw [arrived.isUdp]
  decide

/-- The packet in the buffer is a datagram for the socket. -/
structure UDPSocket.Takes (socket : Socket) (ether : EtherSia) : Prop where
  received : ether.bufferContainsReceived = true
  isUdp : protocol ether.buffer = IP6_PROTO_UDP
  port : UDPHeader.destinationPort ether.buffer = socket.localPort
  fromPort : socket.remotePort = 0 ∨
    UDPHeader.sourcePort ether.buffer = socket.remotePort
  ours : ether.isOurAddress (destination ether.buffer) ≠ none
  fromAddress : socket.remoteAddress.isZero = true ∨
    source ether.buffer = socket.remoteAddress

theorem UDPSocket.havePacket_iff {socket : Socket} {ether : EtherSia} :
    UDPSocket.havePacket socket ether = true ↔ UDPSocket.Takes socket ether := by
  unfold UDPSocket.havePacket
  dsimp only
  constructor
  · intro taken
    split_ifs at taken with received isUdp port fromPort ours fromAddress
    refine ⟨by simpa using received, not_not.mp isUdp, not_not.mp port, ?_, ours, ?_⟩
    · by_contra neither
      obtain ⟨known, other⟩ := not_or.mp neither
      exact fromPort ⟨known, other⟩
    · by_contra neither
      obtain ⟨known, other⟩ := not_or.mp neither
      exact fromAddress ⟨by simpa using known, other⟩
  · intro takes
    have portMatches : ¬ (socket.remotePort ≠ 0 ∧
        UDPHeader.sourcePort ether.buffer ≠ socket.remotePort) := by
      rintro ⟨known, other⟩
      rcases takes.fromPort with any | same
      · exact known any
      · exact other same
    have addressMatches : ¬ (socket.remoteAddress.isZero = false ∧
        source ether.buffer ≠ socket.remoteAddress) := by
      rintro ⟨known, other⟩
      rcases takes.fromAddress with any | same
      · rw [any] at known
        cases known
      · exact other same
    rw [if_neg (by rw [takes.received]; decide), if_neg (not_not.mpr takes.isUdp),
      if_neg (not_not.mpr takes.port), if_neg portMatches, if_neg takes.ours,
      if_neg addressMatches]

/-- `havePacket` looks at the ports and the addresses of the datagram. -/
theorem UDPSocket.havePacket_of_datagram {socket : Socket} {ether : EtherSia}
    {datagram : Datagram} (received : ether.bufferContainsReceived = true)
    (carries : CarriesDatagram ether.buffer datagram)
    (port : datagram.destinationPort = socket.localPort)
    (fromPort : socket.remotePort = 0 ∨ datagram.sourcePort = socket.remotePort)
    (ours : ether.isOurAddress datagram.destination ≠ none)
    (fromAddress : socket.remoteAddress.isZero = true ∨
      datagram.source = socket.remoteAddress) :
    UDPSocket.havePacket socket ether = true := by
  rw [UDPSocket.havePacket_iff]
  constructor
  · exact received
  · exact carries.isUdp
  · exact carries.destinationPort.trans port
  · rw [carries.sourcePort]
    exact fromPort
  · rw [carries.destination]
    exact ours
  · rw [carries.source]
    exact fromAddress

theorem CarriesDatagram.dataLength {packet : Memory} {datagram : Datagram}
    (carries : CarriesDatagram packet datagram) :
    (UDPSocket.payloadLength packet).toNat = datagram.data.length := by
  have total := carries.payloadLength
  have behind : UDP_HEADER_LEN ≤ IPv6Packet.payloadLength packet := by
    rw [UInt16.le_iff_toNat_le]
    change 8 ≤ _
    omega
  unfold UDPSocket.payloadLength
  rw [carries.length, UInt16.toNat_sub_of_le _ _ behind]
  change _ - 8 = _
  omega

/-! ### Request and reply -/

/-- A socket set up for a socket of another node, at its link-local address or its
global one. -/
structure Socket.Addresses (socket : Socket) (node : EtherSia) (listener : Socket) :
    Prop where
  remoteAddress : socket.remoteAddress = node.linkLocalAddress ∨
    socket.remoteAddress = node.globalAddress
  remoteMac : socket.remoteMac = node.localMac
  remotePort : socket.remotePort = listener.localPort

/-- A socket as its constructor leaves it, with a local port only. -/
def Socket.withLocalPort (localPort : UInt16) : Socket where
  remoteAddress := IPv6Address.zero
  remoteMac := ⟨fun _ => 0⟩
  remotePort := 0
  localPort := localPort
  writePos := -1

/-- The node has the addresses it had. -/
structure SameNodeAddresses (before after : EtherSia) : Prop where
  linkLocalAddress : after.linkLocalAddress = before.linkLocalAddress
  globalAddress : after.globalAddress = before.globalAddress
  localMac : after.localMac = before.localMac

theorem SameNodeAddresses.trans {first second third : EtherSia}
    (before : SameNodeAddresses first second) (after : SameNodeAddresses second third) :
    SameNodeAddresses first third :=
  ⟨after.linkLocalAddress.trans before.linkLocalAddress,
    after.globalAddress.trans before.globalAddress, after.localMac.trans before.localMac⟩

theorem SameNodeAddresses.isOurAddress {before after : EtherSia}
    (same : SameNodeAddresses before after) (address : IPv6Address) :
    after.isOurAddress address = before.isOurAddress address := by
  unfold EtherSia.isOurAddress
  rw [same.linkLocalAddress, same.globalAddress]

theorem isOurAddress_linkLocal (ether : EtherSia) :
    ether.isOurAddress ether.linkLocalAddress = some .linkLocal :=
  if_pos rfl

theorem isOurAddress_global_ne_none (ether : EtherSia) :
    ether.isOurAddress ether.globalAddress ≠ none := by
  unfold EtherSia.isOurAddress
  by_cases same : ether.globalAddress = ether.linkLocalAddress
  · rw [if_pos same]
    simp
  · rw [if_neg same, if_pos rfl]
    simp

theorem sendSourceAddress_ours (ether : EtherSia) (destination : IPv6Address) :
    ether.isOurAddress (UDPSocket.sendSourceAddress ether destination) ≠ none := by
  unfold UDPSocket.sendSourceAddress
  split
  · rw [isOurAddress_linkLocal]
    simp
  · exact isOurAddress_global_ne_none ether

/-- A packet sent to one of the node's unicast addresses is answered from it. -/
theorem replySourceAddress_eq {ether : EtherSia}
    (unicast : destination ether.buffer = ether.linkLocalAddress ∨
      destination ether.buffer = ether.globalAddress) :
    ether.replySourceAddress = destination ether.buffer := by
  unfold EtherSia.replySourceAddress EtherSia.isOurAddress
  by_cases isLinkLocal : destination ether.buffer = ether.linkLocalAddress
  · rw [if_pos isLinkLocal, isLinkLocal]
    exact if_neg (by decide)
  · have isGlobal := unicast.resolve_left isLinkLocal
    rw [if_neg isLinkLocal, if_pos isGlobal, isGlobal]
    exact if_pos rfl

/-- The socket reports a packet with this data. -/
structure UDPSocket.Reports (socket : Socket) (ether : EtherSia) (data : List UInt8) :
    Prop where
  havePacket : UDPSocket.havePacket socket ether = true
  payloadLength : UDPSocket.payloadLength ether.buffer = UInt16.ofNat data.length
  payload : bytesAt ether.buffer UDPSocket.payload
    (UDPSocket.payloadLength ether.buffer).toNat = data

theorem CarriesDatagram.reports {socket : Socket} {ether : EtherSia}
    {datagram : Datagram} (carries : CarriesDatagram ether.buffer datagram)
    (have_ : UDPSocket.havePacket socket ether = true) :
    UDPSocket.Reports socket ether datagram.data := by
  have counted := carries.dataLength
  refine ⟨have_, ?_, ?_⟩
  · rw [← counted, UInt16.ofNat_toNat]
  · rw [counted]
    exact carries.data

/-- The request, sent once, is reported to the socket with that local port; its reply,
sent once, is reported to the client, in whatever state the first node is by then. -/
def RoundTrip (first second : EtherSia) (client : Socket) (localPort : UInt16)
    (request reply : List UInt8) : Prop :=
  ∃ sent : Frame, (UDPSocket.sendData client request false first).sent =
      first.sent ++ [sent.octets] ∧
    ∃ len received, second.receivePacket sent = some (len, received) ∧ len ≠ 0 ∧
      UDPSocket.Reports (Socket.withLocalPort localPort) received request ∧
      ∃ answer : Frame,
        (UDPSocket.sendData (Socket.withLocalPort localPort) reply true received).sent =
          received.sent ++ [answer.octets] ∧
        ∀ later, SameNodeAddresses first later →
          ∃ len answered, later.receivePacket answer = some (len, answered) ∧
            len ≠ 0 ∧ UDPSocket.Reports client answered reply

/-- A request to a unicast address of another node, and the reply, arrive. -/
theorem request_reply_round_trip (first second : EtherSia) (client : Socket)
    (localPort : UInt16) (request reply : List UInt8)
    (differentMac : first.localMac ≠ second.localMac)
    (addresses : client.Addresses second (Socket.withLocalPort localPort))
    (requestFits : request.length ≤ 537) (replyFits : reply.length ≤ 537) :
    RoundTrip first second client localPort request reply := by
  let server := Socket.withLocalPort localPort
  have requestRoom : request.length ≤ 538 := requestFits.trans (by decide)
  have replyRoom : reply.length ≤ 538 := replyFits.trans (by decide)
  have carries := UDPSocket.sendData_carries client request false first
    (fun isReply => by cases isReply) requestRoom
  obtain ⟨receives, requestLen, arrived⟩ := receivePacket_of_datagram second
    carries requestFits addresses.remoteMac differentMac
  let received := second.accepted
    (Frame.delivered (packetOctets (UDPSocket.sendData client request false first).buffer))
  have toServer : client.remoteAddress = received.linkLocalAddress ∨
      client.remoteAddress = received.globalAddress := addresses.remoteAddress
  have oursAtServer : received.isOurAddress client.remoteAddress ≠ none := by
    rcases toServer with isLinkLocal | isGlobal
    · rw [isLinkLocal, isOurAddress_linkLocal]
      simp
    · rw [isGlobal]
      exact isOurAddress_global_ne_none received
  have atServer : UDPSocket.havePacket server received = true :=
    UDPSocket.havePacket_of_datagram rfl arrived addresses.remotePort (Or.inl rfl)
      oursAtServer (Or.inl rfl)
  -- the reply leaves from the address the request was sent to
  have unicast : destination received.buffer = client.remoteAddress := arrived.destination
  have repliesFrom : received.replySourceAddress = client.remoteAddress := by
    rw [replySourceAddress_eq (by rw [unicast]; exact toServer), unicast]
  have replyCarries := UDPSocket.sendData_carries server reply true received
    (fun _ => headerValid_of_isValid arrived.valid) replyRoom
  refine ⟨UDPSocket.sentFrame client request false first,
    UDPSocket.sendData_sent client request false first (fun isReply => by cases isReply)
      requestRoom, _, received, receives, requestLen, arrived.reports atServer,
    UDPSocket.sentFrame server reply true received,
    UDPSocket.sendData_sent server reply true received
      (fun _ => headerValid_of_isValid arrived.valid) replyRoom, fun later same => ?_⟩
  obtain ⟨answers, replyLen, answered⟩ := receivePacket_of_datagram later replyCarries
    replyFits (arrived.etherSource.trans same.localMac.symm) (by
      rw [same.localMac]
      exact differentMac.symm)
  have oursAtClient : (later.accepted
      (UDPSocket.sentFrame server reply true received)).isOurAddress
        (source received.buffer) ≠ none := by
    rw [arrived.source]
    change later.isOurAddress (UDPSocket.sendSourceAddress first client.remoteAddress) ≠ _
    rw [same.isOurAddress]
    exact sendSourceAddress_ours first client.remoteAddress
  refine ⟨_, _, answers, replyLen, answered.reports ?_⟩
  exact UDPSocket.havePacket_of_datagram rfl answered arrived.sourcePort
    (Or.inr addresses.remotePort.symm) oursAtClient (Or.inr repliesFrom)

/-- A client for port 7 of the node with MAC address 02:00:00:00:00:02. -/
def exampleClient : Socket where
  remoteAddress := IPv6Address.linkLocalOf (exampleMac 2)
  remoteMac := exampleMac 2
  remotePort := 7
  localPort := 20000
  writePos := -1

theorem request_reply_round_trip_echo :
    RoundTrip (EtherSia.configured (exampleMac 1) fun _ => 0)
      (EtherSia.configured (exampleMac 2) fun _ => 0) exampleClient 7
      [0x68, 0x65, 0x6c, 0x6c, 0x6f] [0x68, 0x69] := by
  apply request_reply_round_trip
  · decide
  · exact ⟨Or.inl rfl, rfl, rfl⟩
  · decide
  · decide

end EtherSiaStack
