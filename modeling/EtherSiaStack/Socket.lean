/-
Sockets over the shared buffer: the base class, UDP and the TCP server.

`Socket::send` prepares the headers and calls the protocol's `sendInternal`.
A `TCPServer` keeps no connection: everything it needs for a reply is read back
from the header of the packet it answers.
-/

import EtherSiaStack.Icmp6

namespace EtherSiaStack

open ByteMemory IPv6Packet

structure Socket where
  remoteAddress : IPv6Address
  remoteMac : MACAddress
  remotePort : UInt16
  localPort : UInt16
  writePos : Int16

namespace Socket

/-- The part of `Socket::send` before `sendInternal`. -/
def prepare (socket : Socket) (isReply : Bool) (ether : EtherSia) : EtherSia :=
  if isReply then
    ether.prepareReply
  else
    let ether := ether.modifyPacket fun packet =>
      let packet := setDestination packet socket.remoteAddress
      setEtherDestination packet socket.remoteMac
    ether.prepareSend

end Socket

/-! ### UDP -/

namespace UDPSocket

def havePacket (socket : Socket) (ether : EtherSia) : Bool :=
  let packet := ether.buffer
  if ether.bufferContainsReceived = false then false
  else if protocol packet ≠ IP6_PROTO_UDP then false
  else if UDPHeader.destinationPort packet ≠ socket.localPort then false
  else if socket.remotePort ≠ 0 ∧ UDPHeader.sourcePort packet ≠ socket.remotePort then
    false
  else if ether.isOurAddress (destination packet) = none then false
  else if socket.remoteAddress.isZero = false ∧ source packet ≠ socket.remoteAddress then
    false
  else true

/-- Where `payload()` points. -/
def payload : Nat := 62

/-- `ntohs(length) - UDP_HEADER_LEN`, as a `uint16_t`. -/
def payloadLength (packet : Memory) : UInt16 :=
  UDPHeader.length packet - UDP_HEADER_LEN

def sendInternal (socket : Socket) (length : UInt16) (isReply : Bool)
    (ether : EtherSia) : EtherSia :=
  let totalLen := UDP_HEADER_LEN + length
  let ether := ether.modifyPacket fun packet =>
    let packet := setProtocol packet IP6_PROTO_UDP
    let packet := setPayloadLength packet totalLen
    let packet := UDPHeader.setLength packet totalLen
    let packet :=
      if isReply then UDPHeader.setDestinationPort packet (UDPHeader.sourcePort packet)
      else UDPHeader.setDestinationPort packet socket.remotePort
    let packet := UDPHeader.setSourcePort packet socket.localPort
    storeChecksum packet UDPHeader.checksumAddress
  ether.send

def send (socket : Socket) (length : UInt16) (isReply : Bool) (ether : EtherSia) :
    EtherSia :=
  sendInternal socket length isReply (socket.prepare isReply ether)

end UDPSocket

/-! ### TCP server -/

namespace TCPServer

open TCPHeader

/-- Where `transmitPayload()` points. -/
def transmitPayload : Nat := 78

/-- Where `payload()` points: behind the header length the packet states. -/
def payload (packet : Memory) : Nat :=
  IPv6Packet.payload + (receiveHeaderLen packet).toNat

/-- As a `uint16_t`. -/
def payloadLength (packet : Memory) : UInt16 :=
  IPv6Packet.payloadLength packet - receiveHeaderLen packet

/-- `sendInternal` up to the checksum. -/
def segmentFields (socket : Socket) (length : UInt16) (packet : Memory) : Memory :=
  let seq := acknowledgementNum packet
  let ack := sequenceNum packet
  let receivedLen := payloadLength packet
  let receivedLen := if receivedLen = 0 then 1 else receivedLen
  let packet :=
    if flags packet = 0 then
      setFlags packet (TCP_FLAG_ACK ||| TCP_FLAG_FIN ||| TCP_FLAG_PSH)
    else packet
  let packet := setDestinationPort packet (sourcePort packet)
  let packet := setSourcePort packet socket.localPort
  let packet := setSequenceNum packet seq
  let packet := setAcknowledgementNum packet (ack + receivedLen.toUInt32)
  let packet := setDataOffset packet 0x60
  let packet := setWindow packet TCP_WINDOW_SIZE
  let packet := setUrgentPointer packet 0
  let packet := setMssOption packet
  setPayloadLength packet (TCP_TRANSMIT_HEADER_LEN + length)

def sendInternal (socket : Socket) (length : UInt16) (ether : EtherSia) : EtherSia :=
  let ether := ether.modifyPacket fun packet =>
    storeChecksum (segmentFields socket length packet) checksumAddress
  ether.send

def send (socket : Socket) (length : UInt16) (isReply : Bool) (ether : EtherSia) :
    EtherSia :=
  sendInternal socket length (socket.prepare isReply ether)

/-- `randomNumber` is the value of `random()`, stored in host byte order. -/
def havePacket (socket : Socket) (randomNumber : UInt32) (ether : EtherSia) :
    Bool × Socket × EtherSia :=
  let packet := ether.buffer
  if ether.bufferContainsReceived = false then (false, socket, ether)
  else if protocol packet ≠ IP6_PROTO_TCP then (false, socket, ether)
  else if destinationPort packet ≠ socket.localPort then (false, socket, ether)
  else if hasFlag (flags packet) TCP_FLAG_RST then (false, socket, ether)
  else if hasFlag (flags packet) TCP_FLAG_FIN then
    let ether := ether.modifyPacket fun packet =>
      setFlags packet (TCP_FLAG_FIN ||| TCP_FLAG_ACK)
    (false, socket, send socket 0 true ether)
  else if hasFlag (flags packet) TCP_FLAG_SYN then
    let ether := ether.modifyPacket fun packet =>
      let packet := setAcknowledgementNum packet (htonl randomNumber)
      setFlags packet (TCP_FLAG_SYN ||| TCP_FLAG_ACK)
    (false, socket, send socket 0 true ether)
  else if payloadLength packet > 0 then
    let ether := ether.modifyPacket fun packet => setFlags packet 0
    (true, { socket with writePos := -1 }, ether)
  else (false, socket, ether)

end TCPServer

end EtherSiaStack
