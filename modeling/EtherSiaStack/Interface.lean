/-
The Ethernet interface: addresses, the shared packet buffer and the frames sent.

One buffer holds the packet received or the packet being built, and
`bufferContainsReceived` says which.  `sent` is not a field of the class: it is
the log of what `sendFrame` was given, in order.
-/

import EtherSiaStack.Packet

namespace EtherSiaStack

open ByteMemory

/-- What one call of `readFrame` delivers; no bytes when nothing was waiting. -/
structure Frame where
  octets : List UInt8
  fits : octets.length ≤ ETHERSIA_MAX_PACKET_SIZE
  deriving DecidableEq

structure EtherSia where
  linkLocalAddress : IPv6Address
  globalAddress : IPv6Address
  dnsServerAddress : IPv6Address
  localMac : MACAddress
  routerMac : MACAddress
  buffer : Memory
  bufferContainsReceived : Bool
  autoConfigurationEnabled : Bool
  sent : List (List UInt8)

/-- The resolver the constructor sets: Google's public DNS. -/
def googlePublicDnsAddress : IPv6Address :=
  ⟨![0x20, 0x01, 0x48, 0x60, 0x48, 0x60, 0x00, 0x00,
    0x00, 0x00, 0x00, 0x00, 0x00, 0x00, 0x88, 0x88]⟩

namespace EtherSia

open IPv6Packet

/-- The constructor and the first statements of `begin()`: the link-local address
is derived from the MAC address and nothing has been received. -/
def configured (localMac : MACAddress) (buffer : Memory) : EtherSia where
  linkLocalAddress := IPv6Address.linkLocalOf localMac
  globalAddress := IPv6Address.zero
  dnsServerAddress := googlePublicDnsAddress
  localMac := localMac
  routerMac := ⟨fun _ => 0⟩
  buffer := buffer
  bufferContainsReceived := false
  autoConfigurationEnabled := true
  sent := []

/-- Change the packet in the buffer and nothing else. -/
def modifyPacket (ether : EtherSia) (change : Memory → Memory) : EtherSia :=
  { ether with buffer := change ether.buffer }

def isOurAddress (ether : EtherSia) (address : IPv6Address) :
    Option IPv6AddressType :=
  if address = ether.linkLocalAddress then
    some .linkLocal
  else if address = ether.globalAddress then
    some .global
  else if address.isLinkLocalAllNodes ∨
      address.isSolicitedNodeMulticastAddress ether.linkLocalAddress ∨
      address.isSolicitedNodeMulticastAddress ether.globalAddress then
    some .multicast
  else
    none

def inOurSubnet (ether : EtherSia) (address : IPv6Address) : Option IPv6AddressType :=
  if address.isLinkLocal then
    some .linkLocal
  else if address.inSameSubnet ether.globalAddress then
    some .global
  else
    -- a different subnet
    none

def checkEthernetAddresses (ether : EtherSia) : Bool :=
  if !(etherDestination ether.buffer).isIPv6Multicast &&
      !(etherDestination ether.buffer = ether.localMac) then
    -- destination neither a multicast address nor ours
    false
  else if etherSource ether.buffer = ether.localMac then
    -- a frame of our own, seen on cross-over cables
    false
  else
    true

/-! ### Sending -/

/-- The caller must set the Ethernet destination. -/
def prepareSend (ether : EtherSia) : EtherSia :=
  let packet := init ether.buffer
  let packet :=
    if (destination packet).isLinkLocal ∨ ether.globalAddress.isZero then
      setSource packet ether.linkLocalAddress
    else
      setSource packet ether.globalAddress
  let packet := setEtherSource packet ether.localMac
  { ether with bufferContainsReceived := false, buffer := packet }

/-- The source address `prepareReply` picks for the packet in the buffer. -/
def replySourceAddress (ether : EtherSia) : IPv6Address :=
  if ether.isOurAddress (destination ether.buffer) = some .global then
    ether.globalAddress
  else
    ether.linkLocalAddress

def prepareReply (ether : EtherSia) : EtherSia :=
  let packet := setHopLimit ether.buffer IP6_DEFAULT_HOP_LIMIT
  let packet := setDestination packet (source packet)
  let packet := setSource packet ether.replySourceAddress
  let packet := setEtherDestination packet (etherSource packet)
  let packet := setEtherSource packet ether.localMac
  { ether with bufferContainsReceived := false, buffer := packet }

/-- `sendFrame(_buffer, packet.length())`. -/
def send (ether : EtherSia) : EtherSia :=
  { ether with
    bufferContainsReceived := false
    sent := ether.sent ++ [bytesAt ether.buffer 0 (length ether.buffer).toNat] }

def tcpSendRSTReply (ether : EtherSia) : EtherSia :=
  let seqNum := TCPHeader.sequenceNum ether.buffer
  let sourcePort := TCPHeader.sourcePort ether.buffer
  let ether := ether.prepareReply
  let ether := ether.modifyPacket fun packet =>
    let packet := TCPHeader.setSourcePort packet (TCPHeader.destinationPort packet)
    let packet := TCPHeader.setDestinationPort packet sourcePort
    let packet := TCPHeader.setSequenceNum packet 0
    let packet := TCPHeader.setAcknowledgementNum packet (seqNum + 1)
    let packet := TCPHeader.setDataOffset packet 0x50
    let packet := TCPHeader.setFlags packet (TCP_FLAG_ACK ||| TCP_FLAG_RST)
    let packet := TCPHeader.setWindow packet 0
    let packet := TCPHeader.setUrgentPointer packet 0
    let packet := setPayloadLength packet TCP_MINIMUM_HEADER_LEN
    storeChecksum packet TCPHeader.checksumAddress
  ether.send

end EtherSia

end EtherSiaStack
