/-
ICMPv6 and the receive path.

Neighbour solicitations, echo requests and router advertisements are handled
inside `receivePacket`.  The two option walks take their step from a length
byte of the packet, so they are loops run with fuel; `optionWalkFuel` is enough
for every walk that ends, since the remaining count is at most 32767 and a pass
that does not lower it repeats for ever.
-/

import EtherSiaStack.Interface
import EtherSiaStack.Library.FuelLoop

namespace EtherSiaStack

open ByteMemory

def ICMP6_TYPE_UNREACHABLE : UInt8 := 1
def ICMP6_TYPE_PARAM_PROB : UInt8 := 4
def ICMP6_TYPE_ECHO : UInt8 := 128
def ICMP6_TYPE_ECHO_REPLY : UInt8 := 129
def ICMP6_TYPE_RS : UInt8 := 133
def ICMP6_TYPE_RA : UInt8 := 134
def ICMP6_TYPE_NS : UInt8 := 135
def ICMP6_TYPE_NA : UInt8 := 136
def ICMP6_CODE_PORT_UNREACHABLE : UInt8 := 4
def ICMP6_CODE_UNRECOGNIZED_NH : UInt8 := 1
def ICMP6_NA_FLAG_S : UInt8 := 0x40
def ICMP6_OPTION_SOURCE_LINK_ADDRESS : UInt8 := 1
def ICMP6_OPTION_TARGET_LINK_ADDRESS : UInt8 := 2
def ICMP6_OPTION_PREFIX_INFORMATION : UInt8 := 3
def ICMP6_OPTION_RECURSIVE_DNS : UInt8 := 25

namespace ICMPv6Packet

@[simp] def type (memory : Memory) : UInt8 := memory 54
@[simp] def setType (memory : Memory) (type : UInt8) : Memory := store memory 54 [type]
@[simp] def setCode (memory : Memory) (code : UInt8) : Memory := store memory 55 [code]

/-- Where the ICMPv6 checksum field lies. -/
def checksumAddress : Nat := 56

/-- The target of a neighbour solicitation or advertisement. -/
@[simp] def target (memory : Memory) : IPv6Address := ⟨blockAt memory 62⟩

/-- Where the options of a router advertisement start. -/
def raOptions : Nat := 70

/-- Where the options of a neighbour advertisement start. -/
def naOptions : Nat := 78

end ICMPv6Packet

/-- `packet.payloadLength() - headers`, stored in an `int16_t`. -/
def optionBytes (memory : Memory) (headers : UInt16) : Int16 :=
  (IPv6Packet.payloadLength memory - headers).toInt16

/-- Fuel for the option walks. -/
def optionWalkFuel : Nat := 32768

namespace EtherSia

open IPv6Packet ICMPv6Packet

/-! ### Messages built in the buffer -/

def icmp6PacketSend (ether : EtherSia) : EtherSia :=
  let ether := ether.modifyPacket fun packet =>
    let packet := setProtocol packet IP6_PROTO_ICMP6
    storeChecksum packet ICMPv6Packet.checksumAddress
  ether.send

def icmp6ErrorReply (ether : EtherSia) (type code : UInt8) : EtherSia :=
  let payloadLen := 40 + payloadLength ether.buffer
  let payloadLen := if payloadLen > 538 then 538 else payloadLen
  -- memmove of the packet from its IPv6 header on
  let ether := ether.modifyPacket fun packet =>
    store packet 62 (bytesAt packet 14 payloadLen.toNat)
  let ether := ether.prepareReply
  let ether := ether.modifyPacket fun packet =>
    let packet := setPayloadLength packet (4 + 4 + payloadLen)
    let packet := setType packet type
    let packet := setCode packet code
    if type = ICMP6_TYPE_PARAM_PROB then
      -- pointer to the 'next header' field
      store packet 58 (bytes32 6)
    else
      store packet 58 (bytes32 0)
  ether.icmp6PacketSend

def icmp6NSReply (ether : EtherSia) : EtherSia :=
  let type := ether.isOurAddress (target ether.buffer)
  if type ≠ some .linkLocal ∧ type ≠ some .global then
    ether
  else
    let ether := ether.prepareReply
    let ether := ether.modifyPacket fun packet =>
      let packet := setHopLimit packet 255
      let packet := setPayloadLength packet 32
      let packet := setType packet ICMP6_TYPE_NA
      let packet := setCode packet 0
      let packet := store packet 58 [ICMP6_NA_FLAG_S]
      let packet := store packet 59 [0, 0, 0]
      let packet := store packet 78 [ICMP6_OPTION_TARGET_LINK_ADDRESS]
      let packet := store packet 79 [1]
      store packet 80 (blockBytes ether.localMac.octet)
    ether.icmp6PacketSend

def icmp6EchoReply (ether : EtherSia) : EtherSia :=
  let ether := ether.prepareReply
  let ether := ether.modifyPacket fun packet =>
    let packet := setType packet ICMP6_TYPE_ECHO_REPLY
    setCode packet 0
  ether.icmp6PacketSend

def icmp6SendNS (ether : EtherSia) (targetAddress sourceAddress : IPv6Address) :
    EtherSia :=
  let ether := ether.modifyPacket fun packet =>
    let packet := setDestination packet targetAddress.setSolicitedNodeMulticastAddress
    setEtherDestination packet (MACAddress.setIPv6Multicast (destination packet))
  let ether := ether.prepareSend
  let ether := ether.modifyPacket fun packet =>
    let packet := setSource packet sourceAddress
    let packet := setPayloadLength packet 24
    let packet := setHopLimit packet 255
    let packet := setType packet ICMP6_TYPE_NS
    let packet := setCode packet 0
    let packet := store packet 58 [0, 0, 0, 0]
    store packet 62 (blockBytes targetAddress.octet)
  ether.icmp6PacketSend

def icmp6SendRS (ether : EtherSia) : EtherSia :=
  let ether := ether.prepareSend
  let ether := ether.modifyPacket fun packet =>
    let packet := setPayloadLength packet 16
    let packet := setHopLimit packet 255
    let packet := setSource packet ether.linkLocalAddress
    let packet := setDestination packet IPv6Address.linkLocalAllRouters
    let packet :=
      setEtherDestination packet (MACAddress.setIPv6Multicast (destination packet))
    let packet := setType packet ICMP6_TYPE_RS
    let packet := setCode packet 0
    let packet := store packet 58 [0, 0, 0, 0]
    let packet := store packet 62 [ICMP6_OPTION_SOURCE_LINK_ADDRESS]
    let packet := store packet 63 [1]
    store packet 64 (blockBytes ether.localMac.octet)
  ether.icmp6PacketSend

/-! ### Option walks -/

/-- `prefixInformation` is the address of the option's third byte. -/
def icmp6ProcessPrefix (ether : EtherSia) (prefixInformation : Nat) : EtherSia :=
  if ether.buffer (prefixInformation + 1) &&& 0xC0 ≠ 0xC0 then ether
  else if ether.buffer prefixInformation ≠ 64 then ether
  else if ether.globalAddress.isZero then
    let announced : IPv6Address := ⟨blockAt ether.buffer (prefixInformation + 14)⟩
    { ether with globalAddress := announced.setEui64 ether.localMac }
  else ether

/-- The locals of an option walk and the interface it updates. -/
structure OptionWalk where
  remaining : Int16
  ptr : Nat
  ether : EtherSia

/-- What the `switch` in `icmp6ProcessRA` does with the option at `ptr`. -/
def raOption (ether : EtherSia) (ptr : Nat) : EtherSia :=
  if ether.buffer ptr = ICMP6_OPTION_SOURCE_LINK_ADDRESS then
    { ether with routerMac := ⟨blockAt ether.buffer (ptr + 2)⟩ }
  else if ether.buffer ptr = ICMP6_OPTION_PREFIX_INFORMATION then
    ether.icmp6ProcessPrefix (ptr + 2)
  else if ether.buffer ptr = ICMP6_OPTION_RECURSIVE_DNS then
    { ether with dnsServerAddress := ⟨blockAt ether.buffer (ptr + 8)⟩ }
  else ether

/-- `8 * ptr[1]`. -/
def optionSize (memory : Memory) (ptr : Nat) : Nat :=
  8 * (memory (ptr + 1)).toNat

def OptionWalk.advance (walk : OptionWalk) (ether : EtherSia) : OptionWalk :=
  let size := optionSize ether.buffer walk.ptr
  { remaining := walk.remaining - Int16.ofNat size
    ptr := walk.ptr + size
    ether := ether }

/-- One pass of the loop in `icmp6ProcessRA`. -/
def raPass (walk : OptionWalk) : OptionWalk ⊕ EtherSia :=
  if walk.remaining > 0 then
    .inl (walk.advance (walk.ether.raOption walk.ptr))
  else
    .inr walk.ether

def raWalk (ether : EtherSia) : OptionWalk :=
  { remaining := optionBytes ether.buffer 16, ptr := raOptions, ether := ether }

/-- `none` when the walk never ends. -/
def icmp6ProcessRA (ether : EtherSia) : Option EtherSia :=
  if ether.autoConfigurationEnabled = false then some ether
  else FuelLoop.run raPass optionWalkFuel ether.raWalk

/-- One pass of the loop in `icmp6ProcessNA`; leaving with a MAC address is the
`return` inside the loop. -/
def naPass (walk : OptionWalk) : OptionWalk ⊕ MACAddress :=
  if walk.remaining > 0 then
    if walk.ether.buffer walk.ptr = ICMP6_OPTION_TARGET_LINK_ADDRESS then
      .inr ⟨blockAt walk.ether.buffer (walk.ptr + 2)⟩
    else
      .inl (walk.advance walk.ether)
  else
    .inr (etherSource walk.ether.buffer)

def naWalk (ether : EtherSia) : OptionWalk :=
  { remaining := optionBytes ether.buffer 24, ptr := naOptions, ether := ether }

/-- `none` when the walk never ends; `some none` is the NULL result. -/
def icmp6ProcessNA (ether : EtherSia) (expected : IPv6Address) :
    Option (Option MACAddress) :=
  if target ether.buffer ≠ expected then some none
  else (FuelLoop.run naPass optionWalkFuel ether.naWalk).map some

/-! ### Receiving -/

/-- Whether the packet was handled, and the interface afterwards. -/
def icmp6ProcessPacket (ether : EtherSia) : Option (Bool × EtherSia) :=
  if ether.isOurAddress (destination ether.buffer) = none then some (false, ether)
  else if type ether.buffer = ICMP6_TYPE_NS then some (true, ether.icmp6NSReply)
  else if type ether.buffer = ICMP6_TYPE_ECHO then some (true, ether.icmp6EchoReply)
  else if type ether.buffer = ICMP6_TYPE_RA then
    ether.icmp6ProcessRA.map fun ether => (true, ether)
  else some (false, ether)

/-- `readFrame` puts the frame at the start of the buffer. -/
def loadFrame (ether : EtherSia) (frame : Frame) : EtherSia :=
  ether.modifyPacket fun packet => store packet 0 frame.octets

/-- The two checks `receivePacket` makes before it accepts what is in the buffer. -/
def acceptsPacket (ether : EtherSia) : Bool :=
  isValid ether.buffer && ether.checkEthernetAddresses

/-- The part of `receivePacket` after the packet has been accepted. -/
def dispatchReceived (ether : EtherSia) (len : UInt16) : Option (UInt16 × EtherSia) :=
  if protocol ether.buffer = IP6_PROTO_ICMP6 then
    ether.icmp6ProcessPacket.map fun (handled, ether) =>
      if handled then (0, ether) else (len, ether)
  else
    some (len, ether)

/-- `none` when the call never returns. -/
def receivePacket (ether : EtherSia) (frame : Frame) : Option (UInt16 × EtherSia) :=
  let len := UInt16.ofNat frame.octets.length
  if len ≠ 0 then
    let ether := ether.loadFrame frame
    if !ether.acceptsPacket then
      some (0, { ether with bufferContainsReceived := false })
    else
      { ether with bufferContainsReceived := true }.dispatchReceived len
  else
    some (0, { ether with bufferContainsReceived := false })

def rejectPacket (ether : EtherSia) : EtherSia :=
  if ether.bufferContainsReceived = false then ether
  else if (destination ether.buffer).isMulticast then ether
  else if protocol ether.buffer = IP6_PROTO_TCP then ether.tcpSendRSTReply
  else if protocol ether.buffer = IP6_PROTO_UDP then
    ether.icmp6ErrorReply ICMP6_TYPE_UNREACHABLE ICMP6_CODE_PORT_UNREACHABLE
  else if protocol ether.buffer = IP6_PROTO_ICMP6 then ether
  else ether.icmp6ErrorReply ICMP6_TYPE_PARAM_PROB ICMP6_CODE_UNRECOGNIZED_NH

end EtherSia

end EtherSiaStack
