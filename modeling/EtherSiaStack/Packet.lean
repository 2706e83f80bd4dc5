/-
The IPv6 packet overlaid on the packet buffer.

`EtherSia` casts the start of `_buffer` to an `IPv6Packet`, so every field is a
fixed range of the memory that starts at `_buffer`: the Ethernet header at 0,
the IPv6 header at 14 and the payload at 54.  Addresses from 600 on are whatever
the program keeps behind the buffer; the code reads there when a length field
says so, and the model follows it.
-/

import EtherSiaStack.Address
import EtherSiaStack.Library.OnesComplement

namespace EtherSiaStack

open ByteMemory

def ETHERSIA_MAX_PACKET_SIZE : Nat := 600
def ETHER_TYPE_IPV6 : UInt16 := 0x86dd
def IP6_DEFAULT_HOP_LIMIT : UInt8 := 64
def IP6_PROTO_TCP : UInt8 := 6
def IP6_PROTO_UDP : UInt8 := 17
def IP6_PROTO_ICMP6 : UInt8 := 58

/-- `htons` (and `ntohs`) on a little-endian host: swap the two bytes. -/
def htons (word : UInt16) : UInt16 :=
  be16 (low16 word) (high16 word)

/-- `htonl` (and `ntohl`): reverse the four bytes. -/
def htonl (word : UInt32) : UInt32 :=
  be32 (UInt8.ofNat word.toNat) (UInt8.ofNat (word.toNat / 256))
    (UInt8.ofNat (word.toNat / 65536)) (UInt8.ofNat (word.toNat / 16777216))

/-! ### util.cpp -/

/-- One pass of the loop in `chksum`: add a word and put the carry back. -/
def chksumStep (sum t : UInt16) : UInt16 :=
  let sum := sum + t
  if sum < t then sum + 1 else sum

/-- `chksum(sum, data, len)` with the `len` bytes at `data` as a list. -/
def chksum (sum : UInt16) : List UInt8 → UInt16
  | [] => sum
  | [last] => chksumStep sum (be16 last 0)
  | high :: low :: rest => chksum (chksumStep sum (be16 high low)) rest

namespace IPv6Packet

/-! ### Fields -/

@[simp] def etherDestination (memory : Memory) : MACAddress := ⟨blockAt memory 0⟩
@[simp] def etherSource (memory : Memory) : MACAddress := ⟨blockAt memory 6⟩
@[simp] def etherType (memory : Memory) : UInt16 := u16At memory 12
@[simp] def version (memory : Memory) : UInt8 := (memory 14 &&& 0xF0) >>> 4
@[simp] def payloadLength (memory : Memory) : UInt16 := u16At memory 18
@[simp] def protocol (memory : Memory) : UInt8 := memory 20
@[simp] def hopLimit (memory : Memory) : UInt8 := memory 21
@[simp] def source (memory : Memory) : IPv6Address := ⟨blockAt memory 22⟩
@[simp] def destination (memory : Memory) : IPv6Address := ⟨blockAt memory 38⟩

/-- Where `payload()` points. -/
def payload : Nat := 54

@[simp] def setEtherDestination (memory : Memory) (mac : MACAddress) : Memory :=
  store memory 0 (blockBytes mac.octet)

@[simp] def setEtherSource (memory : Memory) (mac : MACAddress) : Memory :=
  store memory 6 (blockBytes mac.octet)

@[simp] def setPayloadLength (memory : Memory) (length : UInt16) : Memory :=
  store memory 18 (bytes16 length)

@[simp] def setProtocol (memory : Memory) (protocol : UInt8) : Memory :=
  store memory 20 [protocol]

@[simp] def setHopLimit (memory : Memory) (hopLimit : UInt8) : Memory :=
  store memory 21 [hopLimit]

@[simp] def setSource (memory : Memory) (address : IPv6Address) : Memory :=
  store memory 22 (blockBytes address.octet)

@[simp] def setDestination (memory : Memory) (address : IPv6Address) : Memory :=
  store memory 38 (blockBytes address.octet)

/-- EtherType, version 6, traffic class and flow label 0, default hop limit. -/
@[simp] def init (memory : Memory) : Memory :=
  let memory := store memory 12 (bytes16 ETHER_TYPE_IPV6)
  let memory := store memory 14 [0x60]
  let memory := store memory 15 [0x00]
  let memory := store memory 16 (bytes16 0)
  store memory 21 [IP6_DEFAULT_HOP_LIMIT]

/-- Ethernet header, IPv6 header and payload, as a `uint16_t`. -/
def length (memory : Memory) : UInt16 :=
  14 + 40 + payloadLength memory

/-! ### Validity -/

def calculateChecksum (memory : Memory) : UInt16 :=
  let newsum := payloadLength memory + (protocol memory).toUInt16
  let newsum := chksum newsum (bytesAt memory 22 16)
  let newsum := chksum newsum (bytesAt memory 38 16)
  let newsum := chksum newsum (bytesAt memory payload (payloadLength memory).toNat)
  ~~~newsum

def isValid (memory : Memory) : Bool :=
  if etherType memory ≠ ETHER_TYPE_IPV6 then false
  else if version memory ≠ 6 then false
  else if calculateChecksum memory ≠ 0 then false
  else true

/-- Every sender ends with the same two statements: the checksum field, at
`address`, is cleared and then receives `htons(calculateChecksum())`. -/
def storeChecksum (memory : Memory) (address : Nat) : Memory :=
  let memory := store memory address (bytes16 0)
  store memory address (bytes16 (calculateChecksum memory))

end IPv6Packet

/-! ### The TCP header at the start of the payload -/

def TCP_FLAG_URG : UInt8 := 0x20
def TCP_FLAG_ACK : UInt8 := 0x10
def TCP_FLAG_PSH : UInt8 := 0x08
def TCP_FLAG_RST : UInt8 := 0x04
def TCP_FLAG_SYN : UInt8 := 0x02
def TCP_FLAG_FIN : UInt8 := 0x01

def TCP_MINIMUM_HEADER_LEN : UInt16 := 20
def TCP_TRANSMIT_HEADER_LEN : UInt16 := 24

/-- 600 bytes less the Ethernet, IPv6 and TCP headers and 32. -/
def TCP_WINDOW_SIZE : UInt16 := 490

/-- The C test `flags & mask`. -/
def hasFlag (flags mask : UInt8) : Bool :=
  flags &&& mask ≠ 0

namespace TCPHeader

@[simp] def sourcePort (memory : Memory) : UInt16 := u16At memory 54
@[simp] def destinationPort (memory : Memory) : UInt16 := u16At memory 56
@[simp] def sequenceNum (memory : Memory) : UInt32 := u32At memory 58
@[simp] def acknowledgementNum (memory : Memory) : UInt32 := u32At memory 62
@[simp] def dataOffset (memory : Memory) : UInt8 := memory 66
@[simp] def flags (memory : Memory) : UInt8 := memory 67

@[simp] def setSourcePort (memory : Memory) (port : UInt16) : Memory :=
  store memory 54 (bytes16 port)

@[simp] def setDestinationPort (memory : Memory) (port : UInt16) : Memory :=
  store memory 56 (bytes16 port)

@[simp] def setSequenceNum (memory : Memory) (number : UInt32) : Memory :=
  store memory 58 (bytes32 number)

@[simp] def setAcknowledgementNum (memory : Memory) (number : UInt32) : Memory :=
  store memory 62 (bytes32 number)

@[simp] def setDataOffset (memory : Memory) (dataOffset : UInt8) : Memory :=
  store memory 66 [dataOffset]

@[simp] def setFlags (memory : Memory) (flags : UInt8) : Memory :=
  store memory 67 [flags]

@[simp] def setWindow (memory : Memory) (window : UInt16) : Memory :=
  store memory 68 (bytes16 window)

@[simp] def setUrgentPointer (memory : Memory) (pointer : UInt16) : Memory :=
  store memory 72 (bytes16 pointer)

/-- The maximum-segment-size option of a 24-byte header; its value is a copy of
the window field. -/
@[simp] def setMssOption (memory : Memory) : Memory :=
  let memory := store memory 74 [2]
  let memory := store memory 75 [4]
  store memory 76 (bytes16 (u16At memory 68))

/-- Where the TCP checksum field lies. -/
def checksumAddress : Nat := 70

/-- `(dataOffset & 0xF0) >> 2`: the header length in bytes, as received. -/
def receiveHeaderLen (memory : Memory) : UInt16 :=
  ((dataOffset memory &&& 0xF0) >>> 2).toUInt16

end TCPHeader

/-! ### The UDP header -/

def UDP_HEADER_LEN : UInt16 := 8

namespace UDPHeader

@[simp] def sourcePort (memory : Memory) : UInt16 := u16At memory 54
@[simp] def destinationPort (memory : Memory) : UInt16 := u16At memory 56
@[simp] def length (memory : Memory) : UInt16 := u16At memory 58

@[simp] def setSourcePort (memory : Memory) (port : UInt16) : Memory :=
  store memory 54 (bytes16 port)

@[simp] def setDestinationPort (memory : Memory) (port : UInt16) : Memory :=
  store memory 56 (bytes16 port)

@[simp] def setLength (memory : Memory) (length : UInt16) : Memory :=
  store memory 58 (bytes16 length)

/-- Where the UDP checksum field lies. -/
def checksumAddress : Nat := 60

end UDPHeader

end EtherSiaStack
