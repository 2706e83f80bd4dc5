/-
The payload a socket hands to the application.

`payloadLength()` subtracts one header field from another, and `havePacket()`
compares neither with the length of the IPv6 payload.  The range it exposes is
inside that payload exactly when the transport header is.
-/

import EtherSiaStack.Reception

namespace EtherSiaStack

open ByteMemory

/-- Every byte of the range belongs to the IPv6 payload. -/
def InsidePayload (packet : Memory) (first count : Nat) : Prop :=
  ∀ address, first ≤ address → address < first + count →
    IPv6Packet.payload ≤ address ∧ address < IPv6Packet.packetEnd packet

theorem insidePayload_iff {packet : Memory} {first count : Nat} (nonempty : 0 < count) :
    InsidePayload packet first count ↔
      IPv6Packet.payload ≤ first ∧ first + count ≤ IPv6Packet.packetEnd packet := by
  constructor
  · intro inside
    have low := (inside first le_rfl (by omega)).1
    have high := (inside (first + count - 1) (by omega) (by omega)).2
    exact ⟨low, by omega⟩
  · rintro ⟨low, high⟩ address lower upper
    exact ⟨by omega, by omega⟩

/-- The header lengths of a packet are consistent: the subtraction behind
`payloadLength()` does not underflow and the exposed range is payload. -/
structure ExposesPayload (packet : Memory) (first : Nat) (total header : UInt16) :
    Prop where
  noUnderflow : header ≤ total
  inside : InsidePayload packet first (total - header).toNat

theorem sub_toNat_of_le {total header : UInt16} (le : header ≤ total) :
    (total - header).toNat = total.toNat - header.toNat :=
  UInt16.toNat_sub_of_le total header le

namespace UDPSocket

/-- The range `payload()` and `payloadLength()` describe. -/
def ExposesPayload (packet : Memory) : Prop :=
  EtherSiaStack.ExposesPayload packet payload (UDPHeader.length packet) UDP_HEADER_LEN

/-- The UDP length field covers its own header, and no more than the IPv6
payload unless it announces no data. -/
def LengthFits (packet : Memory) : Prop :=
  UDP_HEADER_LEN ≤ UDPHeader.length packet ∧
    (UDPHeader.length packet = UDP_HEADER_LEN ∨
      UDPHeader.length packet ≤ IPv6Packet.payloadLength packet)

theorem exposesPayload_iff (packet : Memory) :
    ExposesPayload packet ↔ LengthFits packet := by
  have endIs : IPv6Packet.packetEnd packet =
      54 + (IPv6Packet.payloadLength packet).toNat := rfl
  have start : payload = 62 := rfl
  have packetStart : IPv6Packet.payload = 54 := rfl
  have eight : UDP_HEADER_LEN.toNat = 8 := rfl
  constructor
  · rintro ⟨covers, inside⟩
    refine ⟨covers, ?_⟩
    have least := UInt16.le_iff_toNat_le.mp covers
    by_cases noData : UDPHeader.length packet = UDP_HEADER_LEN
    · exact Or.inl noData
    · have different : (UDPHeader.length packet).toNat ≠ 8 := fun same =>
        noData (UInt16.toNat_inj.mp same)
      rw [sub_toNat_of_le covers, insidePayload_iff (by omega)] at inside
      exact Or.inr (UInt16.le_iff_toNat_le.mpr (by omega))
  · rintro ⟨covers, fits⟩
    refine ⟨covers, ?_⟩
    have least := UInt16.le_iff_toNat_le.mp covers
    rw [sub_toNat_of_le covers]
    rcases fits with noData | within
    · intro address lower upper
      rw [noData] at upper
      omega
    · have most := UInt16.le_iff_toNat_le.mp within
      intro address lower upper
      omega

end UDPSocket

namespace TCPServer

open TCPHeader

/-- The range `payload()` and `payloadLength()` describe. -/
def ExposesPayload (packet : Memory) : Prop :=
  EtherSiaStack.ExposesPayload packet (payload packet)
    (IPv6Packet.payloadLength packet) (receiveHeaderLen packet)

/-- The data offset does not point behind the IPv6 payload. -/
def OffsetFits (packet : Memory) : Prop :=
  receiveHeaderLen packet ≤ IPv6Packet.payloadLength packet

theorem exposesPayload_iff (packet : Memory) :
    ExposesPayload packet ↔ OffsetFits packet := by
  constructor
  · exact EtherSiaStack.ExposesPayload.noUnderflow
  · intro fits
    refine ⟨fits, ?_⟩
    have most := UInt16.le_iff_toNat_le.mp fits
    have endIs : IPv6Packet.packetEnd packet =
        54 + (IPv6Packet.payloadLength packet).toNat := rfl
    have start : payload packet = 54 + (receiveHeaderLen packet).toNat := rfl
    have packetStart : IPv6Packet.payload = 54 := rfl
    rw [sub_toNat_of_le fits]
    intro address lower upper
    omega

/-! ### When `havePacket` is true -/

/-- The packet in the buffer carries data for this socket. -/
structure HasData (socket : Socket) (ether : EtherSia) : Prop where
  received : ether.bufferContainsReceived = true
  isTcp : IPv6Packet.protocol ether.buffer = IP6_PROTO_TCP
  ourPort : destinationPort ether.buffer = socket.localPort
  noRst : hasFlag (flags ether.buffer) TCP_FLAG_RST = false
  noFin : hasFlag (flags ether.buffer) TCP_FLAG_FIN = false
  noSyn : hasFlag (flags ether.buffer) TCP_FLAG_SYN = false
  data : payloadLength ether.buffer > 0

theorem havePacket_of_hasData {socket : Socket} {ether : EtherSia}
    (hasData : HasData socket ether) (randomNumber : UInt32) :
    havePacket socket randomNumber ether =
      (true, { socket with writePos := -1 },
        ether.modifyPacket fun packet => setFlags packet 0) := by
  have flagged : ¬ ether.bufferContainsReceived = false := by
    rw [hasData.received]
    decide
  unfold havePacket
  dsimp only
  rw [if_neg flagged, if_neg (not_not.mpr hasData.isTcp),
    if_neg (not_not.mpr hasData.ourPort), hasData.noRst, hasData.noFin, hasData.noSyn,
    if_pos hasData.data]
  rfl

theorem havePacket_eq_true_iff (socket : Socket) (randomNumber : UInt32)
    (ether : EtherSia) :
    (havePacket socket randomNumber ether).1 = true ↔ HasData socket ether := by
  constructor
  · intro isData
    unfold havePacket at isData
    dsimp only at isData
    split_ifs at isData with received isTcp ourPort rst fin syn data
    exact ⟨by simpa using received, not_not.mp isTcp, not_not.mp ourPort,
      by simpa using rst, by simpa using fin, by simpa using syn, data⟩
  · intro hasData
    rw [havePacket_of_hasData hasData]

/-- Clearing the flags keeps the header lengths. -/
theorem exposesPayload_setFlags (packet : Memory) (flags : UInt8) :
    ExposesPayload (setFlags packet flags) ↔ ExposesPayload packet := by
  rw [exposesPayload_iff, exposesPayload_iff]
  simp [OffsetFits, receiveHeaderLen]

end TCPServer

/-! ### What the application sees -/

/-- Whenever `havePacket` is true, what it exposes is inside the IPv6 payload
exactly when the header lengths are consistent. -/
theorem havePacket_exposes_payload_iff (socket : Socket) (randomNumber : UInt32)
    (ether : EtherSia) :
    (UDPSocket.havePacket socket ether = true →
      (UDPSocket.ExposesPayload ether.buffer ↔ UDPSocket.LengthFits ether.buffer)) ∧
    ((TCPServer.havePacket socket randomNumber ether).1 = true →
      (TCPServer.ExposesPayload
          (TCPServer.havePacket socket randomNumber ether).2.2.buffer ↔
        TCPServer.OffsetFits ether.buffer)) := by
  constructor
  · intro _havePacket
    exact UDPSocket.exposesPayload_iff ether.buffer
  · intro havePacket
    have hasData := (TCPServer.havePacket_eq_true_iff _ _ _).mp havePacket
    rw [TCPServer.havePacket_of_hasData hasData, ← TCPServer.exposesPayload_iff]
    exact TCPServer.exposesPayload_setFlags ether.buffer 0

/-- A UDP header of which the length field says 4. -/
def shortLengthDatagram : Frame :=
  exampleFrame 8 IP6_PROTO_UDP [0x10, 0, 0, 53, 0, 4, 0xf4, 0xa8] (by decide)

/-- A TCP header of 20 bytes of which the data offset says 60. -/
def longOffsetSegment : Frame :=
  exampleFrame 20 IP6_PROTO_TCP
    [0x10, 0, 0, 80, 0, 0, 0, 1, 0, 0, 0, 0, 0xf0, 0x10, 2, 0, 0x02, 0x7f, 0, 0]
    (by decide)

def exampleSocket (localPort : UInt16) : Socket where
  remoteAddress := IPv6Address.zero
  remoteMac := ⟨fun _ => 0⟩
  remotePort := 0
  localPort := localPort
  writePos := -1

/-- Both are received into a buffer they fit and reported to the application, and
neither exposes only payload. -/
theorem havePacket_exposes_other_bytes :
    (exampleStation.ether.receivePacket shortLengthDatagram =
        some (62, exampleStation.ether.accepted shortLengthDatagram) ∧
      UDPSocket.havePacket (exampleSocket 53)
        (exampleStation.ether.accepted shortLengthDatagram) = true ∧
      ¬ UDPSocket.ExposesPayload
        (exampleStation.ether.accepted shortLengthDatagram).buffer) ∧
    (exampleStation.ether.receivePacket longOffsetSegment =
        some (74, exampleStation.ether.accepted longOffsetSegment) ∧
      (TCPServer.havePacket (exampleSocket 80) 0
        (exampleStation.ether.accepted longOffsetSegment)).1 = true ∧
      ¬ TCPServer.ExposesPayload (TCPServer.havePacket (exampleSocket 80) 0
        (exampleStation.ether.accepted longOffsetSegment)).2.2.buffer) := by
  refine ⟨⟨?_, by decide +kernel, ?_⟩, ?_, by decide +kernel, ?_⟩
  · exact EtherSia.receivePacket_of_not_icmp ⟨by decide, by decide +kernel⟩
      (by decide +kernel)
  · rintro ⟨noUnderflow, _⟩
    exact absurd noUnderflow (by decide +kernel)
  · exact EtherSia.receivePacket_of_not_icmp ⟨by decide, by decide +kernel⟩
      (by decide +kernel)
  · rintro ⟨noUnderflow, _⟩
    exact absurd noUnderflow (by decide +kernel)

end EtherSiaStack
