/-
The checksum of a UDP datagram.

Over IPv6 a UDP checksum of zero stands for none, and a receiver discards the datagram; a
sum that comes out as zero is to be sent as 0xFFFF.  `sendInternal` puts what
`calculateChecksum` returns into the header, so a datagram whose words add up to a
multiple of 65535 leaves with a checksum of zero.
-/

import EtherSiaStack.ChecksumLaws
import EtherSiaStack.Datagram
import EtherSiaStack.Retransmission

namespace EtherSiaStack

open ByteMemory IPv6Packet OnesComplement

namespace UDPSocket

/-- The checksum field of a UDP header in a frame, if the frame has it. -/
def checksumField (octets : List UInt8) : Option UInt16 :=
  match octets[60]?, octets[61]? with
  | some high, some low => some (be16 high low)
  | _, _ => none

/-- The checksum field of what is sent is not zero. -/
def SendsChecksum (before after : EtherSia) : Prop :=
  ∀ octets ∈ framesSent before after, ∀ field, checksumField octets = some field → field ≠ 0

/-- Where the datagram goes to. -/
def sentPort (socket : Socket) (isReply : Bool) (packet : Memory) : UInt16 :=
  if isReply then UDPHeader.sourcePort packet else socket.remotePort

/-- What the checksum of a datagram is computed over, with a field of zero in its place:
the pseudo-header, the UDP header and the data. -/
def checkedBytes (socket : Socket) (length : UInt16) (isReply : Bool) (packet : Memory) :
    List UInt8 :=
  let totalLen := UDP_HEADER_LEN + length
  bytesAt packet 22 32 ++ bytes32 totalLen.toUInt32 ++ [0, 0, 0, IP6_PROTO_UDP] ++
    (bytes16 socket.localPort ++ bytes16 (sentPort socket isReply packet) ++
      bytes16 totalLen ++ bytes16 0 ++ bytesAt packet payload length.toNat)

/-- The packet when its checksum is computed. -/
def clearedPacket (socket : Socket) (length : UInt16) (isReply : Bool) (packet : Memory) :
    Memory :=
  let totalLen := UDP_HEADER_LEN + length
  let packet := setProtocol packet IP6_PROTO_UDP
  let packet := setPayloadLength packet totalLen
  let packet := UDPHeader.setLength packet totalLen
  let packet :=
    if isReply then UDPHeader.setDestinationPort packet (UDPHeader.sourcePort packet)
    else UDPHeader.setDestinationPort packet socket.remotePort
  let packet := UDPHeader.setSourcePort packet socket.localPort
  store packet UDPHeader.checksumAddress (bytes16 0)

section Sending

variable (socket : Socket) (length : UInt16) (isReply : Bool) (packet : Memory)

theorem sendInternal_buffer (ether : EtherSia) :
    (sendInternal socket length isReply ether).buffer =
      store (clearedPacket socket length isReply ether.buffer) 60
        (bytes16 (calculateChecksum (clearedPacket socket length isReply ether.buffer))) :=
  rfl

theorem sendInternal_sent (ether : EtherSia) :
    (sendInternal socket length isReply ether).sent = ether.sent ++
      [bytesAt (sendInternal socket length isReply ether).buffer 0
        (IPv6Packet.length (sendInternal socket length isReply ether).buffer).toNat] :=
  rfl

theorem clearedPacket_agree {first last : Nat}
    (outside : last ≤ 18 ∨ 21 ≤ first ∧ last ≤ 54 ∨ 62 ≤ first) :
    Agree (clearedPacket socket length isReply packet) packet first last := by
  unfold clearedPacket
  have start : UDPHeader.checksumAddress = 60 := rfl
  cases isReply
  · repeat apply (agree_store _ _ (by simp; omega)).trans
    exact Agree.refl _ _ _
  · repeat apply (agree_store _ _ (by simp; omega)).trans
    exact Agree.refl _ _ _

theorem clearedPacket_payloadLength :
    IPv6Packet.payloadLength (clearedPacket socket length isReply packet) =
      UDP_HEADER_LEN + length := by
  cases isReply <;> simp [clearedPacket, UDPHeader.checksumAddress]

theorem clearedPacket_protocol :
    protocol (clearedPacket socket length isReply packet) = IP6_PROTO_UDP := by
  cases isReply <;> simp [clearedPacket, UDPHeader.checksumAddress]

theorem clearedPacket_header :
    bytesAt (clearedPacket socket length isReply packet) 54 8 =
      bytes16 socket.localPort ++ bytes16 (sentPort socket isReply packet) ++
        bytes16 (UDP_HEADER_LEN + length) ++ bytes16 0 := by
  have eight : (bytes16 socket.localPort ++ bytes16 (sentPort socket isReply packet) ++
        bytes16 (UDP_HEADER_LEN + length) ++ bytes16 0).length = 8 := rfl
  rw [← eight]
  change Spells _ _ _
  simp only [spells_append, spells_bytes16, List.length_append, bytes16_length]
  refine ⟨⟨⟨?_, ?_⟩, ?_⟩, ?_⟩
  · cases isReply <;> simp [clearedPacket, UDPHeader.checksumAddress]
  · cases isReply <;> simp [clearedPacket, sentPort, UDPHeader.checksumAddress]
  · cases isReply <;> simp [clearedPacket, UDPHeader.checksumAddress]
  · cases isReply <;> simp [clearedPacket, UDPHeader.checksumAddress]

/-! ### The computed checksum -/

/-- A length up to here leaves the frame its UDP header. -/
theorem totalLen_of_short (short : length.toNat ≤ 65473) :
    (UDP_HEADER_LEN + length).toNat = 8 + length.toNat := by
  rw [UInt16.toNat_add]
  exact Nat.mod_eq_of_lt (by change 8 + length.toNat < 65536; omega)

theorem checkedBytes_eq (short : length.toNat ≤ 65473) :
    pseudoHeader (clearedPacket socket length isReply packet) ++
        bytesAt (clearedPacket socket length isReply packet) IPv6Packet.payload
          (IPv6Packet.payloadLength (clearedPacket socket length isReply packet)).toNat =
      checkedBytes socket length isReply packet := by
  have addresses : bytesAt (clearedPacket socket length isReply packet) 22 16 ++
      bytesAt (clearedPacket socket length isReply packet) 38 16 = bytesAt packet 22 32 := by
    rw [← bytesAt_add _ 22 16 16]
    exact (clearedPacket_agree socket length isReply packet
      (Or.inr (Or.inl ⟨le_rfl, le_rfl⟩))).bytesAt_eq (by decide) le_rfl
  have data : bytesAt (clearedPacket socket length isReply packet) 62 length.toNat =
      bytesAt packet payload length.toNat :=
    (clearedPacket_agree socket length isReply packet
      (Or.inr (Or.inr le_rfl))).bytesAt_eq le_rfl le_rfl
  have start : IPv6Packet.payload = 54 := rfl
  unfold pseudoHeader checkedBytes
  rw [addresses, clearedPacket_payloadLength, clearedPacket_protocol,
    totalLen_of_short length short, start, bytesAt_add, clearedPacket_header, data]

/-- The computed checksum is zero exactly if the words add up to a multiple of 65535. -/
theorem computedChecksum_eq_zero_iff (short : length.toNat ≤ 65473) :
    calculateChecksum (clearedPacket socket length isReply packet) = 0 ↔
      65535 ∣ total (words (checkedBytes socket length isReply packet)) := by
  have totalLen := totalLen_of_short length short
  have seventeen : IP6_PROTO_UDP.toNat = 17 := rfl
  have noCarry : (IPv6Packet.payloadLength
      (clearedPacket socket length isReply packet)).toNat +
        (protocol (clearedPacket socket length isReply packet)).toNat < 65536 := by
    rw [clearedPacket_payloadLength, clearedPacket_protocol, totalLen]
    omega
  have nonzero : sum 0 (words (pseudoHeader (clearedPacket socket length isReply packet) ++
      bytesAt (clearedPacket socket length isReply packet) IPv6Packet.payload
        (IPv6Packet.payloadLength
          (clearedPacket socket length isReply packet)).toNat)) ≠ 0 := by
    intro zero
    have none := ((upperLayer_eq_zero_iff _).mp zero).1
    rw [clearedPacket_protocol] at none
    omega
  rw [calculateChecksum_of_noCarry noCarry, upperLayerChecksum, complement_eq_zero_iff,
    sum_eq_allOnes_iff nonzero, checkedBytes_eq socket length isReply packet short,
    UInt16.toNat_zero, Nat.zero_add]

/-! ### The frame -/

theorem sentLength_of_short (short : length.toNat ≤ 65473) (ether : EtherSia) :
    (IPv6Packet.length (sendInternal socket length isReply ether).buffer).toNat =
      62 + length.toNat := by
  have total := (sendInternal_fillsHeader socket length isReply ether).payloadLength
  have totalLen := totalLen_of_short length short
  have ends : packetEnd (sendInternal socket length isReply ether).buffer =
      54 + (8 + length.toNat) := by
    unfold packetEnd
    rw [total, totalLen]
    rfl
  rw [length_toNat (by omega), ends]
  omega

/-- Behind that, the length of the frame wraps and the frame ends before the field. -/
theorem sentLength_of_long (long : 65473 < length.toNat) (ether : EtherSia) :
    (IPv6Packet.length (sendInternal socket length isReply ether).buffer).toNat < 62 := by
  have total := (sendInternal_fillsHeader socket length isReply ether).payloadLength
  have bound := length.toNat_lt
  have header : UDP_HEADER_LEN.toNat = 8 := rfl
  have fixed : (14 + 40 : UInt16) = 54 := rfl
  have fiftyFour : (54 : UInt16).toNat = 54 := rfl
  unfold IPv6Packet.length
  rw [total, fixed, UInt16.toNat_add, UInt16.toNat_add, header, fiftyFour]
  omega

theorem checksumField_bytesAt (count : Nat) :
    checksumField (bytesAt packet 0 count) =
      if 62 ≤ count then some (u16At packet 60) else none := by
  unfold checksumField
  by_cases whole : 62 ≤ count
  · rw [if_pos whole, getElem?_bytesAt (by omega), getElem?_bytesAt (by omega), Nat.zero_add,
      Nat.zero_add]
    rfl
  · have cut : (bytesAt packet 0 count)[61]? = none :=
      List.getElem?_eq_none (by rw [bytesAt_length]; omega)
    rw [if_neg whole, cut]
    split
    · rename_i absurdity
      cases absurdity
    · rfl

/-- A datagram leaves with a checksum exactly if the words it is computed over do not add
up to a multiple of 65535; a frame that ends before the field has none. -/
theorem sendInternal_checksum_iff (ether : EtherSia) :
    SendsChecksum ether (sendInternal socket length isReply ether) ↔
      (length.toNat ≤ 65473 →
        ¬ 65535 ∣ total (words (checkedBytes socket length isReply ether.buffer))) := by
  have frames := framesSent_append (sendInternal_sent socket length isReply ether)
  have stored : u16At (sendInternal socket length isReply ether).buffer 60 =
      calculateChecksum (clearedPacket socket length isReply ether.buffer) := by
    rw [sendInternal_buffer, u16At_store_self]
  unfold SendsChecksum
  rw [frames, List.forall_mem_singleton, checksumField_bytesAt, stored]
  by_cases short : length.toNat ≤ 65473
  · rw [sentLength_of_short socket length isReply short ether, if_pos (by omega),
      ← computedChecksum_eq_zero_iff socket length isReply ether.buffer short]
    constructor
    · intro sends _
      exact sends _ rfl
    · rintro nonzero field isField
      cases isField
      exact nonzero short
  · have cut := sentLength_of_long socket length isReply (Nat.lt_of_not_le short) ether
    rw [if_neg (by omega)]
    exact iff_of_true (fun _ isField => nomatch isField) fun isShort => absurd isShort short

end Sending

/-- Two bytes that complete the sum of a datagram to a socket's peer. -/
def completedDatagram : EtherSia :=
  exampleClient.prepare false
    (exampleStation.ether.modifyPacket fun packet => store packet payload [0xb6, 0xae])

/-- Its checksum is zero. -/
theorem zero_checksum_is_sent :
    ¬ ∀ (socket : Socket) (length : UInt16) (isReply : Bool) (ether : EtherSia),
      SendsChecksum ether (sendInternal socket length isReply ether) := by
  intro always
  have sends := always exampleClient 2 false completedDatagram
  have isZero : ∃ octets ∈ framesSent completedDatagram
      (sendInternal exampleClient 2 false completedDatagram),
        checksumField octets = some 0 := by
    decide +kernel
  obtain ⟨octets, isFrame, isField⟩ := isZero
  exact sends octets isFrame 0 isField rfl

end UDPSocket

end EtherSiaStack
