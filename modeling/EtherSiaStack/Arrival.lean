/-
A packet sent by one node as another receives it.

`sendFrame` is given the packet in the buffer and `readFrame` at the other node
delivers its octets.  A valid packet of at most 600 bytes that is addressed to
the node and not its own is accepted, and lies in its buffer as it was sent.
-/

import EtherSiaStack.Reception

namespace EtherSiaStack

open ByteMemory IPv6Packet

/-- What `readFrame` delivers of the octets sent. -/
def Frame.delivered (octets : List UInt8) : Frame :=
  ⟨octets.take ETHERSIA_MAX_PACKET_SIZE, List.length_take_le _ _⟩

/-- The octets `send` hands over for the packet in the buffer. -/
def packetOctets (memory : Memory) : List UInt8 :=
  bytesAt memory 0 (length memory).toNat

theorem delivered_octets {memory : Memory} (fits : packetEnd memory ≤ 600) :
    (Frame.delivered (packetOctets memory)).octets =
      bytesAt memory 0 (packetEnd memory) := by
  change List.take 600 (packetOctets memory) = _
  unfold packetOctets
  rw [length_toNat (by omega)]
  apply List.take_of_length_le
  rw [bytesAt_length]
  exact fits

/-- Nothing of a packet that fits the buffer is lost. -/
theorem delivered_eq_packetOctets {memory : Memory} (fits : packetEnd memory ≤ 600) :
    (Frame.delivered (packetOctets memory)).octets = packetOctets memory := by
  rw [delivered_octets fits, packetOctets, length_toNat (by omega)]

/-- A valid packet that this node should take from the network. -/
structure MeantFor (memory : Memory) (ether : EtherSia) : Prop where
  valid : isValid memory = true
  fits : packetEnd memory ≤ 600
  addressed : (etherDestination memory).isIPv6Multicast = true ∨
    etherDestination memory = ether.localMac
  foreign : etherSource memory ≠ ether.localMac

theorem accepted_agree (ether : EtherSia) {memory : Memory}
    (fits : packetEnd memory ≤ 600) :
    Agree (ether.accepted (Frame.delivered (packetOctets memory))).buffer memory 0
      (packetEnd memory) := by
  have stored := agree_store_bytesAt memory ether.buffer 0 (packetEnd memory)
  rw [Nat.zero_add] at stored
  change Agree (store ether.buffer 0 (Frame.delivered (packetOctets memory)).octets)
    memory 0 (packetEnd memory)
  rw [delivered_octets fits]
  exact stored

theorem MeantFor.accepts {memory : Memory} {ether : EtherSia}
    (meant : MeantFor memory ether) :
    ether.Accepts (Frame.delivered (packetOctets memory)) := by
  have agree := accepted_agree ether meant.fits
  have headerInside : 54 ≤ packetEnd memory := payload_le_packetEnd memory
  constructor
  · intro empty
    have counted := congrArg List.length empty
    rw [delivered_octets meant.fits, bytesAt_length, List.length_nil] at counted
    omega
  · refine (EtherSia.acceptsPacket_iff _).mpr ⟨?_, ?_⟩
    · have same := isValid_congr (agree.symm.mono (by decide) le_rfl)
      exact same.symm.trans meant.valid
    · have sameDestination : etherDestination
          (ether.loadFrame (Frame.delivered (packetOctets memory))).buffer =
          etherDestination memory :=
        congrArg MACAddress.mk (agree.blockAt_eq (by decide) (by omega))
      have sameSource : etherSource
          (ether.loadFrame (Frame.delivered (packetOctets memory))).buffer =
          etherSource memory :=
        congrArg MACAddress.mk (agree.blockAt_eq (by decide) (by omega))
      have sameMac : (ether.loadFrame (Frame.delivered (packetOctets memory))).localMac =
          ether.localMac := rfl
      unfold EtherSia.checkEthernetAddresses
      rw [sameDestination, sameSource, sameMac, if_neg meant.foreign]
      rcases meant.addressed with group | us
      · rw [group]
        rfl
      · rw [us]
        simp

theorem delivered_length_ne_zero {memory : Memory} {ether : EtherSia}
    (meant : MeantFor memory ether) :
    UInt16.ofNat (Frame.delivered (packetOctets memory)).octets.length ≠ 0 :=
  (EtherSia.frame_length_ne_zero_iff _).mpr meant.accepts.1

end EtherSiaStack
