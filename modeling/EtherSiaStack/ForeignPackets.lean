/-
Packets for other nodes.

`receivePacket` looks at the Ethernet destination alone, so a packet with a foreign
IPv6 destination reaches every socket and `rejectPacket`.  The ICMPv6 handling, UDP
sockets and TCP clients test the IPv6 destination; TCP servers do not, and
`rejectPacket` only keeps quiet when it is a multicast address.
-/

import EtherSiaStack.Acknowledgement
import EtherSiaStack.Rejection

namespace EtherSiaStack

open ByteMemory IPv6Packet TCPServer

namespace EtherSia

/-- The packet in the buffer goes to none of our addresses and groups. -/
def IsForeign (ether : EtherSia) : Prop :=
  ether.isOurAddress (destination ether.buffer) = none

theorem receivePacket_of_foreign {ether : EtherSia} {frame : Frame}
    (accepts : ether.Accepts frame) (foreign : (ether.accepted frame).IsForeign) :
    ether.receivePacket frame =
      some (UInt16.ofNat frame.octets.length, ether.accepted frame) := by
  have unhandled : (ether.accepted frame).icmp6ProcessPacket =
      some (false, ether.accepted frame) := if_pos foreign
  rw [receivePacket_of_accepts accepts]
  unfold dispatchReceived
  rw [unhandled, Option.map_some]
  exact ite_self _

/-- Of the packets received, `rejectPacket` leaves multicast and ICMPv6 unanswered. -/
theorem rejectPacket_silent_iff {ether : EtherSia}
    (received : ether.bufferContainsReceived = true) :
    ether.rejectPacket.sent = ether.sent ↔
      (destination ether.buffer).isMulticast = true ∨
        protocol ether.buffer = IP6_PROTO_ICMP6 := by
  have sends (octets : List UInt8) : ¬ ether.sent ++ [octets] = ether.sent :=
    fun same => List.cons_ne_nil _ _ (List.append_right_eq_self.mp same)
  have notEmpty : ¬ ether.bufferContainsReceived = false := by
    rw [received]
    exact nofun
  unfold rejectPacket
  rw [if_neg notEmpty]
  split_ifs with multicast isTcp isUdp isIcmp
  · exact iff_of_true rfl (Or.inl multicast)
  · refine iff_of_false (sends _) ?_
    rintro (isMulticast | isIcmp)
    · exact multicast isMulticast
    · exact absurd (isTcp.symm.trans isIcmp) (by decide)
  · refine iff_of_false (sends _) ?_
    rintro (isMulticast | isIcmp)
    · exact multicast isMulticast
    · exact absurd (isUdp.symm.trans isIcmp) (by decide)
  · exact iff_of_true rfl (Or.inr isIcmp)
  · exact iff_of_false (sends _) (not_or.mpr ⟨multicast, isIcmp⟩)

end EtherSia

/-- A server and its application send nothing exactly when the packet in the buffer is
not one the server answers. -/
theorem TCPServer.answer_silent_iff (socket : Socket) (randomNumber : UInt32)
    (reply : List UInt8) (ether : EtherSia) :
    (answer socket randomNumber reply ether).sent = ether.sent ↔
      ¬ Answered socket ether := by
  constructor
  · intro silent answered
    obtain ⟨sends, _⟩ := answer_of_answered answered randomNumber reply
    rw [silent] at sends
    exact List.cons_ne_nil _ _ (List.append_right_eq_self.mp sends.symm)
  · intro notAnswered
    unfold answer
    rw [havePacket_of_not_answered notAnswered]
    rfl

/-- Nothing is transmitted in answer to the frame, by any of the calls that see it. -/
structure Unanswered (ether : EtherSia) (frame : Frame) (server : Socket) : Prop where
  onReceive : ∀ len after, ether.receivePacket frame = some (len, after) →
    after.sent = ether.sent
  datagram : ∀ socket, UDPSocket.havePacket socket (ether.accepted frame) = false
  connection : ∀ client : TCPClient, ¬ client.OfConnection (ether.accepted frame) ∧
    ¬ client.TakenForOld (ether.accepted frame)
  segment : ∀ randomNumber reply,
    (answer server randomNumber reply (ether.accepted frame)).sent = ether.sent
  rejected : (ether.accepted frame).rejectPacket.sent = ether.sent

theorem IsForeign.not_linkLocal {ether : EtherSia} (foreign : ether.IsForeign) :
    destination ether.buffer ≠ ether.linkLocalAddress := by
  intro ours
  have type : ether.isOurAddress (destination ether.buffer) = some .linkLocal :=
    if_pos ours
  rw [EtherSia.IsForeign, type] at foreign
  cases foreign

theorem UDPSocket.havePacket_of_foreign (socket : Socket) {ether : EtherSia}
    (foreign : ether.IsForeign) : UDPSocket.havePacket socket ether = false := by
  have isNone : ether.isOurAddress (destination ether.buffer) = none := foreign
  unfold UDPSocket.havePacket
  dsimp only
  rw [isNone, if_pos rfl]
  split_ifs
  · rfl
  · rfl
  · rfl
  · rfl
  · rfl

/-- A frame for another node stays unanswered exactly when its packet is ICMPv6, or is
multicast and no segment that the server answers. -/
theorem foreign_unanswered_iff {ether : EtherSia} {frame : Frame}
    (accepts : ether.Accepts frame) (foreign : (ether.accepted frame).IsForeign)
    (server : Socket) :
    Unanswered ether frame server ↔
      protocol (ether.accepted frame).buffer = IP6_PROTO_ICMP6 ∨
        (destination (ether.accepted frame).buffer).isMulticast = true ∧
          ¬ Answered server (ether.accepted frame) := by
  have received : (ether.accepted frame).bufferContainsReceived = true := rfl
  constructor
  · intro unanswered
    have notAnswered : ¬ Answered server (ether.accepted frame) :=
      (answer_silent_iff server 0 [] _).mp (unanswered.segment 0 [])
    rcases (EtherSia.rejectPacket_silent_iff received).mp unanswered.rejected with
      multicast | isIcmp
    · exact Or.inr ⟨multicast, notAnswered⟩
    · exact Or.inl isIcmp
  · intro condition
    have notAnswered : ¬ Answered server (ether.accepted frame) := by
      rcases condition with isIcmp | ⟨_, notAnswered⟩
      · intro answered
        exact absurd (answered.isTcp.symm.trans isIcmp) (by decide)
      · exact notAnswered
    have silent : (destination (ether.accepted frame).buffer).isMulticast = true ∨
        protocol (ether.accepted frame).buffer = IP6_PROTO_ICMP6 := by
      rcases condition with isIcmp | ⟨multicast, _⟩
      · exact Or.inr isIcmp
      · exact Or.inl multicast
    constructor
    · intro len after returned
      rw [EtherSia.receivePacket_of_foreign accepts foreign] at returned
      cases returned
      rfl
    · exact fun socket => UDPSocket.havePacket_of_foreign socket foreign
    · exact fun client => ⟨fun ours => IsForeign.not_linkLocal foreign ours.toUs,
        fun old => IsForeign.not_linkLocal foreign old.toUs⟩
    · exact fun randomNumber reply =>
        (answer_silent_iff server randomNumber reply _).mpr notAnswered
    · exact (EtherSia.rejectPacket_silent_iff received).mpr silent

/-- A SYN to port 80 of the station's MAC address and of another node's address. -/
def exampleForeignSyn : Frame where
  octets := [2, 0, 0, 0, 0, 1, 2, 0, 0, 0, 0, 2, 0x86, 0xdd,
    0x60, 0, 0, 0, 0, 20, 6, 64,
    0xfe, 0x80, 0, 0, 0, 0, 0, 0, 0, 0, 0, 0xff, 0xfe, 0, 0, 2,
    0x20, 0x01, 0x0d, 0xb8, 0, 0, 0, 0, 0, 0, 0, 0, 0, 0, 0, 0x99,
    0x10, 0, 0, 80, 0, 0, 0, 1, 0, 0, 0, 0, 0x50, 0x02, 0x01, 0xea, 0x71, 0xd3, 0, 0]
  fits := by decide

theorem exampleForeignSyn_accepted : exampleStation.ether.Accepts exampleForeignSyn :=
  ⟨by decide, by decide +kernel⟩

theorem exampleForeignSyn_foreign :
    (exampleStation.ether.accepted exampleForeignSyn).IsForeign := by
  unfold EtherSia.IsForeign
  decide +kernel

/-- The server accepts the connection in the other node's place. -/
theorem foreign_syn_answered :
    exampleStation.ether.Accepts exampleForeignSyn ∧
      (exampleStation.ether.accepted exampleForeignSyn).IsForeign ∧
        ¬ Unanswered exampleStation.ether exampleForeignSyn exampleServer := by
  have answered : Answered exampleServer
      (exampleStation.ether.accepted exampleForeignSyn) :=
    { received := rfl
      isTcp := by decide +kernel
      port := by decide +kernel
      noReset := by decide +kernel
      answers := Or.inr (Or.inl (by decide +kernel)) }
  refine ⟨exampleForeignSyn_accepted, exampleForeignSyn_foreign, fun unanswered => ?_⟩
  exact (answer_silent_iff exampleServer 0 [] _).mp (unanswered.segment 0 []) answered

theorem foreign_unanswered_iff_syn :
    Unanswered exampleStation.ether exampleForeignSyn exampleServer ↔
      protocol (exampleStation.ether.accepted exampleForeignSyn).buffer =
          IP6_PROTO_ICMP6 ∨
        (destination
            (exampleStation.ether.accepted exampleForeignSyn).buffer).isMulticast = true ∧
          ¬ Answered exampleServer (exampleStation.ether.accepted exampleForeignSyn) :=
  foreign_unanswered_iff exampleForeignSyn_accepted exampleForeignSyn_foreign exampleServer

end EtherSiaStack
