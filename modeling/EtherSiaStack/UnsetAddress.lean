/-
The global address while there is none.

`_globalAddress` is zero until an advertisement or the application sets it.  Only
`prepareSend` asks whether it is; `isOurAddress` and `inOurSubnet` compare what they are
given with it as with any other address, so that the unspecified address, its
solicited-node group and its /64 count as the node's own.
-/

import EtherSiaStack.NeighbourResolution

namespace EtherSiaStack

open ByteMemory IPv6Packet

namespace IPv6Address

theorem isZero_iff (address : IPv6Address) : address.isZero = true ↔ address = zero := by
  unfold isZero
  rw [decide_eq_true_eq, IPv6Address.ext_iff, funext_iff]
  rfl

end IPv6Address

/-- The call sends one frame, a neighbour advertisement for the target. -/
structure Advertises (target : IPv6Address) (before after : EtherSia) : Prop where
  sent : after.sent = before.sent ++ [packetOctets after.buffer]
  isAdvertisement : ICMPv6Packet.type after.buffer = ICMP6_TYPE_NA
  ofTarget : ICMPv6Packet.target after.buffer = target

theorem not_advertises_of_silent {target : IPv6Address} {before after : EtherSia}
    (silent : after.sent = before.sent) : ¬ Advertises target before after := by
  intro advertises
  have longer := congrArg List.length (silent.symm.trans advertises.sent)
  rw [List.length_append, List.length_singleton] at longer
  omega

namespace EtherSia

/-! ### What is sent for a solicitation -/

/-- The target of the solicitation in the buffer is one of the node's addresses. -/
def TargetIsOurs (ether : EtherSia) : Prop :=
  ICMPv6Packet.target ether.buffer = ether.linkLocalAddress ∨
    ICMPv6Packet.target ether.buffer = ether.globalAddress

theorem targetIsOurs_iff (ether : EtherSia) :
    ether.TargetIsOurs ↔
      ether.isOurAddress (ICMPv6Packet.target ether.buffer) = some .linkLocal ∨
        ether.isOurAddress (ICMPv6Packet.target ether.buffer) = some .global := by
  refine ⟨icmp6NSReply_of_ours, fun ours => ?_⟩
  unfold isOurAddress at ours
  split_ifs at ours with isLinkLocal isGlobal isGroup
  · exact Or.inl isLinkLocal
  · exact Or.inr isGlobal
  · simp at ours
  · simp at ours

theorem icmp6NSReply_advertises {ether : EtherSia} (ours : ether.TargetIsOurs) :
    Advertises (ICMPv6Packet.target ether.buffer) ether ether.icmp6NSReply := by
  have isReply : ether.icmp6NSReply = ether.advertisement.icmp6PacketSend :=
    icmp6NSReply_of_target ((targetIsOurs_iff ether).mp ours)
  rw [isReply, ← ether.prepareReply_target]
  refine ⟨rfl, ?_, ?_⟩
  all_goals
    simp [advertisement, icmp6PacketSend, send, modifyPacket, storeChecksum,
      ICMPv6Packet.checksumAddress]

theorem icmp6NSReply_of_foreign {ether : EtherSia} (foreign : ¬ ether.TargetIsOurs) :
    ether.icmp6NSReply = ether :=
  if_pos (not_or.mp (mt (targetIsOurs_iff ether).mpr foreign))

theorem icmp6EchoReply_not_advertises (ether : EtherSia) (target : IPv6Address) :
    ¬ Advertises target ether ether.icmp6EchoReply := by
  intro advertises
  have isReply : ICMPv6Packet.type ether.icmp6EchoReply.buffer =
      ICMP6_TYPE_ECHO_REPLY := by
    simp [icmp6EchoReply, icmp6PacketSend, send, modifyPacket, storeChecksum,
      ICMPv6Packet.checksumAddress]
  exact absurd (isReply.symm.trans advertises.isAdvertisement) (by decide)

/-- The frame is accepted and is a solicitation for an address of the node. -/
structure ReceivesSolicitation (ether : EtherSia) (frame : Frame) (target : IPv6Address) :
    Prop where
  accepts : ether.Accepts frame
  holds : (ether.accepted frame).HoldsMessage ICMP6_TYPE_NS
  isTarget : ICMPv6Packet.target (ether.accepted frame).buffer = target
  ours : (ether.accepted frame).TargetIsOurs

/-- Receiving sends an advertisement for a target exactly when a solicitation for it is
received and it is one of the node's addresses. -/
theorem receivePacket_advertises_iff (ether : EtherSia) (frame : Frame)
    (target : IPv6Address) :
    (∃ len after, ether.receivePacket frame = some (len, after) ∧
        Advertises target ether after) ↔
      ether.ReceivesSolicitation frame target := by
  constructor
  · rintro ⟨len, after, returned, advertises⟩
    revert advertises
    refine receivePacket_cases returned (motive := fun after =>
      Advertises target ether after → ether.ReceivesSolicitation frame target)
      ?_ ?_ ?_ ?_ ?_
    · exact fun _ advertises => absurd advertises (not_advertises_of_silent rfl)
    · exact fun _ advertises => absurd advertises (not_advertises_of_silent rfl)
    · intro accepts holds advertises
      by_cases ours : (ether.accepted frame).TargetIsOurs
      · have isTarget := (icmp6NSReply_advertises ours).ofTarget.symm.trans
          advertises.ofTarget
        exact ⟨accepts, holds, isTarget, ours⟩
      · rw [icmp6NSReply_of_foreign ours] at advertises
        exact absurd advertises (not_advertises_of_silent rfl)
    · intro _ _ advertises
      have fromAccepted : Advertises target (ether.accepted frame)
          (ether.accepted frame).icmp6EchoReply :=
        ⟨advertises.sent, advertises.isAdvertisement, advertises.ofTarget⟩
      exact absurd fromAccepted (icmp6EchoReply_not_advertises _ target)
    · intro _ _ walked walks advertises
      obtain ⟨_, _, _, rfl⟩ := icmp6ProcessRA_configuresOnly walks
      exact absurd advertises (not_advertises_of_silent rfl)
  · rintro ⟨accepts, holds, rfl, ours⟩
    have advertises := icmp6NSReply_advertises ours
    exact ⟨0, _, receivePacket_solicited accepts holds, advertises.sent,
      advertises.isAdvertisement, advertises.ofTarget⟩

/-! ### What is taken for the node's own -/

/-- While there is no global address, none is recognised, no group is the node's but
all nodes and the group of its link-local address, and the unspecified address is not
advertised. -/
structure RecognisesNoGlobal (ether : EtherSia) (address : IPv6Address) (frame : Frame) :
    Prop where
  notOurs : ether.isOurAddress address ≠ some .global
  otherSubnet : ether.inOurSubnet address ≠ some .global
  groups : ether.isOurAddress address = some .multicast →
    address = IPv6Address.linkLocalAllNodes ∨
      address = ether.linkLocalAddress.setSolicitedNodeMulticastAddress
  notAdvertised : ∀ len after, ether.receivePacket frame = some (len, after) →
    ¬ Advertises IPv6Address.zero ether after

/-- The address lies outside the /64 of zeros and is not the solicited-node group of the
unspecified address, unless that is an address or a group of the node for another reason;
and the frame is not a solicitation for the unspecified address. -/
structure AvoidsUnset (ether : EtherSia) (address : IPv6Address) (frame : Frame) :
    Prop where
  nonzero : ∃ index : Fin 16, index.val < 8 ∧ address.octet index ≠ 0
  otherGroup : address = IPv6Address.zero.setSolicitedNodeMulticastAddress →
    address = ether.linkLocalAddress ∨
      address = ether.linkLocalAddress.setSolicitedNodeMulticastAddress
  otherTarget : ether.Accepts frame →
    (ether.accepted frame).HoldsMessage ICMP6_TYPE_NS →
      ICMPv6Packet.target (ether.accepted frame).buffer ≠ IPv6Address.zero

theorem inOurSubnet_eq_global_iff {ether : EtherSia}
    (unset : ether.globalAddress = IPv6Address.zero) (address : IPv6Address) :
    ether.inOurSubnet address = some .global ↔
      ¬ ∃ index : Fin 16, index.val < 8 ∧ address.octet index ≠ 0 := by
  have same : address.inSameSubnet ether.globalAddress = true ↔
      ¬ ∃ index : Fin 16, index.val < 8 ∧ address.octet index ≠ 0 := by
    rw [unset]
    unfold IPv6Address.inSameSubnet
    rw [decide_eq_true_eq]
    push Not
    exact Iff.rfl
  rw [← same]
  unfold inOurSubnet
  split_ifs with isLinkLocal isSame
  · refine iff_of_false (by simp) fun inside => (same.mp inside) ⟨0, by decide, ?_⟩
    have first : address.octet 0 = 0xfe := (of_decide_eq_true isLinkLocal).1
    rw [first]
    decide
  · exact iff_of_true rfl isSame
  · exact iff_of_false (by simp) isSame

theorem zero_of_isOurAddress_global {ether : EtherSia}
    (unset : ether.globalAddress = IPv6Address.zero) {address : IPv6Address}
    (isGlobal : ether.isOurAddress address = some .global) :
    address = IPv6Address.zero := by
  unfold isOurAddress at isGlobal
  by_cases same : address = ether.globalAddress
  · exact same.trans unset
  · rw [if_neg same] at isGlobal
    split_ifs at isGlobal <;> simp at isGlobal

theorem group_of_unset_iff {ether : EtherSia}
    (unset : ether.globalAddress = IPv6Address.zero) {address : IPv6Address}
    (notZero : address ≠ IPv6Address.zero) :
    (ether.isOurAddress address = some .multicast →
        address = IPv6Address.linkLocalAllNodes ∨
          address = ether.linkLocalAddress.setSolicitedNodeMulticastAddress) ↔
      (address = IPv6Address.zero.setSolicitedNodeMulticastAddress →
        address = ether.linkLocalAddress ∨
          address = ether.linkLocalAddress.setSolicitedNodeMulticastAddress) := by
  have isOur : ether.isOurAddress address =
      if address = ether.linkLocalAddress then some .linkLocal
      else if address = IPv6Address.linkLocalAllNodes ∨
          address = ether.linkLocalAddress.setSolicitedNodeMulticastAddress ∨
            address = IPv6Address.zero.setSolicitedNodeMulticastAddress then
        some .multicast
      else none := by
    unfold isOurAddress
    rw [unset, if_neg notZero]
    simp only [IPv6Address.isLinkLocalAllNodes,
      IPv6Address.isSolicitedNodeMulticastAddress, decide_eq_true_eq]
  have apart : IPv6Address.zero.setSolicitedNodeMulticastAddress ≠
      IPv6Address.linkLocalAllNodes := by decide
  rw [isOur]
  split_ifs with isLinkLocal isGroup
  · exact iff_of_true nofun fun _ => Or.inl isLinkLocal
  · rw [imp_iff_right rfl]
    constructor
    · rintro (allNodes | ofLinkLocal) ofZero
      · exact absurd (ofZero.symm.trans allNodes) apart
      · exact Or.inr ofLinkLocal
    · intro otherGroup
      rcases isGroup with allNodes | ofLinkLocal | ofZero
      · exact Or.inl allNodes
      · exact Or.inr ofLinkLocal
      · exact Or.inr ((otherGroup ofZero).resolve_left isLinkLocal)
  · exact iff_of_true nofun fun ofZero => absurd (Or.inr (Or.inr ofZero)) isGroup

/-- The unset address is told from an address exactly when neither the address nor the
frame comes near it. -/
theorem recognisesNoGlobal_iff {ether : EtherSia}
    (unset : ether.globalAddress.isZero = true) (address : IPv6Address) (frame : Frame) :
    ether.RecognisesNoGlobal address frame ↔ ether.AvoidsUnset address frame := by
  have isZero : ether.globalAddress = IPv6Address.zero :=
    (IPv6Address.isZero_iff _).mp unset
  have notZero (nonzero : ∃ index : Fin 16, index.val < 8 ∧ address.octet index ≠ 0) :
      address ≠ IPv6Address.zero := by
    rintro rfl
    obtain ⟨_, _, differs⟩ := nonzero
    exact differs rfl
  have subnet := inOurSubnet_eq_global_iff isZero address
  have solicits : (∀ len after, ether.receivePacket frame = some (len, after) →
        ¬ Advertises IPv6Address.zero ether after) ↔
      (ether.Accepts frame → (ether.accepted frame).HoldsMessage ICMP6_TYPE_NS →
        ICMPv6Packet.target (ether.accepted frame).buffer ≠ IPv6Address.zero) := by
    have advertised := receivePacket_advertises_iff ether frame IPv6Address.zero
    constructor
    · intro never accepts holds isTarget
      have ours : (ether.accepted frame).TargetIsOurs :=
        Or.inr (isTarget.trans isZero.symm)
      obtain ⟨len, after, returned, advertises⟩ :=
        advertised.mpr ⟨accepts, holds, isTarget, ours⟩
      exact never len after returned advertises
    · intro other len after returned advertises
      obtain ⟨accepts, holds, isTarget, _⟩ :=
        advertised.mp ⟨len, after, returned, advertises⟩
      exact other accepts holds isTarget
  constructor
  · rintro ⟨_, otherSubnet, groups, notAdvertised⟩
    have nonzero := not_not.mp (mt subnet.mpr otherSubnet)
    exact ⟨nonzero, (group_of_unset_iff isZero (notZero nonzero)).mp groups,
      solicits.mp notAdvertised⟩
  · rintro ⟨nonzero, otherGroup, otherTarget⟩
    refine ⟨fun isGlobal => ?_, ?_, ?_, solicits.mpr otherTarget⟩
    · exact notZero nonzero (zero_of_isOurAddress_global isZero isGlobal)
    · exact fun inside => subnet.mp inside nonzero
    · exact (group_of_unset_iff isZero (notZero nonzero)).mpr otherGroup

/-- A solicitation for the unspecified address. -/
def unspecifiedSolicitation : Frame :=
  exampleFrame 24 IP6_PROTO_ICMP6 [135, 0, 0x7d, 0xa8, 0, 0, 0, 0,
    0, 0, 0, 0, 0, 0, 0, 0, 0, 0, 0, 0, 0, 0, 0, 0] (by decide)

theorem unspecified_taken_for_global :
    exampleStation.ether.globalAddress.isZero = true ∧
      exampleStation.ether.isOurAddress IPv6Address.zero = some .global ∧
        exampleStation.ether.inOurSubnet IPv6Address.zero = some .global ∧
          exampleStation.ether.isOurAddress
              IPv6Address.zero.setSolicitedNodeMulticastAddress = some .multicast ∧
            ∃ len after, exampleStation.ether.receivePacket unspecifiedSolicitation =
                some (len, after) ∧
              Advertises IPv6Address.zero exampleStation.ether after := by
  refine ⟨by decide, by decide, by decide, by decide, ?_⟩
  rw [receivePacket_advertises_iff]
  exact ⟨⟨by decide, by decide +kernel⟩,
    ⟨by decide +kernel, by decide +kernel, by decide +kernel⟩, by decide +kernel,
    Or.inr (by decide +kernel)⟩

theorem recognisesNoGlobal_iff_unspecified :
    exampleStation.ether.RecognisesNoGlobal IPv6Address.zero unspecifiedSolicitation ↔
      exampleStation.ether.AvoidsUnset IPv6Address.zero unspecifiedSolicitation :=
  recognisesNoGlobal_iff (by decide) IPv6Address.zero unspecifiedSolicitation

end EtherSia

end EtherSiaStack
