/-
A solicitation, the advertisement that answers it, and what discovery makes of it.

The solicitation goes to the solicited-node group of the target, which the Ethernet
filter of the target's node lets through.  The node turns it into the
advertisement in place, so the target field answers for itself, and puts its MAC
address where the walk over the options looks first.
-/

import EtherSiaStack.NeighbourDiscovery
import EtherSiaStack.Datagram

namespace EtherSiaStack

open ByteMemory IPv6Packet FuelLoop

/-- A Neighbour Solicitation for `target`. -/
structure CarriesSolicitation (packet : Memory) (sender : MACAddress)
    (target : IPv6Address) : Prop where
  valid : isValid packet = true
  payloadLength : IPv6Packet.payloadLength packet = 24
  etherSource : etherSource packet = sender
  etherDestination : etherDestination packet =
    MACAddress.setIPv6Multicast target.setSolicitedNodeMulticastAddress
  destination : destination packet = target.setSolicitedNodeMulticastAddress
  isIcmp : protocol packet = IP6_PROTO_ICMP6
  isSolicitation : ICMPv6Packet.type packet = ICMP6_TYPE_NS
  target : ICMPv6Packet.target packet = target

/-- A Neighbour Advertisement of `target`, with the sender's MAC address in its
option. -/
structure CarriesNeighbour (packet : Memory) (sender receiver : MACAddress)
    (target : IPv6Address) : Prop where
  valid : isValid packet = true
  payloadLength : IPv6Packet.payloadLength packet = 32
  etherSource : etherSource packet = sender
  etherDestination : etherDestination packet = receiver
  isIcmp : protocol packet = IP6_PROTO_ICMP6
  isNeighbour : ICMPv6Packet.type packet = ICMP6_TYPE_NA
  target : ICMPv6Packet.target packet = target
  option : packet ICMPv6Packet.naOptions = ICMP6_OPTION_TARGET_LINK_ADDRESS
  optionMac : MACAddress.mk (blockAt packet (ICMPv6Packet.naOptions + 2)) = sender

theorem CarriesSolicitation.packetEnd_eq {packet : Memory} {sender : MACAddress}
    {target : IPv6Address} (carries : CarriesSolicitation packet sender target) :
    packetEnd packet = 78 := by
  unfold packetEnd
  rw [carries.payloadLength]
  rfl

theorem CarriesNeighbour.packetEnd_eq {packet : Memory} {sender receiver : MACAddress}
    {target : IPv6Address} (carries : CarriesNeighbour packet sender receiver target) :
    packetEnd packet = 86 := by
  unfold packetEnd
  rw [carries.payloadLength]
  rfl

theorem CarriesSolicitation.congr {left right : Memory} {sender : MACAddress}
    {target : IPv6Address} (carries : CarriesSolicitation left sender target)
    (agree : Agree right left 0 (packetEnd left)) :
    CarriesSolicitation right sender target := by
  have ends := carries.packetEnd_eq
  constructor
  · rw [← isValid_congr (agree.symm.mono (by decide) le_rfl)]
    exact carries.valid
  · exact (agree.u16At_eq (by decide) (by omega)).trans carries.payloadLength
  · exact (congrArg MACAddress.mk (agree.blockAt_eq (by decide) (by omega))).trans
      carries.etherSource
  · exact (congrArg MACAddress.mk (agree.blockAt_eq (by decide) (by omega))).trans
      carries.etherDestination
  · exact (congrArg IPv6Address.mk (agree.blockAt_eq (by decide) (by omega))).trans
      carries.destination
  · exact (agree 20 (by decide) (by omega)).trans carries.isIcmp
  · exact (agree 54 (by decide) (by omega)).trans carries.isSolicitation
  · exact (congrArg IPv6Address.mk (agree.blockAt_eq (by decide) (by omega))).trans
      carries.target

theorem CarriesNeighbour.congr {left right : Memory} {sender receiver : MACAddress}
    {target : IPv6Address} (carries : CarriesNeighbour left sender receiver target)
    (agree : Agree right left 0 (packetEnd left)) :
    CarriesNeighbour right sender receiver target := by
  have ends := carries.packetEnd_eq
  have start : ICMPv6Packet.naOptions = 78 := rfl
  constructor
  · rw [← isValid_congr (agree.symm.mono (by decide) le_rfl)]
    exact carries.valid
  · exact (agree.u16At_eq (by decide) (by omega)).trans carries.payloadLength
  · exact (congrArg MACAddress.mk (agree.blockAt_eq (by decide) (by omega))).trans
      carries.etherSource
  · exact (congrArg MACAddress.mk (agree.blockAt_eq (by decide) (by omega))).trans
      carries.etherDestination
  · exact (agree 20 (by decide) (by omega)).trans carries.isIcmp
  · exact (agree 54 (by decide) (by omega)).trans carries.isNeighbour
  · exact (congrArg IPv6Address.mk (agree.blockAt_eq (by decide) (by omega))).trans
      carries.target
  · exact (agree _ (by omega) (by omega)).trans carries.option
  · exact (congrArg MACAddress.mk (agree.blockAt_eq (by decide) (by omega))).trans
      carries.optionMac

namespace EtherSia

/-! ### The two messages -/

/-- `prepareSend` keeps both destination addresses. -/
theorem prepareSend_agree (ether : EtherSia) {first last : Nat}
    (outside : last ≤ 6 ∨ 38 ≤ first) :
    Agree ether.prepareSend.buffer ether.buffer first last := by
  unfold prepareSend
  apply (agree_store _ _ (by simp; omega)).trans
  split_ifs
  · repeat apply (agree_store _ _ (by simp; omega)).trans
    exact Agree.refl _ _ _
  · repeat apply (agree_store _ _ (by simp; omega)).trans
    exact Agree.refl _ _ _

theorem icmp6SendNS_carries (ether : EtherSia) (target source : IPv6Address) :
    CarriesSolicitation (ether.icmp6SendNS target source).buffer ether.localMac target := by
  have transmits := ether.icmp6SendNS_transmits target source
  let addressed := ether.modifyPacket fun packet =>
    let packet := setDestination packet target.setSolicitedNodeMulticastAddress
    setEtherDestination packet (MACAddress.setIPv6Multicast (destination packet))
  have keeps {first last : Nat} (outside : last ≤ 6 ∨ 38 ≤ first ∧ last ≤ 54) :
      Agree (ether.icmp6SendNS target source).buffer addressed.buffer first last := by
    have built : Agree (ether.icmp6SendNS target source).buffer
        addressed.prepareSend.buffer first last := by
      unfold icmp6SendNS icmp6PacketSend
      apply (storeChecksum_agree _ (by simp [ICMPv6Packet.checksumAddress]; omega)).trans
      iterate 8 apply (agree_store _ _ (by simp; omega)).trans
      exact Agree.refl _ _ _
    exact built.trans (addressed.prepareSend_agree (by omega))
  have toGroup : etherDestination addressed.buffer =
      MACAddress.setIPv6Multicast target.setSolicitedNodeMulticastAddress := by
    simp [addressed, modifyPacket]
  have isGroup : destination addressed.buffer =
      target.setSolicitedNodeMulticastAddress := by
    simp [addressed, modifyPacket]
  refine ⟨transmits.valid, ?_, transmits.source, ?_, ?_, ?_, ?_, ?_⟩
  · simp [icmp6SendNS, icmp6PacketSend, send, modifyPacket, storeChecksum,
      ICMPv6Packet.checksumAddress]
  · exact (congrArg MACAddress.mk ((keeps (by decide)).blockAt_eq le_rfl le_rfl)).trans
      toGroup
  · exact (congrArg IPv6Address.mk ((keeps (by decide)).blockAt_eq le_rfl le_rfl)).trans
      isGroup
  · simp [icmp6SendNS, icmp6PacketSend, send, modifyPacket, storeChecksum,
      ICMPv6Packet.checksumAddress]
  · simp [icmp6SendNS, icmp6PacketSend, send, modifyPacket, storeChecksum,
      ICMPv6Packet.checksumAddress]
  · simp [icmp6SendNS, icmp6PacketSend, send, modifyPacket, storeChecksum,
      ICMPv6Packet.checksumAddress]

theorem icmp6NSReply_of_ours {ether : EtherSia}
    (ours : ICMPv6Packet.target ether.buffer = ether.linkLocalAddress ∨
      ICMPv6Packet.target ether.buffer = ether.globalAddress) :
    ether.isOurAddress (ICMPv6Packet.target ether.buffer) = some .linkLocal ∨
      ether.isOurAddress (ICMPv6Packet.target ether.buffer) = some .global := by
  unfold isOurAddress
  by_cases isLinkLocal : ICMPv6Packet.target ether.buffer = ether.linkLocalAddress
  · exact Or.inl (if_pos isLinkLocal)
  · rw [if_neg isLinkLocal]
    exact Or.inr (if_pos (ours.resolve_left isLinkLocal))

/-- The advertisement a reply is, before its checksum. -/
def advertisement (ether : EtherSia) : EtherSia :=
  ether.prepareReply.modifyPacket fun packet =>
    let packet := setHopLimit packet 255
    let packet := setPayloadLength packet 32
    let packet := ICMPv6Packet.setType packet ICMP6_TYPE_NA
    let packet := ICMPv6Packet.setCode packet 0
    let packet := store packet 58 [ICMP6_NA_FLAG_S]
    let packet := store packet 59 [0, 0, 0]
    let packet := store packet 78 [ICMP6_OPTION_TARGET_LINK_ADDRESS]
    let packet := store packet 79 [1]
    store packet 80 (blockBytes ether.localMac.octet)

theorem icmp6NSReply_of_target {ether : EtherSia}
    (ours : ether.isOurAddress (ICMPv6Packet.target ether.buffer) = some .linkLocal ∨
      ether.isOurAddress (ICMPv6Packet.target ether.buffer) = some .global) :
    ether.icmp6NSReply = ether.advertisement.icmp6PacketSend :=
  if_neg fun ⟨notLinkLocal, notGlobal⟩ => ours.elim notLinkLocal notGlobal

/-- The reply is made over the solicitation, and its target stays where it is. -/
theorem prepareReply_target (ether : EtherSia) :
    ICMPv6Packet.target ether.prepareReply.buffer = ICMPv6Packet.target ether.buffer := by
  have keepsTarget : Agree ether.prepareReply.buffer ether.buffer 62 78 :=
    (prepareReply_payload ether 78).mono (by decide) le_rfl
  exact congrArg IPv6Address.mk (keepsTarget.blockAt_eq le_rfl le_rfl)

theorem icmp6NSReply_carries {ether : EtherSia} {sender : MACAddress}
    {target : IPv6Address} (carries : CarriesSolicitation ether.buffer sender target)
    (ours : target = ether.linkLocalAddress ∨ target = ether.globalAddress) :
    CarriesNeighbour ether.icmp6NSReply.buffer ether.localMac sender target ∧
      Transmits ether ether.icmp6NSReply := by
  have isReply : ether.icmp6NSReply = ether.advertisement.icmp6PacketSend := by
    rw [← carries.target] at ours
    exact icmp6NSReply_of_target (icmp6NSReply_of_ours ours)
  have header := headerValid_of_isValid carries.valid
  have sent : ether.icmp6NSReply ≠ ether := fun same => by
    have longer := congrArg (fun ether => ether.sent.length) (isReply.symm.trans same)
    change (ether.sent ++ [_]).length = ether.sent.length at longer
    rw [List.length_append, List.length_singleton] at longer
    omega
  have transmits := (icmp6NSReply_transmits header).resolve_left sent
  refine ⟨?_, transmits⟩
  have final : ether.icmp6NSReply.buffer =
      storeChecksum (setProtocol ether.advertisement.buffer IP6_PROTO_ICMP6)
        ICMPv6Packet.checksumAddress := by
    rw [isReply]
    rfl
  have sameTarget : ICMPv6Packet.target ether.prepareReply.buffer = target :=
    ether.prepareReply_target.trans carries.target
  have toSender : etherDestination ether.prepareReply.buffer = sender := by
    rw [← carries.etherSource]
    simp [prepareReply]
  refine ⟨transmits.valid, ?_, transmits.source, ?_, ?_, ?_, ?_, ?_, ?_⟩
  · rw [final]
    simp [advertisement, modifyPacket, storeChecksum, ICMPv6Packet.checksumAddress]
  · rw [final, ← toSender]
    simp [advertisement, modifyPacket, storeChecksum, ICMPv6Packet.checksumAddress]
  · rw [final]
    simp [storeChecksum, ICMPv6Packet.checksumAddress]
  · rw [final]
    simp [advertisement, modifyPacket, storeChecksum, ICMPv6Packet.checksumAddress]
  · rw [final, ← sameTarget]
    simp [advertisement, modifyPacket, storeChecksum, ICMPv6Packet.checksumAddress]
  · rw [final]
    simp [advertisement, modifyPacket, storeChecksum, ICMPv6Packet.checksumAddress,
      ICMPv6Packet.naOptions]
  · rw [final]
    simp [advertisement, modifyPacket, storeChecksum, ICMPv6Packet.checksumAddress,
      ICMPv6Packet.naOptions]

/-! ### The target's node -/

/-- The solicited-node group of a node's address is one of its groups. -/
theorem isOurAddress_solicited (ether : EtherSia) {target : IPv6Address}
    (ours : target = ether.linkLocalAddress ∨ target = ether.globalAddress) :
    ether.isOurAddress target.setSolicitedNodeMulticastAddress ≠ none := by
  have group : target.setSolicitedNodeMulticastAddress.isSolicitedNodeMulticastAddress
      target = true := decide_eq_true rfl
  have inGroup :
      target.setSolicitedNodeMulticastAddress.isLinkLocalAllNodes = true ∨
        target.setSolicitedNodeMulticastAddress.isSolicitedNodeMulticastAddress
          ether.linkLocalAddress = true ∨
        target.setSolicitedNodeMulticastAddress.isSolicitedNodeMulticastAddress
          ether.globalAddress = true := by
    rcases ours with isLinkLocal | isGlobal
    · rw [isLinkLocal] at group ⊢
      exact Or.inr (Or.inl group)
    · rw [isGlobal] at group ⊢
      exact Or.inr (Or.inr group)
  unfold isOurAddress
  rw [if_pos inGroup]
  split_ifs
  · simp
  · simp
  · simp

theorem receivePacket_of_solicitation (node : EtherSia) {packet : Memory}
    {sender : MACAddress} {target : IPv6Address}
    (carries : CarriesSolicitation packet sender target)
    (foreign : sender ≠ node.localMac)
    (ours : target = node.linkLocalAddress ∨ target = node.globalAddress) :
    let frame := Frame.delivered (packetOctets packet)
    node.Accepts frame ∧
      ∃ answered, node.receivePacket frame = some (0, answered) ∧
        answered.sent = node.sent ++ [packetOctets answered.buffer] ∧
          CarriesNeighbour answered.buffer node.localMac sender target := by
  have ends := carries.packetEnd_eq
  have meant : MeantFor packet node :=
    { valid := carries.valid
      fits := by omega
      addressed := by
        rw [carries.etherDestination]
        exact Or.inl rfl
      foreign := by
        rw [carries.etherSource]
        exact foreign }
  have arrived := carries.congr (accepted_agree node meant.fits)
  let accepted := node.accepted (Frame.delivered (packetOctets packet))
  have isAccepted : accepted.buffer =
    (node.accepted (Frame.delivered (packetOctets packet))).buffer := rfl
  have answers : CarriesNeighbour accepted.icmp6NSReply.buffer accepted.localMac _ _ ∧
      Transmits accepted accepted.icmp6NSReply := icmp6NSReply_carries arrived ours
  obtain ⟨answer, transmits⟩ := answers
  refine ⟨meant.accepts, accepted.icmp6NSReply, ?_, transmits.sent, answer⟩
  have forGroup : accepted.isOurAddress (destination accepted.buffer) ≠ none := by
    rw [arrived.destination]
    exact isOurAddress_solicited accepted ours
  have processed : accepted.icmp6ProcessPacket = some (true, accepted.icmp6NSReply) := by
    unfold icmp6ProcessPacket
    rw [if_neg forGroup]
    exact if_pos arrived.isSolicitation
  rw [receivePacket_of_accepts meant.accepts]
  unfold dispatchReceived
  rw [if_pos arrived.isIcmp, processed]
  rfl

/-! ### The node that asked -/

theorem icmp6SendNS_localMac (ether : EtherSia) (target source : IPv6Address) :
    (ether.icmp6SendNS target source).localMac = ether.localMac :=
  (ether.icmp6SendNS_transmits target source).localMac

theorem receivePacket_localMac {ether after : EtherSia} {frame : Frame} {len : UInt16}
    (returned : ether.receivePacket frame = some (len, after)) :
    after.localMac = ether.localMac := by
  refine receivePacket_cases returned (motive := fun later =>
    later.localMac = ether.localMac) ?_ ?_ ?_ ?_ ?_
  · exact fun _ => rfl
  · exact fun _ => rfl
  · intro _ _
    unfold icmp6NSReply icmp6PacketSend
    dsimp only
    split
    · rfl
    · rfl
  · intro _ _
    have kept : (ether.accepted frame).icmp6EchoReply.localMac =
        (ether.accepted frame).localMac := rfl
    exact kept
  · intro _ _ walked walks
    obtain ⟨_, _, _, rfl⟩ := icmp6ProcessRA_configuresOnly walks
    rfl

theorem solicitWhenDue_localMac (address : IPv6Address) (pass : DiscoveryPass)
    (discovery : Discovery) :
    (solicitWhenDue address pass discovery).ether.localMac = discovery.ether.localMac := by
  unfold solicitWhenDue
  split
  · exact icmp6SendNS_localMac _ _ _
  · rfl

theorem discoverPass_localMac {address : IPv6Address} {attempts : UInt8}
    {passes : Nat → DiscoveryPass} {discovery next : Discovery}
    (continues : discoverPass address attempts passes discovery = .inl next) :
    next.ether.localMac = discovery.ether.localMac := by
  rw [← solicitWhenDue_localMac address (passes discovery.passNumber) discovery]
  unfold discoverPass at continues
  dsimp only at continues
  generalize solicitWhenDue address (passes discovery.passNumber) discovery = solicited
    at continues ⊢
  split_ifs at continues
  split at continues
  · cases continues
  · rename_i len after received
    have kept := receivePacket_localMac received
    split_ifs at continues
    · split at continues
      · cases continues
      · cases continues
      · rw [← Sum.inl.inj continues]
        exact kept
    · rw [← Sum.inl.inj continues]
      exact kept

/-- Discovery never changes the MAC address of its interface. -/
theorem discovery_localMac {address : IPv6Address} {attempts : UInt8}
    {passes : Nat → DiscoveryPass} {start discovery : Discovery}
    (reached : Reaches (discoverPass address attempts passes) start discovery) :
    discovery.ether.localMac = start.ether.localMac := by
  induction reached with
  | start => rfl
  | next _ continues ih => exact (discoverPass_localMac continues).trans ih

/-- The advertisement's option is the first the walk looks at. -/
theorem icmp6ProcessNA_of_neighbour {ether : EtherSia} {sender receiver : MACAddress}
    {target : IPv6Address}
    (carries : CarriesNeighbour ether.buffer sender receiver target) :
    ether.icmp6ProcessNA target = some (some sender) := by
  have remaining : ether.naWalk.remaining = 8 := by
    change optionBytes ether.buffer 24 = 8
    unfold optionBytes
    rw [carries.payloadLength]
    rfl
  have positive : ether.naWalk.remaining > 0 := by
    rw [remaining]
    decide
  have leaves : naPass ether.naWalk = .inr sender := by
    unfold naPass
    rw [if_pos positive]
    rw [← carries.optionMac]
    exact if_pos carries.option
  unfold icmp6ProcessNA
  rw [if_neg (not_not.mpr carries.target)]
  exact congrArg (Option.map some) (run_leave leaves 32767)

theorem discoverPass_of_neighbour {packet : Memory} {sender receiver : MACAddress}
    {target : IPv6Address} {attempts : UInt8} {passes : Nat → DiscoveryPass}
    {discovery : Discovery} (carries : CarriesNeighbour packet sender receiver target)
    (toUs : receiver = discovery.ether.localMac)
    (foreign : sender ≠ discovery.ether.localMac)
    (going : discovery.count < attempts)
    (delivered : (passes discovery.passNumber).frame =
      Frame.delivered (packetOctets packet)) :
    ∃ after, discoverPass target attempts passes discovery =
      .inr (some (some sender, after)) := by
  let solicited := solicitWhenDue target (passes discovery.passNumber) discovery
  have sameMac : solicited.ether.localMac = discovery.ether.localMac :=
    solicitWhenDue_localMac _ _ _
  have ends := carries.packetEnd_eq
  have meant : MeantFor packet solicited.ether :=
    { valid := carries.valid
      fits := by omega
      addressed := by
        rw [carries.etherDestination, sameMac]
        exact Or.inr toUs
      foreign := by
        rw [carries.etherSource, sameMac]
        exact foreign }
  have arrived := carries.congr (accepted_agree solicited.ether meant.fits)
  have received := receivePacket_neighbour meant.accepts arrived.isIcmp arrived.isNeighbour
  refine ⟨solicited.ether.accepted (Frame.delivered (packetOctets packet)), ?_⟩
  unfold discoverPass
  rw [if_pos going]
  dsimp only
  rw [delivered, received]
  dsimp only
  rw [if_pos ⟨delivered_length_ne_zero meant, arrived.isIcmp, arrived.isNeighbour⟩,
    icmp6ProcessNA_of_neighbour arrived]

end EtherSia

/-! ### Two nodes -/

open EtherSia

/-- Each solicitation of a call of `discoverNeighbour` is accepted by the node, in
whatever state it is, and answered with one advertisement; once a pass of the call is
delivered that advertisement the call returns the node's MAC address. -/
def ResolvesNeighbour (asker node : EtherSia) (target : IPv6Address) (attempts : UInt8)
    (now : UInt32) (passes : Nat → DiscoveryPass) : Prop :=
  ∀ soliciting, Reaches (discoverPass target attempts passes)
      (discoveryStart asker now) soliciting →
    soliciting.count < attempts →
    hasElapsed (passes soliciting.passNumber).testTime
      soliciting.nextNeighbourSolicitation 0 = true →
    ∃ solicitation : Frame,
      (solicitWhenDue target (passes soliciting.passNumber) soliciting).ether.sent =
        soliciting.ether.sent ++ [solicitation.octets] ∧
      ∀ receiver, SameNodeAddresses node receiver →
        receiver.Accepts solicitation ∧
        ∃ answered, receiver.receivePacket solicitation = some (0, answered) ∧
        ∃ advertisement : Frame,
          answered.sent = receiver.sent ++ [advertisement.octets] ∧
          ICMPv6Packet.type (ofOctets advertisement.octets) = ICMP6_TYPE_NA ∧
          ∀ waiting, Reaches (discoverPass target attempts passes)
              (discoveryStart asker now) waiting →
            waiting.count < attempts →
            (passes waiting.passNumber).frame = advertisement →
            ∃ after, asker.DiscoverNeighbour target attempts now passes
              (some node.localMac, after)

/-- A node resolves the link-local and the global address of another. -/
theorem resolves_neighbour (asker node : EtherSia) (target : IPv6Address)
    (attempts : UInt8) (now : UInt32) (passes : Nat → DiscoveryPass)
    (differentMac : asker.localMac ≠ node.localMac)
    (isTarget : target = node.linkLocalAddress ∨ target = node.globalAddress) :
    ResolvesNeighbour asker node target attempts now passes := by
  intro soliciting reached _going due
  have askerMac : soliciting.ether.localMac = asker.localMac := discovery_localMac reached
  let solicited := soliciting.ether.icmp6SendNS target
    (soliciting.ether.discoverySource target)
  have carries : CarriesSolicitation solicited.buffer soliciting.ether.localMac target :=
    soliciting.ether.icmp6SendNS_carries target _
  have transmits : Transmits soliciting.ether solicited :=
    soliciting.ether.icmp6SendNS_transmits target _
  have solicitationFits : packetEnd solicited.buffer ≤ 600 := by
    rw [carries.packetEnd_eq]
    decide
  refine ⟨Frame.delivered (packetOctets solicited.buffer), ?_, fun receiver same => ?_⟩
  · rw [delivered_eq_packetOctets solicitationFits]
    unfold solicitWhenDue
    rw [if_pos due]
    exact transmits.sent
  · have foreign : soliciting.ether.localMac ≠ receiver.localMac := by
      rw [askerMac, same.localMac]
      exact differentMac
    have ours : target = receiver.linkLocalAddress ∨ target = receiver.globalAddress := by
      rw [same.linkLocalAddress, same.globalAddress]
      exact isTarget
    obtain ⟨accepts, answered, answers, sent, neighbour⟩ :=
      receivePacket_of_solicitation receiver carries foreign ours
    have ends := neighbour.packetEnd_eq
    have fits : packetEnd answered.buffer ≤ 600 := by
      rw [ends]
      decide
    refine ⟨accepts, answered, answers, Frame.delivered (packetOctets answered.buffer),
      ?_, ?_, fun waiting waits going delivered => ?_⟩
    · rw [delivered_eq_packetOctets fits]
      exact sent
    · rw [delivered_octets fits]
      have agree := ofOctets_bytesAt answered.buffer (packetEnd answered.buffer)
      exact (agree 54 (by decide) (by omega)).trans neighbour.isNeighbour
    · have waiterMac : waiting.ether.localMac = asker.localMac := discovery_localMac waits
      obtain ⟨after, leaves⟩ := discoverPass_of_neighbour neighbour
        (askerMac.trans waiterMac.symm) (by
          rw [waiterMac, same.localMac]
          exact differentMac.symm) going delivered
      refine ⟨after, ?_⟩
      rw [← same.localMac]
      exact returns_iff_reaches.mpr ⟨waiting, waits, leaves⟩

theorem resolves_neighbour_link_local :
    ResolvesNeighbour (EtherSia.configured (exampleMac 1) fun _ => 0)
      (EtherSia.configured (exampleMac 2) fun _ => 0)
      (IPv6Address.linkLocalOf (exampleMac 2)) 3 0
      fun number => ⟨UInt32.ofNat number, UInt32.ofNat number, ⟨[], by decide⟩⟩ := by
  apply resolves_neighbour
  · decide
  · exact Or.inl rfl

end EtherSiaStack
