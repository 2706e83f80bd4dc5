/-
What any frame can change of the configuration.

Over arbitrary bytes the walk over an advertisement takes the global address
from zero to an announced prefix, once, and no other call sets it.
-/

import EtherSiaStack.RouterAdvertisement

namespace EtherSiaStack

open ByteMemory IPv6Packet FuelLoop Trace

namespace EtherSia

/-- A Prefix Information option at `ptr` with prefix length 64 and both flags. -/
def PrefixInformationAt (memory : Memory) (ptr : Nat) : Prop :=
  memory ptr = ICMP6_OPTION_PREFIX_INFORMATION ∧ memory (ptr + 2) = 64 ∧
    memory (ptr + 3) &&& 0xC0 = 0xC0

/-- One of the options of the advertisement announces the prefix. -/
def Announces (memory : Memory) (first : Nat) (remaining : Int16)
    (announced : IPv6Address) : Prop :=
  ∃ number, (optionStart memory first number : Int) < first + remaining.toInt ∧
    PrefixInformationAt memory (optionStart memory first number) ∧
      announced = ⟨blockAt memory (optionStart memory first number + 16)⟩

theorem raOption_globalAddress (ether : EtherSia) (ptr : Nat) :
    (ether.raOption ptr).globalAddress = ether.globalAddress ∨
      ether.globalAddress.isZero = true ∧ PrefixInformationAt ether.buffer ptr ∧
        (ether.raOption ptr).globalAddress =
          (IPv6Address.mk (blockAt ether.buffer (ptr + 16))).setEui64 ether.localMac := by
  unfold raOption
  split_ifs with isSource isPrefix isResolver
  · exact Or.inl rfl
  · unfold icmp6ProcessPrefix
    split_ifs with noFlags otherLength unset
    · exact Or.inl rfl
    · exact Or.inl rfl
    · exact Or.inr ⟨unset, ⟨isPrefix, not_not.mp otherLength, not_not.mp noFlags⟩, rfl⟩
    · exact Or.inl rfl
  · exact Or.inl rfl
  · exact Or.inl rfl

/-- What holds of every pass of the walk that starts at `start`. -/
structure WalksFrom (start walk : OptionWalk) : Prop where
  buffer : walk.ether.buffer = start.ether.buffer
  localMac : walk.ether.localMac = start.ether.localMac
  position : ∃ number, walk.ptr = optionStart start.ether.buffer start.ptr number
  extent : (walk.ptr : Int) + walk.remaining.toInt = start.ptr + start.remaining.toInt
  address : walk.ether.globalAddress = start.ether.globalAddress ∨
    start.ether.globalAddress.isZero = true ∧
      ∃ announced, Announces start.ether.buffer start.ptr start.remaining announced ∧
        walk.ether.globalAddress = announced.setEui64 start.ether.localMac

theorem WalksFrom.next {start walk next : OptionWalk} (walks : WalksFrom start walk)
    (continues : raPass walk = .inl next) : WalksFrom start next := by
  have positive : walk.remaining > 0 := by
    by_contra ended
    unfold raPass at continues
    rw [if_neg ended] at continues
    cases continues
  have above := (positive_iff _).mp positive
  have isNext : next = walk.advance (walk.ether.raOption walk.ptr) := by
    unfold raPass at continues
    rw [if_pos positive] at continues
    exact (Sum.inl.inj continues).symm
  have sameBuffer := raOption_buffer walk.ether walk.ptr
  have sameMac : (walk.ether.raOption walk.ptr).localMac = walk.ether.localMac := by
    obtain ⟨_, _, _, same⟩ := raOption_configuresOnly walk.ether walk.ptr
    rw [same]
  have extent := walks.extent
  obtain ⟨number, atNumber⟩ := walks.position
  have size : optionSize (walk.ether.raOption walk.ptr).buffer walk.ptr =
      optionSize start.ether.buffer (optionStart start.ether.buffer start.ptr number) := by
    rw [sameBuffer, walks.buffer, atNumber]
  rw [isNext]
  constructor
  · exact sameBuffer.trans walks.buffer
  · exact sameMac.trans walks.localMac
  · refine ⟨number + 1, ?_⟩
    change walk.ptr + optionSize _ walk.ptr = _
    rw [size, atNumber]
    rfl
  · have left := remaining_sub_toInt positive
      (optionSize_le (walk.ether.raOption walk.ptr).buffer walk.ptr)
    simp only [OptionWalk.advance, left]
    omega
  · rcases raOption_globalAddress walk.ether walk.ptr with same | ⟨unset, isOption, becomes⟩
    · rcases walks.address with kept | changed
      · exact Or.inl (same.trans kept)
      · obtain ⟨wasUnset, announced, announces, isAddress⟩ := changed
        exact Or.inr ⟨wasUnset, announced, announces, same.trans isAddress⟩
    · rcases walks.address with kept | ⟨_, announced, _, isAddress⟩
      · refine Or.inr ⟨by rw [← kept]; exact unset, _, ⟨number, ?_, ?_, rfl⟩, ?_⟩
        · omega
        · rw [← atNumber, ← walks.buffer]
          exact isOption
        · rw [← atNumber, ← walks.buffer, ← walks.localMac]
          exact becomes
      · -- an address made from a prefix is not zero
        rw [isAddress, setEui64_not_isZero] at unset
        cases unset

theorem walksFrom_of_reaches {start walk : OptionWalk}
    (reached : Reaches raPass start walk) : WalksFrom start walk := by
  induction reached with
  | start => exact ⟨rfl, rfl, ⟨0, rfl⟩, rfl, Or.inl rfl⟩
  | next _ continues ih => exact ih.next continues

/-- The three addresses that advertisements set. -/
structure SameAddresses (before after : EtherSia) : Prop where
  globalAddress : after.globalAddress = before.globalAddress
  routerMac : after.routerMac = before.routerMac
  dnsServerAddress : after.dnsServerAddress = before.dnsServerAddress

/-- The settings of the interface: what the packets it sends and receives leave alone,
advertisements apart. -/
structure SameSettings (before after : EtherSia) : Prop extends SameAddresses before after where
  localMac : after.localMac = before.localMac
  linkLocalAddress : after.linkLocalAddress = before.linkLocalAddress

theorem SameSettings.refl (ether : EtherSia) : SameSettings ether ether :=
  ⟨⟨rfl, rfl, rfl⟩, rfl, rfl⟩

theorem SameSettings.trans {first second third : EtherSia}
    (left : SameSettings first second) (right : SameSettings second third) :
    SameSettings first third where
  globalAddress := right.globalAddress.trans left.globalAddress
  routerMac := right.routerMac.trans left.routerMac
  dnsServerAddress := right.dnsServerAddress.trans left.dnsServerAddress
  localMac := right.localMac.trans left.localMac
  linkLocalAddress := right.linkLocalAddress.trans left.linkLocalAddress

theorem modifyPacket_sameSettings (ether : EtherSia) (change : Memory → Memory) :
    SameSettings ether (ether.modifyPacket change) :=
  ⟨⟨rfl, rfl, rfl⟩, rfl, rfl⟩

theorem prepareSend_sameSettings (ether : EtherSia) :
    SameSettings ether ether.prepareSend :=
  ⟨⟨rfl, rfl, rfl⟩, rfl, rfl⟩

theorem prepareReply_sameSettings (ether : EtherSia) :
    SameSettings ether ether.prepareReply :=
  ⟨⟨rfl, rfl, rfl⟩, rfl, rfl⟩

theorem send_sameSettings (ether : EtherSia) : SameSettings ether ether.send :=
  ⟨⟨rfl, rfl, rfl⟩, rfl, rfl⟩

theorem modifyPacket_send_sameSettings {before ether : EtherSia}
    (same : SameSettings before ether) (change : Memory → Memory) :
    SameSettings before (ether.modifyPacket change).send :=
  (same.trans (ether.modifyPacket_sameSettings change)).trans (send_sameSettings _)

theorem icmp6PacketSend_sameSettings {before ether : EtherSia}
    (same : SameSettings before ether) (change : Memory → Memory) :
    SameSettings before (ether.modifyPacket change).icmp6PacketSend := by
  unfold icmp6PacketSend
  exact modifyPacket_send_sameSettings
    (same.trans (ether.modifyPacket_sameSettings change)) _

/-- The frame is accepted and starts a walk over the options of an advertisement. -/
structure WalksAdvertisement (ether : EtherSia) (frame : Frame) : Prop where
  accepts : ether.Accepts frame
  isIcmp : protocol (ether.accepted frame).buffer = IP6_PROTO_ICMP6
  ours : ether.isOurAddress (destination (ether.accepted frame).buffer) ≠ none
  isAdvertisement : ICMPv6Packet.type (ether.accepted frame).buffer = ICMP6_TYPE_RA
  enabled : ether.autoConfigurationEnabled = true

/-- The interface in the course of a call of `receivePacket`: what the call returns,
or what a pass of its walk starts from, whether the walk ends or not. -/
def DuringReceive (ether : EtherSia) (frame : Frame) (later : EtherSia) : Prop :=
  (∃ len, ether.receivePacket frame = some (len, later)) ∨
    WalksAdvertisement ether frame ∧
      ∃ walk, Reaches raPass (ether.accepted frame).raWalk walk ∧ later = walk.ether

theorem icmp6NSReply_sameSettings (ether : EtherSia) :
    SameSettings ether ether.icmp6NSReply := by
  unfold icmp6NSReply
  dsimp only
  split
  · exact SameSettings.refl ether
  · exact icmp6PacketSend_sameSettings ether.prepareReply_sameSettings _

theorem icmp6EchoReply_sameSettings (ether : EtherSia) :
    SameSettings ether ether.icmp6EchoReply :=
  icmp6PacketSend_sameSettings ether.prepareReply_sameSettings _

/-- Only the walk over an advertisement changes an address. -/
theorem receivePacket_sameAddresses_or_walks {ether after : EtherSia} {frame : Frame}
    {len : UInt16} (returned : ether.receivePacket frame = some (len, after)) :
    SameAddresses ether after ∨
      WalksAdvertisement ether frame ∧
        ∃ walk, Reaches raPass (ether.accepted frame).raWalk walk ∧
          after = walk.ether := by
  have held : SameSettings ether (ether.accepted frame) := ⟨⟨rfl, rfl, rfl⟩, rfl, rfl⟩
  refine receivePacket_cases returned (motive := fun later => SameAddresses ether later ∨
    WalksAdvertisement ether frame ∧
      ∃ walk, Reaches raPass (ether.accepted frame).raWalk walk ∧ later = walk.ether)
    ?_ ?_ ?_ ?_ ?_
  · exact fun _ => Or.inl ⟨rfl, rfl, rfl⟩
  · exact fun _ => Or.inl held.toSameAddresses
  · intro _ _
    exact Or.inl
      (held.trans (ether.accepted frame).icmp6NSReply_sameSettings).toSameAddresses
  · intro _ _
    exact Or.inl
      (held.trans (ether.accepted frame).icmp6EchoReply_sameSettings).toSameAddresses
  · intro accepts holds walked walks
    unfold icmp6ProcessRA at walks
    split_ifs at walks with disabled
    · rw [← Option.some.inj walks]
      exact Or.inl held.toSameAddresses
    · obtain ⟨walk, reached, leaves⟩ := returns_iff_reaches.mp ⟨_, walks⟩
      have enabled : (ether.accepted frame).autoConfigurationEnabled = true := by
        simpa using disabled
      refine Or.inr ⟨⟨accepts, holds.isIcmp, holds.ours, holds.isType, enabled⟩, walk,
        reached, ?_⟩
      unfold raPass at leaves
      split_ifs at leaves
      exact (Sum.inr.inj leaves).symm

/-- The rule a frame obeys: nothing changes while autoconfiguration is disabled, and
the global address changes from zero alone, to an announced prefix followed by the
EUI-64 of the interface's MAC address. -/
structure ObeysConfiguration (ether : EtherSia) (frame : Frame) (later : EtherSia) :
    Prop where
  disabled : ether.autoConfigurationEnabled = false → SameAddresses ether later
  kept : ether.globalAddress.isZero = false → later.globalAddress = ether.globalAddress
  changed : later.globalAddress ≠ ether.globalAddress →
    later.globalAddress.isZero = false ∧
      ∃ announced, Announces (ether.accepted frame).buffer ICMPv6Packet.raOptions
        (optionBytes (ether.accepted frame).buffer 16) announced ∧
          later.globalAddress = announced.setEui64 ether.localMac

theorem duringReceive_obeys {ether later : EtherSia} {frame : Frame}
    (during : ether.DuringReceive frame later) :
    ether.ObeysConfiguration frame later := by
  have outcome : SameAddresses ether later ∨
      WalksAdvertisement ether frame ∧
        ∃ walk, Reaches raPass (ether.accepted frame).raWalk walk ∧
          later = walk.ether := by
    rcases during with ⟨len, returned⟩ | walking
    · exact receivePacket_sameAddresses_or_walks returned
    · exact Or.inr walking
  rcases outcome with same | ⟨walks, walk, reached, rfl⟩
  · exact ⟨fun _ => same, fun _ => same.globalAddress,
      fun differs => absurd same.globalAddress differs⟩
  · have enabled := walks.enabled
    rcases (walksFrom_of_reaches reached).address with
      kept | ⟨unset, announced, announces, isAddress⟩
    · refine ⟨fun disabled => ?_, fun _ => kept, fun differs => absurd kept differs⟩
      rw [enabled] at disabled
      cases disabled
    · refine ⟨fun disabled => ?_, fun taken => ?_, fun _ => ⟨?_, announced, announces,
        isAddress⟩⟩
      · rw [enabled] at disabled
        cases disabled
      · have wasUnset : ether.globalAddress.isZero = true := unset
        rw [taken] at wasUnset
        cases wasUnset
      · rw [isAddress]
        exact setEui64_not_isZero _ _

/-! ### Nothing else sets an address -/

theorem icmp6ErrorReply_sameSettings (ether : EtherSia) (type code : UInt8) :
    SameSettings ether (ether.icmp6ErrorReply type code) := by
  unfold icmp6ErrorReply
  exact icmp6PacketSend_sameSettings
    ((ether.modifyPacket_sameSettings _).trans (prepareReply_sameSettings _)) _

theorem icmp6SendNS_sameSettings (ether : EtherSia) (target source : IPv6Address) :
    SameSettings ether (ether.icmp6SendNS target source) := by
  unfold icmp6SendNS
  exact icmp6PacketSend_sameSettings
    ((ether.modifyPacket_sameSettings _).trans (prepareSend_sameSettings _)) _

theorem icmp6SendRS_sameSettings (ether : EtherSia) :
    SameSettings ether ether.icmp6SendRS := by
  unfold icmp6SendRS
  exact icmp6PacketSend_sameSettings ether.prepareSend_sameSettings _

theorem tcpSendRSTReply_sameSettings (ether : EtherSia) :
    SameSettings ether ether.tcpSendRSTReply := by
  unfold tcpSendRSTReply
  exact modifyPacket_send_sameSettings ether.prepareReply_sameSettings _

theorem rejectPacket_sameSettings (ether : EtherSia) :
    SameSettings ether ether.rejectPacket := by
  unfold rejectPacket
  split_ifs
  · exact SameSettings.refl ether
  · exact SameSettings.refl ether
  · exact ether.tcpSendRSTReply_sameSettings
  · exact ether.icmp6ErrorReply_sameSettings _ _
  · exact SameSettings.refl ether
  · exact ether.icmp6ErrorReply_sameSettings _ _

end EtherSia

open EtherSia

theorem Socket.prepare_sameSettings (socket : Socket) (isReply : Bool)
    (ether : EtherSia) : SameSettings ether (socket.prepare isReply ether) := by
  cases isReply
  · exact ⟨⟨rfl, rfl, rfl⟩, rfl, rfl⟩
  · exact ⟨⟨rfl, rfl, rfl⟩, rfl, rfl⟩

theorem UDPSocket.send_sameSettings (socket : Socket) (length : UInt16) (isReply : Bool)
    (ether : EtherSia) :
    SameSettings ether (UDPSocket.send socket length isReply ether) := by
  unfold UDPSocket.send UDPSocket.sendInternal
  exact modifyPacket_send_sameSettings (socket.prepare_sameSettings isReply ether) _

theorem TCPServer.send_sameSettings (socket : Socket) (length : UInt16) (isReply : Bool)
    (ether : EtherSia) :
    SameSettings ether (TCPServer.send socket length isReply ether) := by
  unfold TCPServer.send TCPServer.sendInternal
  exact modifyPacket_send_sameSettings (socket.prepare_sameSettings isReply ether) _

theorem TCPServer.havePacket_sameSettings (socket : Socket) (randomNumber : UInt32)
    (ether : EtherSia) :
    SameSettings ether (TCPServer.havePacket socket randomNumber ether).2.2 := by
  unfold TCPServer.havePacket
  dsimp only
  split_ifs
  · exact SameSettings.refl ether
  · exact SameSettings.refl ether
  · exact SameSettings.refl ether
  · exact SameSettings.refl ether
  · exact (ether.modifyPacket_sameSettings _).trans
      (TCPServer.send_sameSettings socket 0 true _)
  · exact (ether.modifyPacket_sameSettings _).trans
      (TCPServer.send_sameSettings socket 0 true _)
  · exact ether.modifyPacket_sameSettings fun packet => TCPHeader.setFlags packet 0
  · exact SameSettings.refl ether

namespace TCPClient

theorem send_sameSettings (client : TCPClient) (length : UInt16) (isReply : Bool)
    (ether : EtherSia) : SameSettings ether (client.send length isReply ether).2 := by
  unfold send sendInternal
  dsimp only
  split
  · exact modifyPacket_send_sameSettings (client.prepare_sameSettings isReply ether) _
  · exact modifyPacket_send_sameSettings (client.prepare_sameSettings isReply ether) _

theorem connect_sameSettings (client : TCPClient) (randomNumber now : UInt32)
    (ether : EtherSia) :
    SameSettings ether (client.connect randomNumber now ether).2 := by
  unfold connect
  exact (ether.modifyPacket_sameSettings _).trans (send_sameSettings _ 0 false _)

theorem tcpSendNoDataReply_sameSettings (client : TCPClient) (flags : UInt8)
    (ether : EtherSia) :
    SameSettings ether (client.tcpSendNoDataReply flags ether) := by
  unfold tcpSendNoDataReply tcpSendNoData
  exact modifyPacket_send_sameSettings
    (((ether.modifyPacket_sameSettings _).trans (prepareReply_sameSettings _)).trans
      (modifyPacket_sameSettings _ _)) _

theorem tcpResend_sameSettings (client : TCPClient) (flags dataOffset : UInt8)
    (ether : EtherSia) :
    SameSettings ether (client.tcpResend flags dataOffset ether) := by
  unfold tcpResend tcpSendNoData
  exact modifyPacket_send_sameSettings
    (((ether.modifyPacket_sameSettings _).trans (prepareSend_sameSettings _)).trans
      (modifyPacket_sameSettings _ _)) _

theorem resetReply_sameSettings (client : TCPClient) (ether : EtherSia) :
    SameSettings ether (client.resetReply ether) := by
  unfold resetReply
  split
  · exact SameSettings.refl ether
  · exact modifyPacket_send_sameSettings
      ((ether.modifyPacket_sameSettings _).trans (prepareReply_sameSettings _)) _

theorem checkForRetransmit_sameSettings (client : TCPClient) (ether : EtherSia) :
    SameSettings ether (client.checkForRetransmit ether).2 := by
  unfold checkForRetransmit
  split
  · dsimp only
    split
    · exact client.tcpResend_sameSettings _ _ _
    · split
      · exact tcpResend_sameSettings _ _ _ _
      · exact ether.modifyPacket_sameSettings fun packet =>
          TCPHeader.setFlags packet TCP_FLAG_ACK
      · exact tcpResend_sameSettings _ _ _ _
      · exact SameSettings.refl ether
  · exact SameSettings.refl ether

theorem foundSegment_sameSettings (client : TCPClient) (ether : EtherSia) :
    SameSettings ether (client.foundSegment ether).2 := by
  unfold foundSegment
  split_ifs
  · exact SameSettings.refl ether
  · exact tcpSendNoDataReply_sameSettings _ _ _
  · dsimp only
    split
    · unfold waitSynAckSegment
      split
      · exact tcpSendNoDataReply_sameSettings _ _ _
      · exact resetReply_sameSettings _ _
    · unfold connectedSegment
      split_ifs
      · exact checkForRetransmit_sameSettings _ _
      · exact tcpSendNoDataReply_sameSettings _ _ _
      · exact tcpSendNoDataReply_sameSettings _ _ _
      · exact checkForRetransmit_sameSettings _ _
    · unfold lastAckSegment
      split
      · exact SameSettings.refl ether
      · exact checkForRetransmit_sameSettings _ _
    · exact tcpSendNoDataReply_sameSettings _ _ _

theorem poll_sameSettings (client : TCPClient) (clock : HavePacketClock)
    (ether : EtherSia) : SameSettings ether (client.poll clock ether).2 := by
  unfold poll
  dsimp only
  split_ifs
  · exact SameSettings.refl ether
  · exact SameSettings.refl ether
  · unfold dispatchPacket
    dsimp only
    split_ifs
    · exact checkForRetransmit_sameSettings _ _
    · exact checkForRetransmit_sameSettings _ _
    · exact checkForRetransmit_sameSettings _ _
    · exact checkForRetransmit_sameSettings _ _
    · exact foundSegment_sameSettings _ _
    · exact checkForRetransmit_sameSettings _ _
    · exact resetReply_sameSettings _ _

end TCPClient

/-! ### Runs -/

section Runs

variable {ι : Type} [DecidableEq ι]

/-- A frame received changed the global address. -/
def frameChangesAddress (taken : Taken (Station ι) (StationEvent ι)) : Bool :=
  match taken.event with
  | .receivePacket _ =>
      taken.after.ether.globalAddress ≠ taken.before.ether.globalAddress
  | _ => false

/-- The application set the global address to zero. -/
def applicationClearsAddress (taken : Taken (Station ι) (StationEvent ι)) : Bool :=
  match taken.event with
  | .configure globalAddress _ _ _ => globalAddress.isZero
  | _ => false

/-- Besides receiving and the application's own configuration, nothing changes a setting. -/
theorem Station.step_sameSettings {station next : Station ι} {event : StationEvent ι}
    (stepped : station.step event = some next)
    (notReceived : ∀ frame, event ≠ .receivePacket frame)
    (notConfigured : ∀ globalAddress dnsServerAddress routerMac enabled,
      event ≠ .configure globalAddress dnsServerAddress routerMac enabled) :
    SameSettings station.ether next.ether := by
  cases event with
  | receivePacket frame => exact absurd rfl (notReceived frame)
  | configure globalAddress dnsServerAddress routerMac enabled =>
      exact absurd rfl (notConfigured globalAddress dnsServerAddress routerMac enabled)
  | rejectPacket =>
      cases stepped
      exact station.ether.rejectPacket_sameSettings
  | tcpSendRSTReply =>
      cases stepped
      exact station.ether.tcpSendRSTReply_sameSettings
  | icmp6SendNS target source =>
      cases stepped
      exact station.ether.icmp6SendNS_sameSettings target source
  | icmp6SendRS =>
      cases stepped
      exact station.ether.icmp6SendRS_sameSettings
  | writePayload offset bytes =>
      cases stepped
      exact ⟨⟨rfl, rfl, rfl⟩, rfl, rfl⟩
  | udpSend socket length isReply =>
      cases stepped
      exact UDPSocket.send_sameSettings socket length isReply _
  | serverHavePacket socket randomNumber =>
      cases stepped
      exact TCPServer.havePacket_sameSettings socket randomNumber _
  | serverSend socket length isReply =>
      cases stepped
      exact TCPServer.send_sameSettings socket length isReply _
  | setRemoteAddress client socket =>
      cases stepped
      exact ⟨⟨rfl, rfl, rfl⟩, rfl, rfl⟩
  | connect client randomNumber now =>
      cases stepped
      exact TCPClient.connect_sameSettings _ randomNumber now _
  | clientHavePacket client clock =>
      cases stepped
      exact TCPClient.poll_sameSettings _ clock _
  | clientSend client length isReply =>
      cases stepped
      exact TCPClient.send_sameSettings _ length isReply _

/-- Besides receiving and the application's own configuration, nothing sets an address. -/
theorem Station.step_sameAddresses {station next : Station ι} {event : StationEvent ι}
    (stepped : station.step event = some next)
    (notReceived : ∀ frame, event ≠ .receivePacket frame)
    (notConfigured : ∀ globalAddress dnsServerAddress routerMac enabled,
      event ≠ .configure globalAddress dnsServerAddress routerMac enabled) :
    SameAddresses station.ether next.ether :=
  (Station.step_sameSettings stepped notReceived notConfigured).toSameAddresses

/-- Step lemma: a frame that changes the address finds it zero and leaves it set, and
only the application makes it zero. -/
theorem Station.step_address {station next : Station ι} {event : StationEvent ι}
    (stepped : station.step event = some next) :
    frameChangesAddress ⟨station, event, next⟩ = true ∧
        station.ether.globalAddress.isZero = true ∧
          next.ether.globalAddress.isZero = false ∨
      frameChangesAddress ⟨station, event, next⟩ = false ∧
        (next.ether.globalAddress.isZero = true →
          station.ether.globalAddress.isZero = true ∨
            applicationClearsAddress ⟨station, event, next⟩ = true) := by
  cases isEvent : event with
  | receivePacket frame =>
      rw [isEvent] at stepped
      obtain ⟨⟨len, after⟩, returned, rfl⟩ := Option.map_eq_some_iff.mp stepped
      have obeys := duringReceive_obeys (Or.inl ⟨len, returned⟩)
      by_cases differs : after.globalAddress = station.ether.globalAddress
      · refine Or.inr ⟨decide_eq_false (not_not.mpr differs), fun zero => Or.inl ?_⟩
        rw [← differs]
        exact zero
      · refine Or.inl ⟨decide_eq_true differs, ?_, (obeys.changed differs).1⟩
        by_contra taken
        exact differs (obeys.kept (by simpa using taken))
  | configure globalAddress dnsServerAddress routerMac enabled =>
      rw [isEvent] at stepped
      cases stepped
      exact Or.inr ⟨rfl, fun zero => Or.inr zero⟩
  | _ =>
      have unchanged := Station.step_sameAddresses stepped (by rw [isEvent]; exact nofun)
        (by rw [isEvent]; exact nofun)
      refine Or.inr ⟨rfl, fun zero => Or.inl ?_⟩
      rw [← unchanged.globalAddress]
      exact zero

/-- Run lemma: the changes are at most the clearings, and one more while the address
is zero at the start. -/
theorem countP_frameChangesAddress_le (station : Station ι)
    (events : List (StationEvent ι)) :
    (trace Station.step station events).countP frameChangesAddress ≤
      (trace Station.step station events).countP applicationClearsAddress +
        if station.ether.globalAddress.isZero then 1 else 0 := by
  induction events generalizing station with
  | nil => exact Nat.zero_le _
  | cons event rest ih =>
      cases stepped : station.step event with
      | none => simp [trace, stepped]
      | some next =>
          rw [trace_cons_of_step stepped, List.countP_cons, List.countP_cons]
          have later := ih next
          rcases Station.step_address stepped with
            ⟨changes, unset, taken⟩ | ⟨silent, cleared⟩
          · rw [changes, unset]
            rw [taken] at later
            simp only [Bool.false_eq_true, if_false, if_true] at later ⊢
            omega
          · rw [silent]
            cases zero : next.ether.globalAddress.isZero with
            | false =>
                rw [zero] at later
                simp only [Bool.false_eq_true, if_false] at later ⊢
                omega
            | true =>
                rw [zero] at later
                rcases cleared zero with wasZero | clears
                · rw [wasZero]
                  simp only [Bool.false_eq_true, if_false, if_true] at later ⊢
                  omega
                · rw [clears]
                  simp only [Bool.false_eq_true, if_false, if_true] at later ⊢
                  omega

/-- In every run each frame obeys the rule, in all its passes and whether the call
returns or not, and frames change the global address at most once more than the
application clears it. -/
theorem run_configures_once (station : Station ι) (events : List (StationEvent ι)) :
    (∀ prior frame rest (before : Station ι),
      events = prior ++ .receivePacket frame :: rest →
        run Station.step station prior = some before →
          ∀ later, before.ether.DuringReceive frame later →
            before.ether.ObeysConfiguration frame later) ∧
      (trace Station.step station events).countP frameChangesAddress ≤
        (trace Station.step station events).countP applicationClearsAddress + 1 := by
  constructor
  · intro prior frame rest before _parts _led later during
    exact duringReceive_obeys during
  · have bounded := countP_frameChangesAddress_le station events
    split_ifs at bounded
    · exact bounded
    · omega

end Runs

end EtherSiaStack
