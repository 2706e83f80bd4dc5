/-
How an interface starts.

`begin` derives the link-local address, sends one solicitation for it and configures the
global address.  It never looks at what the solicitation brings.  That two nodes come up
without an address in common rests on their MAC addresses, which are a part of every
address they set.
-/

import EtherSiaStack.LateAnswers
import EtherSiaStack.Rejection
import EtherSiaStack.UnsetAddress

namespace EtherSiaStack

open ByteMemory IPv6Packet FuelLoop Trace

theorem IPv6Address.setEui64_mac {left right : IPv6Address} {mac other : MACAddress}
    (same : left.setEui64 mac = right.setEui64 other) : mac = other := by
  have octets := congrFun (congrArg IPv6Address.octet same)
  have flipped : mac.octet 0 ^^^ 0x02 = other.octet 0 ^^^ 0x02 := octets 8
  have first : mac.octet 0 = other.octet 0 := (UInt8.xor_left_inj _).mp flipped
  apply MACAddress.ext
  funext index
  fin_cases index
  · exact first
  · exact octets 9
  · exact octets 10
  · exact octets 13
  · exact octets 14
  · exact octets 15

namespace EtherSia

/-! ### The call -/

/-- The link-local address, as the first statements of `begin` derive it. -/
def withLinkLocalAddress (ether : EtherSia) : EtherSia :=
  { ether with
    linkLocalAddress := ether.linkLocalAddress.setLinkLocalPrefix.setEui64 ether.localMac }

/-- The solicitation for Duplicate Address Detection, from the unspecified address. -/
def detectDuplicates (ether : EtherSia) : EtherSia :=
  ether.icmp6SendNS ether.linkLocalAddress IPv6Address.zero

/-- `begin` returns this, and leaves this interface behind.  The delays are time in which
nothing is received. -/
def Begin (ether : EtherSia) (now : UInt32) (passes : Nat → DiscoveryPass)
    (result : Bool × EtherSia) : Prop :=
  let ether := ether.withLinkLocalAddress.detectDuplicates
  if ether.autoConfigurationEnabled then ether.Icmp6AutoConfigure now passes result
  else result = (true, ether)

/-! ### What it does -/

/-- The addresses and the frames of an interface that has gone on. -/
structure GoesOn (before after : EtherSia) : Prop where
  localMac : after.localMac = before.localMac
  linkLocalAddress : after.linkLocalAddress = before.linkLocalAddress
  globalAddress : after.globalAddress = before.globalAddress ∨
    before.globalAddress.isZero = true ∧
      ∃ announced : IPv6Address, after.globalAddress = announced.setEui64 before.localMac
  sent : before.sent <+: after.sent

theorem GoesOn.refl (ether : EtherSia) : GoesOn ether ether :=
  ⟨rfl, rfl, Or.inl rfl, List.prefix_refl _⟩

theorem GoesOn.trans {first second third : EtherSia} (left : GoesOn first second)
    (right : GoesOn second third) : GoesOn first third where
  localMac := right.localMac.trans left.localMac
  linkLocalAddress := right.linkLocalAddress.trans left.linkLocalAddress
  sent := left.sent.trans right.sent
  globalAddress := by
    rcases left.globalAddress with kept | ⟨unset, announced, isSet⟩
    · rw [← kept, ← left.localMac]
      exact right.globalAddress
    · rcases right.globalAddress with kept | ⟨stillUnset, _⟩
      · exact Or.inr ⟨unset, announced, kept.trans isSet⟩
      · -- the address is set once
        rw [isSet, setEui64_not_isZero] at stillUnset
        cases stillUnset

theorem solicitRouterWhenDue_goesOn (pass : DiscoveryPass) (discovery : RouterDiscovery) :
    GoesOn discovery.ether (solicitRouterWhenDue pass discovery).ether where
  localMac := (solicitRouterWhenDue_sameStation pass discovery).localMac
  linkLocalAddress := (solicitRouterWhenDue_sameStation pass discovery).linkLocalAddress
  globalAddress := Or.inl (solicitRouterWhenDue_sameAddresses pass discovery).globalAddress
  sent := by
    unfold solicitRouterWhenDue
    split
    · dsimp only
      rw [(icmp6SendRS_transmits _).sent]
      exact List.prefix_append _ _
    · exact List.prefix_refl _

theorem sendsOnce_prefix {before after : EtherSia} (once : SendsOnce before after) :
    before.sent <+: after.sent := by
  cases once with
  | nothing sent _ =>
      rw [sent]
  | frame octets sent _ =>
      rw [sent]
      exact List.prefix_append _ _

theorem receivePacket_goesOn {ether after : EtherSia} {frame : Frame} {len : UInt16}
    (returned : ether.receivePacket frame = some (len, after)) : GoesOn ether after where
  localMac := (receivePacket_sameStation returned).localMac
  linkLocalAddress := (receivePacket_sameStation returned).linkLocalAddress
  globalAddress := by
    have obeys := duringReceive_obeys (Or.inl ⟨len, returned⟩)
    by_cases same : after.globalAddress = ether.globalAddress
    · exact Or.inl same
    · obtain ⟨_, announced, _, isSet⟩ := obeys.changed same
      cases unset : ether.globalAddress.isZero with
      | true => exact Or.inr ⟨rfl, announced, isSet⟩
      | false => exact absurd (obeys.kept unset) same
  sent := by
    rcases receivePacket_sendsOnce returned with ⟨_, once⟩ | ⟨_, once⟩
    · exact sendsOnce_prefix once
    · have fromAccepted : (ether.accepted frame).sent <+: after.sent := sendsOnce_prefix once
      exact fromAccepted

/-- One pass, whether it is the last or not. -/
theorem autoConfigurePass_goesOn {passes : Nat → DiscoveryPass} {discovery : RouterDiscovery}
    {len : UInt16} {after : EtherSia}
    (returned : (solicitRouterWhenDue (passes discovery.passNumber)
      discovery).ether.receivePacket (passes discovery.passNumber).frame = some (len, after)) :
    GoesOn discovery.ether after :=
  (solicitRouterWhenDue_goesOn _ _).trans (receivePacket_goesOn returned)

theorem icmp6AutoConfigure_goesOn {ether after : EtherSia} {now : UInt32}
    {passes : Nat → DiscoveryPass} {success : Bool}
    (returned : ether.Icmp6AutoConfigure now passes (success, after)) : GoesOn ether after := by
  obtain ⟨fuel, returned⟩ := returned
  refine run_invariant (fun discovery => GoesOn ether discovery.ether)
    (fun result => ∀ success after, result = some (success, after) → GoesOn ether after)
    ?_ ?_ (GoesOn.refl ether) returned success after rfl
  · intro discovery next goesOn continues
    obtain ⟨len, returned⟩ := autoConfigurePass_next continues
    exact goesOn.trans (autoConfigurePass_goesOn returned)
  · intro discovery result goesOn leaves success after isResult
    subst isResult
    unfold autoConfigurePass at leaves
    split_ifs at leaves
    · dsimp only at leaves
      split at leaves
      · cases leaves
      · rename_i len ether returned
        split_ifs at leaves
        cases leaves
        exact goesOn.trans (autoConfigurePass_goesOn returned)
    · cases leaves
      exact goesOn

/-- An interface that has started.  Its link-local address is that of its MAC address, the
first packet it sent asks for it, as a node without an address, and the other address is
the one it had or, if it had none, an announced prefix with the same MAC address. -/
structure StartedUp (before after : EtherSia) : Prop where
  localMac : after.localMac = before.localMac
  linkLocalAddress : after.linkLocalAddress =
    before.linkLocalAddress.setLinkLocalPrefix.setEui64 before.localMac
  globalAddress : after.globalAddress = before.globalAddress ∨
    before.globalAddress.isZero = true ∧
      ∃ announced : IPv6Address, after.globalAddress = announced.setEui64 before.localMac
  asks : ∃ packet more,
    CarriesSolicitation packet before.localMac after.linkLocalAddress ∧
      source packet = IPv6Address.zero ∧
        after.sent = before.sent ++ bytesAt packet 0 (length packet).toNat :: more

theorem detectDuplicates_goesOn (ether : EtherSia) :
    GoesOn ether ether.detectDuplicates where
  localMac := (icmp6SendNS_sameStation _ _ _).localMac
  linkLocalAddress := (icmp6SendNS_sameStation _ _ _).linkLocalAddress
  globalAddress := Or.inl (icmp6SendNS_sameSettings _ _ _).globalAddress
  sent := by
    unfold detectDuplicates
    rw [(icmp6SendNS_transmits _ _ _).sent]
    exact List.prefix_append _ _

theorem icmp6SendNS_source (ether : EtherSia) (target sender : IPv6Address) :
    source (ether.icmp6SendNS target sender).buffer = sender := by
  simp [icmp6SendNS, icmp6PacketSend, send, modifyPacket, storeChecksum,
    ICMPv6Packet.checksumAddress]

theorem GoesOn.startedUp {ether after : EtherSia}
    (goesOn : GoesOn ether.withLinkLocalAddress.detectDuplicates after) :
    StartedUp ether after := by
  let asking := ether.withLinkLocalAddress
  have all : GoesOn asking after := asking.detectDuplicates_goesOn.trans goesOn
  have carries := asking.icmp6SendNS_carries asking.linkLocalAddress IPv6Address.zero
  have transmits := asking.icmp6SendNS_transmits asking.linkLocalAddress IPv6Address.zero
  obtain ⟨more, isSent⟩ := goesOn.sent
  refine ⟨all.localMac, all.linkLocalAddress, all.globalAddress,
    asking.detectDuplicates.buffer, more, ?_, asking.icmp6SendNS_source _ _, ?_⟩
  · rw [all.linkLocalAddress]
    exact carries
  · rw [← isSent, List.append_cons]
    exact congrArg (· ++ more) transmits.sent

theorem begin_startedUp {ether after : EtherSia} {now : UInt32}
    {passes : Nat → DiscoveryPass} {success : Bool}
    (started : ether.Begin now passes (success, after)) : StartedUp ether after := by
  unfold Begin at started
  dsimp only at started
  split_ifs at started
  · exact (icmp6AutoConfigure_goesOn started).startedUp
  · cases started
    exact (GoesOn.refl _).startedUp

/-- With an address, or without autoconfiguration, nothing is waited for. -/
theorem begin_at_once_iff {ether : EtherSia} {now : UInt32} {passes : Nat → DiscoveryPass}
    {result : Bool × EtherSia}
    (settled : ether.autoConfigurationEnabled = false ∨ ether.globalAddress.isZero = false) :
    ether.Begin now passes result ↔
      result = (true, ether.withLinkLocalAddress.detectDuplicates) := by
  have goesOn := ether.withLinkLocalAddress.detectDuplicates_goesOn
  have sameSetting : ether.withLinkLocalAddress.detectDuplicates.autoConfigurationEnabled =
      ether.autoConfigurationEnabled :=
    (icmp6SendNS_sameStation _ _ _).autoConfigurationEnabled
  unfold Begin
  dsimp only
  rw [sameSetting]
  rcases settled with disabled | taken
  · rw [disabled]
    exact Iff.rfl
  · split_ifs
    · have sameAddress : ether.withLinkLocalAddress.detectDuplicates.globalAddress =
          ether.globalAddress :=
        (icmp6SendNS_sameSettings _ _ _).globalAddress
      have leaves : autoConfigurePass passes
          (ether.withLinkLocalAddress.detectDuplicates.routerDiscoveryStart now) =
            .inr (some (true, ether.withLinkLocalAddress.detectDuplicates)) := by
        refine if_neg ?_
        rw [show (ether.withLinkLocalAddress.detectDuplicates.routerDiscoveryStart
          now).ether.globalAddress = ether.globalAddress from sameAddress, taken]
        decide
      constructor
      · intro returned
        exact Option.some.inj (Returns.result_unique returned ⟨1, run_leave leaves 0⟩)
      · rintro rfl
        exact ⟨1, run_leave leaves 0⟩
    · exact Iff.rfl

/-! ### Two nodes -/

/-- The address is one the node has set and takes for its own. -/
structure HasAddress (ether : EtherSia) (address : IPv6Address) : Prop where
  isSet : address.isZero = false
  ours : ether.isOurAddress address = some .linkLocal ∨
    ether.isOurAddress address = some .global

theorem hasAddress_iff {ether : EtherSia} {address : IPv6Address} :
    ether.HasAddress address ↔ address.isZero = false ∧
      (address = ether.linkLocalAddress ∨ address = ether.globalAddress) := by
  constructor
  · rintro ⟨isSet, ours⟩
    refine ⟨isSet, ?_⟩
    unfold isOurAddress at ours
    split_ifs at ours with isLinkLocal isGlobal isGroup
    · exact Or.inl isLinkLocal
    · exact Or.inr isGlobal
    · simp at ours
    · simp at ours
  · rintro ⟨isSet, rfl | rfl⟩
    · exact ⟨isSet, Or.inl (if_pos rfl)⟩
    · refine ⟨isSet, ?_⟩
      by_cases same : ether.globalAddress = ether.linkLocalAddress
      · exact Or.inl (if_pos same)
      · exact Or.inr ((if_neg same).trans (if_pos rfl))

/-- Every address that is set ends with the MAC address. -/
structure OwnAddresses (mac : MACAddress) (ether : EtherSia) : Prop where
  localMac : ether.localMac = mac
  linkLocalAddress : ∃ announced : IPv6Address, ether.linkLocalAddress = announced.setEui64 mac
  globalAddress : ether.globalAddress.isZero = true ∨
    ∃ announced : IPv6Address, ether.globalAddress = announced.setEui64 mac

theorem OwnAddresses.of_hasAddress {mac : MACAddress} {ether : EtherSia}
    {address : IPv6Address} (own : OwnAddresses mac ether) (has : ether.HasAddress address) :
    ∃ announced : IPv6Address, address = announced.setEui64 mac := by
  obtain ⟨isSet, rfl | rfl⟩ := hasAddress_iff.mp has
  · exact own.linkLocalAddress
  · rcases own.globalAddress with unset | isPrefix
    · rw [unset] at isSet
      cases isSet
    · exact isPrefix

theorem OwnAddresses.goesOn {mac : MACAddress} {before after : EtherSia}
    (own : OwnAddresses mac before) (goesOn : GoesOn before after) : OwnAddresses mac after where
  localMac := goesOn.localMac.trans own.localMac
  linkLocalAddress := by
    rw [goesOn.linkLocalAddress]
    exact own.linkLocalAddress
  globalAddress := by
    rcases goesOn.globalAddress with kept | ⟨_, announced, isSet⟩
    · rw [kept]
      exact own.globalAddress
    · rw [own.localMac] at isSet
      exact Or.inr ⟨announced, isSet⟩

theorem OwnAddresses.sameSettings {mac : MACAddress} {before after : EtherSia}
    (own : OwnAddresses mac before) (same : SameSettings before after) :
    OwnAddresses mac after where
  localMac := same.localMac.trans own.localMac
  linkLocalAddress := by
    rw [same.linkLocalAddress]
    exact own.linkLocalAddress
  globalAddress := by
    rw [same.globalAddress]
    exact own.globalAddress

theorem StartedUp.ownAddresses {before after : EtherSia} (startedUp : StartedUp before after)
    (unset : before.globalAddress.isZero = true) : OwnAddresses before.localMac after where
  localMac := startedUp.localMac
  linkLocalAddress := ⟨_, startedUp.linkLocalAddress⟩
  globalAddress := by
    rcases startedUp.globalAddress with kept | ⟨_, isPrefix⟩
    · rw [kept]
      exact Or.inl unset
    · exact Or.inr isPrefix

/-- The address is not the node's, and the node never answers for it. -/
structure LeavesToOthers (ether : EtherSia) (address : IPv6Address) : Prop where
  foreign : ¬ether.HasAddress address
  silent : ∀ frame, ¬∃ len after, ether.receivePacket frame = some (len, after) ∧
    Advertises address ether after

/-- Nodes with different MAC addresses have no address in common. -/
theorem OwnAddresses.apart {mac other : MACAddress} {node neighbour : EtherSia}
    {address : IPv6Address} (different : mac ≠ other) (own : OwnAddresses mac node)
    (ownToo : OwnAddresses other neighbour) (has : node.HasAddress address) :
    neighbour.LeavesToOthers address := by
  have foreign : ¬neighbour.HasAddress address := by
    intro hasToo
    obtain ⟨_, ofNode⟩ := own.of_hasAddress has
    obtain ⟨_, ofNeighbour⟩ := ownToo.of_hasAddress hasToo
    exact different (IPv6Address.setEui64_mac (ofNode.symm.trans ofNeighbour))
  refine ⟨foreign, fun frame advertises => foreign ?_⟩
  have solicited := (receivePacket_advertises_iff neighbour frame address).mp advertises
  have ours := solicited.ours
  unfold TargetIsOurs at ours
  rw [solicited.isTarget] at ours
  exact hasAddress_iff.mpr ⟨has.isSet, ours⟩

end EtherSia

open EtherSia

/-! ### Runs -/

section Runs

variable {ι κ : Type} [DecidableEq ι] [DecidableEq κ]

/-- The application gives the node no address.  It may take away the one it has. -/
def LeavesAddress (event : StationEvent ι) : Prop :=
  ∀ globalAddress dnsServerAddress routerMac enabled,
    event = .configure globalAddress dnsServerAddress routerMac enabled →
      globalAddress.isZero = true

theorem Station.step_ownAddresses {mac : MACAddress} {station next : Station ι}
    {event : StationEvent ι} (stepped : station.step event = some next)
    (leaves : LeavesAddress event) (own : OwnAddresses mac station.ether) :
    OwnAddresses mac next.ether := by
  cases isEvent : event with
  | receivePacket frame =>
      rw [isEvent] at stepped
      obtain ⟨⟨len, after⟩, returned, rfl⟩ := Option.map_eq_some_iff.mp stepped
      exact own.goesOn (receivePacket_goesOn returned)
  | configure globalAddress dnsServerAddress routerMac enabled =>
      have isZero := leaves _ _ _ _ isEvent
      rw [isEvent] at stepped
      cases stepped
      exact ⟨own.localMac, own.linkLocalAddress, Or.inl isZero⟩
  | _ =>
      exact own.sameSettings (Station.step_sameSettings stepped
        (by rw [isEvent]; exact nofun) (by rw [isEvent]; exact nofun))

theorem reached_ownAddresses {mac : MACAddress} (station : Station ι)
    {events : List (StationEvent ι)} (leaves : ∀ event ∈ events, LeavesAddress event)
    (own : OwnAddresses mac station.ether) :
    OwnAddresses mac (reached Station.step station events).ether := by
  induction events generalizing station with
  | nil => exact own
  | cons event rest ih =>
      obtain ⟨leavesFirst, leavesRest⟩ := List.forall_mem_cons.mp leaves
      cases stepped : station.step event with
      | none =>
          rw [reached_cons_of_none stepped]
          exact own
      | some next =>
          rw [reached_cons_of_step stepped]
          exact ih next leavesRest (Station.step_ownAddresses stepped leavesFirst own)

/-- However the network behaves while two nodes start and afterwards, they come up with
the link-local addresses of their MAC addresses, ask for them first of all, and have no
address in common at any time; and neither answers for an address of the other. -/
theorem nodes_stay_apart {first second firstUp secondUp : EtherSia} {now later : UInt32}
    {passes others : Nat → DiscoveryPass} {success otherSuccess : Bool}
    (different : first.localMac ≠ second.localMac)
    (firstUnset : first.globalAddress.isZero = true)
    (secondUnset : second.globalAddress.isZero = true)
    (started : first.Begin now passes (success, firstUp))
    (otherStarted : second.Begin later others (otherSuccess, secondUp))
    (clients : ι → TCPClient) (otherClients : κ → TCPClient)
    (events : List (StationEvent ι)) (leaves : ∀ event ∈ events, LeavesAddress event)
    (otherEvents : List (StationEvent κ))
    (otherLeaves : ∀ event ∈ otherEvents, LeavesAddress event) :
    StartedUp first firstUp ∧ StartedUp second secondUp ∧
      ∀ address, (reached Station.step ⟨firstUp, clients⟩ events).ether.HasAddress address →
        (reached Station.step ⟨secondUp, otherClients⟩ otherEvents).ether.LeavesToOthers
          address := by
  have firstStarted := begin_startedUp started
  have secondStarted := begin_startedUp otherStarted
  have own := reached_ownAddresses ⟨firstUp, clients⟩ leaves
    (firstStarted.ownAddresses firstUnset)
  have ownToo := reached_ownAddresses ⟨secondUp, otherClients⟩ otherLeaves
    (secondStarted.ownAddresses secondUnset)
  exact ⟨firstStarted, secondStarted, fun _ => own.apart different ownToo⟩

/-- A node without autoconfiguration. -/
def examplePlainNode : EtherSia :=
  { EtherSia.configured (exampleMac 2) (fun _ => 0) with autoConfigurationEnabled := false }

/-- A node that takes the prefix of an advertisement, beside one that configures no
address. -/
theorem nodes_stay_apart_example :
    ∃ firstUp, exampleStation.ether.Begin 0 (fun _ => ⟨0, 0, exampleAdvertisement⟩)
        (true, firstUp) ∧
      firstUp.HasAddress
        ⟨![0x20, 1, 0x0d, 0xb8, 0, 1, 0, 2, 0, 0, 0, 0xff, 0xfe, 0, 0, 1]⟩ ∧
      ∀ address, firstUp.HasAddress address →
        (reached Station.step ⟨examplePlainNode.withLinkLocalAddress.detectDuplicates,
          Empty.elim⟩ [.receivePacket exampleAdvertisement]).ether.LeavesToOthers address := by
  have returns : (FuelLoop.run (autoConfigurePass fun _ => ⟨0, 0, exampleAdvertisement⟩) 2
      (exampleStation.ether.withLinkLocalAddress.detectDuplicates.routerDiscoveryStart 0)).map
        (Option.map fun result => (result.1, result.2.globalAddress)) = some (some (true,
          ⟨![0x20, 1, 0x0d, 0xb8, 0, 1, 0, 2, 0, 0, 0, 0xff, 0xfe, 0, 0, 1]⟩)) := by
    decide +kernel
  obtain ⟨result, returned, outcome⟩ := Option.map_eq_some_iff.mp returns
  obtain ⟨⟨success, firstUp⟩, rfl, same⟩ := Option.map_eq_some_iff.mp outcome
  obtain ⟨rfl, isAddress⟩ := Prod.mk.inj same
  have started : exampleStation.ether.Begin 0 (fun _ => ⟨0, 0, exampleAdvertisement⟩)
      (true, firstUp) := ⟨2, returned⟩
  have startedToo : examplePlainNode.Begin 0 (fun _ => ⟨0, 0, exampleAdvertisement⟩)
      (true, examplePlainNode.withLinkLocalAddress.detectDuplicates) :=
    (begin_at_once_iff (Or.inl rfl)).mpr rfl
  have leaves (event : StationEvent Empty)
      (member : event ∈ [StationEvent.receivePacket exampleAdvertisement]) :
      LeavesAddress event := by
    rw [List.mem_singleton.mp member]
    exact nofun
  obtain ⟨-, -, apart⟩ := nodes_stay_apart (by decide) (by decide) (by decide) started
    startedToo Empty.elim Empty.elim [] nofun [.receivePacket exampleAdvertisement] leaves
  exact ⟨firstUp, started, hasAddress_iff.mpr ⟨by decide, Or.inr isAddress.symm⟩, apart⟩

end Runs

end EtherSiaStack
