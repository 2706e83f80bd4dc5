/-
Neighbour discovery from off the link.

Every sender of the library sets the hop limit to 255, so that a receiver can tell what
a router has forwarded.  None of the three receivers looks at it, nor at the source of an
advertisement: a message of neighbour discovery has no effect exactly when it would have
none had it come from the link.
-/

import EtherSiaStack.AddressScope
import EtherSiaStack.UnsetAddress

namespace EtherSiaStack

open ByteMemory IPv6Packet FuelLoop

/-- A message of neighbour discovery that is not to be acted on: a router may have
forwarded it, or it is a router advertisement from a source that is not link-local. -/
structure InvalidDiscovery (packet : Memory) : Prop where
  isIcmp : protocol packet = IP6_PROTO_ICMP6
  isDiscovery : ICMPv6Packet.type packet = ICMP6_TYPE_RA ∨
    ICMPv6Packet.type packet = ICMP6_TYPE_NS ∨ ICMPv6Packet.type packet = ICMP6_TYPE_NA
  invalid : hopLimit packet ≠ 255 ∨
    ICMPv6Packet.type packet = ICMP6_TYPE_RA ∧ (source packet).isLinkLocal = false

namespace EtherSia

/-! ### Advertisements of routers -/

/-- The options of the advertisement in the buffer name the router and the resolver that
are in use, and nothing is to be taken from its prefixes. -/
structure KeepsConfiguration (ether : EtherSia) : Prop where
  router : ∀ option, lastOption ether.buffer ICMP6_OPTION_SOURCE_LINK_ADDRESS =
    some option → MACAddress.mk (blockAt ether.buffer (option + 2)) = ether.routerMac
  resolver : ∀ option, lastOption ether.buffer ICMP6_OPTION_RECURSIVE_DNS = some option →
    IPv6Address.mk (blockAt ether.buffer (option + 8)) = ether.dnsServerAddress
  announced : ether.globalAddress.isZero = true → firstAcceptablePrefix ether.buffer = none

theorem getD_map_eq_iff {α β : Type} (value : α → β) (present : Option α) (default : β) :
    (present.map value).getD default = default ↔
      ∀ found, present = some found → value found = default := by
  cases present with
  | none => exact iff_of_true rfl nofun
  | some found => simp only [Option.map_some, Option.getD_some, Option.some.injEq, forall_eq']

theorem foldl_sameAddresses_iff (ether : EtherSia) :
    SameAddresses ether ((raOptionList ether.buffer).foldl raOption ether) ↔
      ether.KeepsConfiguration := by
  have router := foldl_routerMac ether
  have resolver := foldl_dnsServerAddress ether
  have keepsAddress : ((raOptionList ether.buffer).foldl raOption ether).globalAddress =
      ether.globalAddress ↔
        (ether.globalAddress.isZero = true → firstAcceptablePrefix ether.buffer = none) := by
    by_cases unset : ether.globalAddress.isZero = true
    · rw [imp_iff_right unset, foldl_globalAddress _ unset]
      change ((firstAcceptablePrefix ether.buffer).map ether.announcedAddress).getD _ = _ ↔ _
      rw [getD_map_eq_iff]
      refine ⟨fun same => ?_, fun none option found => ?_⟩
      · by_contra found
        obtain ⟨option, isFirst⟩ := Option.ne_none_iff_exists'.mp found
        have isZero := unset
        rw [← same option isFirst, announcedAddress, setEui64_not_isZero] at isZero
        cases isZero
      · rw [none] at found
        cases found
    · rw [foldl_keeps_globalAddress _ (Bool.eq_false_iff.mpr unset)]
      exact iff_of_true rfl fun isZero => absurd isZero unset
  constructor
  · intro same
    refine ⟨?_, ?_, keepsAddress.mp same.globalAddress⟩
    · exact (getD_map_eq_iff _ _ _).mp (router.symm.trans same.routerMac)
    · exact (getD_map_eq_iff _ _ _).mp (resolver.symm.trans same.dnsServerAddress)
  · intro keeps
    refine ⟨keepsAddress.mpr keeps.announced, ?_, ?_⟩
    · exact router.trans ((getD_map_eq_iff _ _ _).mpr keeps.router)
    · exact resolver.trans ((getD_map_eq_iff _ _ _).mpr keeps.resolver)

/-- The frame is an advertisement that changes an address. -/
structure ReceivesConfiguration (ether : EtherSia) (frame : Frame) : Prop where
  walks : WalksAdvertisement ether frame
  ends : ∀ option ∈ raOptionList (ether.accepted frame).buffer,
    (ether.accepted frame).buffer (option + 1) ≠ 0
  changes : ¬ (ether.accepted frame).KeepsConfiguration

theorem receivePacket_sameAddresses_iff (ether : EtherSia) (frame : Frame) :
    (∀ len after, ether.receivePacket frame = some (len, after) →
        SameAddresses ether after) ↔
      ¬ ether.ReceivesConfiguration frame := by
  have fromAccepted (after : EtherSia) :
      SameAddresses ether after ↔ SameAddresses (ether.accepted frame) after :=
    ⟨fun same => ⟨same.globalAddress, same.routerMac, same.dnsServerAddress⟩,
      fun same => ⟨same.globalAddress, same.routerMac, same.dnsServerAddress⟩⟩
  constructor
  · rintro keeps ⟨walks, ends, changes⟩
    have enabled : (ether.accepted frame).autoConfigurationEnabled = true := walks.enabled
    have returned := receivePacket_advertised walks.accepts walks.holds
    rw [icmp6ProcessRA_eq_foldl enabled ends] at returned
    exact changes ((foldl_sameAddresses_iff _).mp
      ((fromAccepted _).mp (keeps _ _ returned)))
  · intro keeps len after returned
    rcases receivePacket_sameAddresses_or_walks returned with same | ⟨walks, _⟩
    · exact same
    · have enabled : (ether.accepted frame).autoConfigurationEnabled = true := walks.enabled
      rw [fromAccepted, walks.returns_foldl returned, foldl_sameAddresses_iff]
      by_contra changes
      refine keeps ⟨walks, fun option member zero => ?_, changes⟩
      rw [receivePacket_advertised walks.accepts walks.holds,
        icmp6ProcessRA_eq_none enabled member zero] at returned
      cases returned

/-! ### Advertisements of neighbours -/

/-- A call of `discoverNeighbour` that receives the frame with the interface in this state
returns a MAC address there. -/
def DiscoversFrom (ether : EtherSia) (frame : Frame) (address : IPv6Address) : Prop :=
  ∃ (caller : EtherSia) (attempts : UInt8) (now : UInt32) (passes : Nat → DiscoveryPass)
    (discovery : Discovery) (mac : MACAddress) (after : EtherSia),
    Reaches (discoverPass address attempts passes) (caller.discoveryStart now) discovery ∧
      (solicitWhenDue address (passes discovery.passNumber) discovery).ether = ether ∧
        (passes discovery.passNumber).frame = frame ∧
          discoverPass address attempts passes discovery = .inr (some (some mac, after))

/-- The frame is accepted and is a neighbour advertisement for the address, of which the
options end. -/
structure ReceivesNeighbour (ether : EtherSia) (frame : Frame) (address : IPv6Address) :
    Prop where
  accepts : ether.Accepts frame
  isIcmp : protocol (ether.accepted frame).buffer = IP6_PROTO_ICMP6
  isNeighbour : ICMPv6Packet.type (ether.accepted frame).buffer = ICMP6_TYPE_NA
  expected : ICMPv6Packet.target (ether.accepted frame).buffer = address
  ends : ¬ (ether.accepted frame).EndlessNeighbour

theorem icmp6ProcessNA_mac_iff (ether : EtherSia) (address : IPv6Address) :
    (∃ mac, ether.icmp6ProcessNA address = some (some mac)) ↔
      ICMPv6Packet.target ether.buffer = address ∧ ¬ ether.EndlessNeighbour := by
  have stuck := icmp6ProcessNA_eq_none_iff ether address
  constructor
  · rintro ⟨mac, taken⟩
    have expected : ICMPv6Packet.target ether.buffer = address := by
      by_contra other
      unfold icmp6ProcessNA at taken
      rw [if_pos other] at taken
      cases taken
    refine ⟨expected, fun endless => ?_⟩
    rw [stuck.mpr ⟨expected, endless⟩] at taken
    cases taken
  · rintro ⟨expected, ends⟩
    cases walked : ether.icmp6ProcessNA address with
    | none => exact absurd (stuck.mp walked).2 ends
    | some result =>
        unfold icmp6ProcessNA at walked
        rw [if_neg (not_not.mpr expected)] at walked
        obtain ⟨mac, _, rfl⟩ := Option.map_eq_some_iff.mp walked
        exact ⟨mac, rfl⟩

/-- A caller whose solicitation is not due when the frame arrives. -/
def waitingPass (frame : Frame) : DiscoveryPass where
  testTime := 0
  restartTime := 0
  frame := frame

theorem discoversFrom_iff (ether : EtherSia) (frame : Frame) (address : IPv6Address) :
    ether.DiscoversFrom frame address ↔ ether.ReceivesNeighbour frame address := by
  constructor
  · rintro ⟨_, attempts, _, passes, discovery, mac, after, _, sameEther, sameFrame, leaves⟩
    unfold discoverPass at leaves
    dsimp only at leaves
    rw [sameEther, sameFrame] at leaves
    split_ifs at leaves
    · split at leaves
      · cases leaves
      · rename_i len received returned
        split_ifs at leaves with answers
        obtain ⟨nonzero, isIcmp, isNeighbour⟩ := answers
        obtain ⟨accepts, rfl⟩ := receivePacket_nonzero returned nonzero
        split at leaves
        · cases leaves
        · rename_i neighbourMac taken
          obtain ⟨expected, ends⟩ := (icmp6ProcessNA_mac_iff _ address).mp ⟨_, taken⟩
          exact ⟨accepts, isIcmp, isNeighbour, expected, ends⟩
        · cases leaves
    · cases leaves
  · rintro ⟨accepts, isIcmp, isNeighbour, expected, ends⟩
    obtain ⟨mac, taken⟩ := (icmp6ProcessNA_mac_iff _ address).mpr ⟨expected, ends⟩
    have returned := receivePacket_neighbour accepts isIcmp isNeighbour
    have nonzero := (frame_length_ne_zero_iff frame).mpr accepts.1
    have notDue : hasElapsed 0 1 0 = false := by decide
    refine ⟨ether, 1, 1, fun _ => waitingPass frame, ether.discoveryStart 1, mac,
      ether.accepted frame, .start, ?_, rfl, ?_⟩
    · unfold solicitWhenDue
      simp [waitingPass, discoveryStart, notDue]
    · unfold discoverPass solicitWhenDue
      simp only [waitingPass, discoveryStart, notDue]
      rw [if_pos (by decide)]
      simp only [Bool.false_eq_true, if_false]
      rw [returned]
      dsimp only
      rw [if_pos ⟨nonzero, isIcmp, isNeighbour⟩, taken]

/-! ### All of it -/

/-- The message has no effect: no address changes, nothing is advertised and no MAC
address is taken from it. -/
structure Disregards (ether : EtherSia) (frame : Frame) (address : IPv6Address) : Prop where
  configuration : ∀ len after, ether.receivePacket frame = some (len, after) →
    SameAddresses ether after
  notAdvertised : ∀ len after, ether.receivePacket frame = some (len, after) →
    ∀ target, ¬ Advertises target ether after
  notTaken : ¬ ether.DiscoversFrom frame address

/-- The frame is one of the three messages that the library acts on. -/
inductive ActsOn (ether : EtherSia) (frame : Frame) (address : IPv6Address) : Prop
  | configuration (receives : ether.ReceivesConfiguration frame)
  | solicitation (target : IPv6Address) (receives : ether.ReceivesSolicitation frame target)
  | neighbour (receives : ether.ReceivesNeighbour frame address)

end EtherSia

end EtherSiaStack
