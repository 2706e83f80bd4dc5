/-
The scope of the address that auto-configuration assigns.

`icmp6ProcessPrefix` looks at the flags and the length of a prefix and not at the prefix
itself.  The address starts with the first 64 bits announced, so it is link-local or
multicast exactly when the first acceptable prefix is.
-/

import EtherSiaStack.OptionList

namespace EtherSiaStack

open ByteMemory IPv6Packet FuelLoop Trace

def ROUTER_SOLICITATION_TIMEOUT : UInt32 := 3000
def ROUTER_SOLICITATION_ATTEMPTS : UInt8 := 4

namespace IPv6Address

theorem type_setEui64 (address : IPv6Address) (mac : MACAddress) :
    (address.setEui64 mac).type = address.type :=
  rfl

theorem type_of_isZero {address : IPv6Address} (isZero : address.isZero = true) :
    address.type = .global := by
  have zeros : ∀ index, address.octet index = 0 := of_decide_eq_true isZero
  unfold type isMulticast isLinkLocal
  rw [zeros 0]
  rfl

end IPv6Address

/-- The locals of `icmp6AutoConfigure`, the interface and the number of the pass. -/
structure RouterDiscovery where
  ether : EtherSia
  nextRouterSolicitation : UInt32
  count : UInt8
  passNumber : Nat

namespace EtherSia

/-! ### The loop -/

/-- The solicitation at the start of a pass, once it is due. -/
def solicitRouterWhenDue (pass : DiscoveryPass) (discovery : RouterDiscovery) :
    RouterDiscovery :=
  if hasElapsed pass.testTime discovery.nextRouterSolicitation 0 then
    { discovery with
      ether := discovery.ether.icmp6SendRS
      nextRouterSolicitation := pass.restartTime + ROUTER_SOLICITATION_TIMEOUT
      count := discovery.count + 1 }
  else discovery

/-- One pass of the loop in `icmp6AutoConfigure`.  Leaving with `none` is a call inside
the loop that never returns. -/
def autoConfigurePass (passes : Nat → DiscoveryPass) (discovery : RouterDiscovery) :
    RouterDiscovery ⊕ Option (Bool × EtherSia) :=
  if discovery.ether.globalAddress.isZero then
    let pass := passes discovery.passNumber
    let discovery := solicitRouterWhenDue pass discovery
    match discovery.ether.receivePacket pass.frame with
    | none => .inr none
    | some (_, ether) =>
        if discovery.count > ROUTER_SOLICITATION_ATTEMPTS then .inr (some (false, ether))
        else .inl { discovery with
          ether := ether
          passNumber := discovery.passNumber + 1 }
  else
    -- we have a global address
    .inr (some (true, discovery.ether))

/-- The loop as it starts; `now` is the first reading of `millis()`. -/
def routerDiscoveryStart (ether : EtherSia) (now : UInt32) : RouterDiscovery where
  ether := ether
  nextRouterSolicitation := now
  count := 0
  passNumber := 0

/-- `icmp6AutoConfigure` returns this, and leaves this interface behind. -/
def Icmp6AutoConfigure (ether : EtherSia) (now : UInt32) (passes : Nat → DiscoveryPass)
    (result : Bool × EtherSia) : Prop :=
  Returns (autoConfigurePass passes) (ether.routerDiscoveryStart now) (some result)

/-! ### One frame -/

def firstAcceptablePrefix (memory : Memory) : Option Nat :=
  (raOptionList memory).find? fun option => PrefixInformationAt memory option

/-- If the frame is an advertisement that may set the address, the first acceptable
prefix in it is neither link-local nor multicast. -/
def FirstPrefixGlobal (ether : EtherSia) (frame : Frame) : Prop :=
  WalksAdvertisement ether frame → ether.globalAddress.isZero = true →
    ∀ option, firstAcceptablePrefix (ether.accepted frame).buffer = some option →
      (IPv6Address.mk (blockAt (ether.accepted frame).buffer (option + 16))).type = .global

theorem WalksAdvertisement.holds {ether : EtherSia} {frame : Frame}
    (walks : WalksAdvertisement ether frame) :
    (ether.accepted frame).HoldsMessage ICMP6_TYPE_RA :=
  ⟨walks.isIcmp, walks.ours, walks.isAdvertisement⟩

/-- A walk that ends is a fold over the options. -/
theorem WalksAdvertisement.returns_foldl {ether after : EtherSia} {frame : Frame}
    {len : UInt16} (walks : WalksAdvertisement ether frame)
    (returned : ether.receivePacket frame = some (len, after)) :
    after = (raOptionList (ether.accepted frame).buffer).foldl raOption
      (ether.accepted frame) := by
  have enabled : (ether.accepted frame).autoConfigurationEnabled = true := walks.enabled
  rw [receivePacket_advertised walks.accepts walks.holds] at returned
  obtain ⟨walked, processed, same⟩ := Option.map_eq_some_iff.mp returned
  have nonzero : ∀ option ∈ raOptionList (ether.accepted frame).buffer,
      (ether.accepted frame).buffer (option + 1) ≠ 0 := by
    intro option member zero
    rw [icmp6ProcessRA_eq_none enabled member zero] at processed
    cases processed
  rw [icmp6ProcessRA_eq_foldl enabled nonzero] at processed
  exact ((Option.some.inj processed).trans (Prod.mk.inj same).2).symm

/-- Step lemma: the scope stays global exactly when no other prefix is taken. -/
theorem receivePacket_type_iff {ether after : EtherSia} {frame : Frame} {len : UInt16}
    (returned : ether.receivePacket frame = some (len, after))
    (isGlobal : ether.globalAddress.type = .global) :
    after.globalAddress.type = .global ↔ ether.FirstPrefixGlobal frame := by
  by_cases walks : WalksAdvertisement ether frame
  · rw [walks.returns_foldl returned]
    by_cases unset : ether.globalAddress.isZero = true
    · have acceptedUnset : (ether.accepted frame).globalAddress.isZero = true := unset
      have configured := foldl_globalAddress (raOptionList (ether.accepted frame).buffer)
        acceptedUnset
      have isFirst : (raOptionList (ether.accepted frame).buffer).find?
            (fun option => PrefixInformationAt (ether.accepted frame).buffer option) =
          firstAcceptablePrefix (ether.accepted frame).buffer := rfl
      rw [configured, isFirst]
      unfold FirstPrefixGlobal
      rw [imp_iff_right walks, imp_iff_right unset]
      cases firstAcceptablePrefix (ether.accepted frame).buffer with
      | none => exact iff_of_true isGlobal nofun
      | some option =>
          rw [Option.map_some, Option.getD_some, announcedAddress,
            IPv6Address.type_setEui64]
          simp only [Option.some.injEq, forall_eq']
    · have taken : (ether.accepted frame).globalAddress.isZero = false :=
        Bool.eq_false_iff.mpr unset
      rw [foldl_keeps_globalAddress _ taken]
      exact iff_of_true isGlobal fun _ isZero => absurd isZero unset
  · have same := (receivePacket_sameAddresses_or_walks returned).resolve_right
      fun walking => walks walking.1
    rw [same.globalAddress]
    exact iff_of_true isGlobal fun walking => absurd walking walks

/-! ### The loop and its frames -/

theorem solicitRouterWhenDue_sameAddresses (pass : DiscoveryPass)
    (discovery : RouterDiscovery) :
    SameAddresses discovery.ether (solicitRouterWhenDue pass discovery).ether := by
  unfold solicitRouterWhenDue
  split
  · exact discovery.ether.icmp6SendRS_sameSettings.toSameAddresses
  · exact ⟨rfl, rfl, rfl⟩

/-- The frame that a pass receives meets the condition. -/
def PassTakesGlobal (passes : Nat → DiscoveryPass) (discovery : RouterDiscovery) : Prop :=
  (solicitRouterWhenDue (passes discovery.passNumber) discovery).ether.FirstPrefixGlobal
    (passes discovery.passNumber).frame

theorem autoConfigurePass_next {passes : Nat → DiscoveryPass}
    {discovery next : RouterDiscovery}
    (continues : autoConfigurePass passes discovery = .inl next) :
    ∃ len, (solicitRouterWhenDue (passes discovery.passNumber) discovery).ether.receivePacket
      (passes discovery.passNumber).frame = some (len, next.ether) := by
  unfold autoConfigurePass at continues
  split_ifs at continues
  dsimp only at continues
  split at continues
  · cases continues
  · rename_i len ether returned
    split_ifs at continues
    rw [← Sum.inl.inj continues]
    exact ⟨len, returned⟩

theorem autoConfigurePass_true {passes : Nat → DiscoveryPass} {discovery : RouterDiscovery}
    {after : EtherSia}
    (leaves : autoConfigurePass passes discovery = .inr (some (true, after))) :
    discovery.ether.globalAddress.isZero = false ∧ after = discovery.ether := by
  unfold autoConfigurePass at leaves
  split_ifs at leaves with unset
  · dsimp only at leaves
    split at leaves
    · cases leaves
    · split_ifs at leaves
      cases leaves
  · cases leaves
    exact ⟨by simpa using unset, rfl⟩

theorem reaches_type {passes : Nat → DiscoveryPass} {start discovery : RouterDiscovery}
    (initial : start.ether.globalAddress.type = .global)
    (reached : Reaches (autoConfigurePass passes) start discovery)
    (allGlobal : ∀ other, Reaches (autoConfigurePass passes) start other →
      PassTakesGlobal passes other) :
    discovery.ether.globalAddress.type = .global := by
  induction reached with
  | start => exact initial
  | next before continues ih =>
      obtain ⟨len, returned⟩ := autoConfigurePass_next continues
      refine (receivePacket_type_iff returned ?_).mpr (allGlobal _ before)
      rw [(solicitRouterWhenDue_sameAddresses _ _).globalAddress]
      exact ih

/-- A call that returns true has configured a global address exactly when each frame it
received meets the condition. -/
theorem icmp6AutoConfigure_global_iff {ether after : EtherSia} {now : UInt32}
    {passes : Nat → DiscoveryPass} (unset : ether.globalAddress.isZero = true)
    (configured : ether.Icmp6AutoConfigure now passes (true, after)) :
    after.globalAddress.isZero = false ∧ after.globalAddress.type = .global ↔
      ∀ discovery, Reaches (autoConfigurePass passes) (ether.routerDiscoveryStart now)
        discovery → PassTakesGlobal passes discovery := by
  have initial : (ether.routerDiscoveryStart now).ether.globalAddress.type = .global :=
    IPv6Address.type_of_isZero unset
  obtain ⟨last, reachesLast, leaves⟩ := returns_iff_reaches.mp configured
  obtain ⟨taken, isAfter⟩ := autoConfigurePass_true leaves
  constructor
  · rintro ⟨_, isGlobal⟩ discovery reached
    by_contra takesOther
    let solicited := solicitRouterWhenDue (passes discovery.passNumber) discovery
    have same : SameAddresses discovery.ether solicited.ether :=
      solicitRouterWhenDue_sameAddresses _ _
    have wasUnset : discovery.ether.globalAddress.isZero = true := by
      by_contra set
      refine takesOther fun _ stillUnset => absurd ?_ set
      rw [← same.globalAddress]
      exact stillUnset
    have wasGlobal : solicited.ether.globalAddress.type = .global := by
      rw [same.globalAddress]
      exact IPv6Address.type_of_isZero wasUnset
    -- the pass receives an advertisement and takes a prefix of another scope from it
    have pass : autoConfigurePass passes discovery = match solicited.ether.receivePacket
        (passes discovery.passNumber).frame with
      | none => .inr none
      | some (_, ether) =>
          if solicited.count > ROUTER_SOLICITATION_ATTEMPTS then .inr (some (false, ether))
          else .inl { solicited with
            ether := ether
            passNumber := solicited.passNumber + 1 } := by
      unfold autoConfigurePass
      exact if_pos wasUnset
    cases returned : solicited.ether.receivePacket (passes discovery.passNumber).frame with
    | none =>
        rw [returned] at pass
        have stuck := reached.returns ⟨1, run_leave pass 0⟩
        cases Returns.result_unique configured stuck
    | some result =>
        obtain ⟨len, received⟩ := result
        rw [returned] at pass
        dsimp only at pass
        have otherScope : ¬ received.globalAddress.type = .global :=
          mt (receivePacket_type_iff returned wasGlobal).mp takesOther
        split_ifs at pass
        · have fails := reached.returns ⟨1, run_leave pass 0⟩
          cases Returns.result_unique configured fails
        · have nonzero : ¬ received.globalAddress.isZero = true := fun isZero =>
            otherScope (IPv6Address.type_of_isZero isZero)
          have leavesNext : autoConfigurePass passes
              { solicited with ether := received, passNumber := solicited.passNumber + 1 } =
                .inr (some (true, received)) := if_neg nonzero
          have succeeds := (reached.next pass).returns ⟨1, run_leave leavesNext 0⟩
          have sameAfter := Returns.result_unique configured succeeds
          rw [(Prod.mk.inj (Option.some.inj sameAfter)).2] at isGlobal
          exact otherScope isGlobal
  · intro allGlobal
    rw [isAfter]
    exact ⟨taken, reaches_type initial reachesLast allGlobal⟩

end EtherSia

/-! ### Runs -/

section Runs

variable {ι : Type} [DecidableEq ι]

theorem Station.step_type_iff {taken : Taken (Station ι) (StationEvent ι)}
    (stepped : taken.before.step taken.event = some taken.after)
    (isGlobal : taken.before.ether.globalAddress.type = .global)
    (notConfigured : ∀ globalAddress dnsServerAddress routerMac enabled,
      taken.event ≠ .configure globalAddress dnsServerAddress routerMac enabled) :
    taken.after.ether.globalAddress.type = .global ↔
      ∀ frame, taken.event = .receivePacket frame →
        taken.before.ether.FirstPrefixGlobal frame := by
  by_cases receives : ∃ frame, taken.event = .receivePacket frame
  · obtain ⟨frame, isReceive⟩ := receives
    rw [isReceive] at stepped ⊢
    obtain ⟨⟨len, after⟩, returned, isAfter⟩ := Option.map_eq_some_iff.mp stepped
    have sameAfter : taken.after.ether = after := by
      rw [← isAfter]
    rw [sameAfter, EtherSia.receivePacket_type_iff returned isGlobal]
    simp only [StationEvent.receivePacket.injEq, forall_eq']
  · have other (frame : Frame) : taken.event ≠ .receivePacket frame :=
      fun isReceive => receives ⟨frame, isReceive⟩
    have same := Station.step_sameAddresses stepped other notConfigured
    rw [same.globalAddress]
    exact iff_of_true isGlobal fun frame isReceive => absurd isReceive (other frame)

/-- From a zero address, auto-configuration assigns addresses of global scope exactly
when every prefix it takes is global: in each state of a run, and where
`icmp6AutoConfigure` returns true. -/
theorem run_assigns_global_iff (station : Station ι)
    (unset : station.ether.globalAddress.isZero = true) (events : List (StationEvent ι))
    (notConfigured : ∀ event ∈ events, ∀ globalAddress dnsServerAddress routerMac enabled,
      event ≠ .configure globalAddress dnsServerAddress routerMac enabled) :
    (Always Station.step station events
        (fun taken => taken.after.ether.globalAddress.type = .global) ↔
      Always Station.step station events (fun taken =>
        ∀ frame, taken.event = .receivePacket frame →
          taken.before.ether.FirstPrefixGlobal frame)) ∧
    ∀ now passes after,
      station.ether.Icmp6AutoConfigure now passes (true, after) →
        (after.globalAddress.isZero = false ∧ after.globalAddress.type = .global ↔
          ∀ discovery, Reaches (EtherSia.autoConfigurePass passes)
            (station.ether.routerDiscoveryStart now) discovery →
              EtherSia.PassTakesGlobal passes discovery) := by
  have initial : station.ether.globalAddress.type = .global :=
    IPv6Address.type_of_isZero unset
  have configures : Always Station.step station events
      (fun taken => ∀ globalAddress dnsServerAddress routerMac enabled,
        taken.event ≠ .configure globalAddress dnsServerAddress routerMac enabled) :=
    fun taken member => notConfigured _ (event_mem_of_mem_trace member)
  refine ⟨⟨fun always => ?_, fun always => ?_⟩,
    fun _ _ _ => EtherSia.icmp6AutoConfigure_global_iff unset⟩
  · refine always_of_invariant (fun station : Station ι =>
      station.ether.globalAddress.type = .global) ?_ ?_ initial
      (fun taken member => And.intro (configures taken member) (always taken member))
    · exact fun taken _ _ meets => meets.2
    · exact fun taken stepped isGlobal meets =>
        (Station.step_type_iff stepped isGlobal meets.1).mp meets.2
  · refine always_of_invariant (fun station : Station ι =>
      station.ether.globalAddress.type = .global) ?_ ?_ initial
      (fun taken member => And.intro (configures taken member) (always taken member))
    · exact fun taken stepped isGlobal meets =>
        (Station.step_type_iff stepped isGlobal meets.1).mpr meets.2
    · exact fun taken stepped isGlobal meets =>
        (Station.step_type_iff stepped isGlobal meets.1).mpr meets.2

/-- An advertisement of the prefix fe80::/64, with both flags. -/
def linkLocalPrefix : Frame :=
  exampleFrame 48 IP6_PROTO_ICMP6 [134, 0, 0xe7, 0x32, 64, 0, 7, 8, 0, 0, 0, 0, 0, 0, 0, 0,
    3, 4, 64, 0xc0, 0, 0, 7, 8, 0, 0, 7, 8, 0, 0, 0, 0,
    0xfe, 0x80, 0, 0, 0, 0, 0, 0, 0, 0, 0, 0, 0, 0, 0, 0] (by decide)

/-- One reception of it leaves a link-local global address, and `icmp6AutoConfigure`
returns true with it. -/
theorem linkLocal_prefix_assigned :
    exampleStation.ether.globalAddress.isZero = true ∧
      ¬ Always Station.step exampleStation [.receivePacket linkLocalPrefix]
        (fun taken => taken.after.ether.globalAddress.type = .global) ∧
      ∃ after, exampleStation.ether.Icmp6AutoConfigure 0
          (fun _ => ⟨0, 0, linkLocalPrefix⟩) (true, after) ∧
        after.globalAddress.type = .linkLocal := by
  refine ⟨by decide, by decide +kernel, ?_⟩
  have returns : (FuelLoop.run
      (EtherSia.autoConfigurePass fun _ => ⟨0, 0, linkLocalPrefix⟩) 2
      (exampleStation.ether.routerDiscoveryStart 0)).map (Option.map fun result =>
        (result.1, result.2.globalAddress.type)) = some (some (true, .linkLocal)) := by
    decide +kernel
  obtain ⟨result, returned, outcome⟩ := Option.map_eq_some_iff.mp returns
  obtain ⟨⟨success, after⟩, rfl, same⟩ := Option.map_eq_some_iff.mp outcome
  obtain ⟨rfl, isLinkLocal⟩ := Prod.mk.inj same
  exact ⟨after, ⟨2, returned⟩, isLinkLocal⟩

theorem run_assigns_global_iff_linkLocal :
    (Always Station.step exampleStation [.receivePacket linkLocalPrefix]
        (fun taken => taken.after.ether.globalAddress.type = .global) ↔
      Always Station.step exampleStation [.receivePacket linkLocalPrefix] (fun taken =>
        ∀ frame, taken.event = .receivePacket frame →
          taken.before.ether.FirstPrefixGlobal frame)) ∧
    ∀ now passes after,
      exampleStation.ether.Icmp6AutoConfigure now passes (true, after) →
        (after.globalAddress.isZero = false ∧ after.globalAddress.type = .global ↔
          ∀ discovery, Reaches (EtherSia.autoConfigurePass passes)
            (exampleStation.ether.routerDiscoveryStart now) discovery →
              EtherSia.PassTakesGlobal passes discovery) :=
  run_assigns_global_iff exampleStation (by decide) [.receivePacket linkLocalPrefix] (by
    intro event member
    rw [List.mem_singleton.mp member]
    exact nofun)

end Runs

end EtherSiaStack
