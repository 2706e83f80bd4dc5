/-
Neighbour discovery, and when receiving returns control.

`discoverNeighbour` solicits up to `attempts` times and receives until an
advertisement answers.  Its time comes from `millis()` and its frames from the
network; both are given for every pass of the loop.  Every call returns exactly
when no frame it receives carries an option of length 0.
-/

import EtherSiaStack.OptionWalk

namespace EtherSiaStack

open ByteMemory IPv6Packet FuelLoop

def NEIGHBOUR_SOLICITATION_TIMEOUT : UInt32 := 500

/-- What one pass of the loop in `discoverNeighbour` gets from outside: its two
readings of `millis()` and the frame `readFrame` delivers. -/
structure DiscoveryPass where
  testTime : UInt32
  restartTime : UInt32
  frame : Frame

/-- The passes a call may see: whatever the deadline, the clock gets past it. -/
structure Surroundings where
  pass : Nat → DiscoveryPass
  clockRuns : ∀ (deadline : UInt32) (now : Nat),
    ∃ later, now ≤ later ∧ hasElapsed (pass later).testTime deadline 0 = true

/-- The locals of `discoverNeighbour`, the interface and the number of the pass. -/
structure Discovery where
  ether : EtherSia
  nextNeighbourSolicitation : UInt32
  count : UInt8
  passNumber : Nat

namespace EtherSia

/-- The address the Neighbour Solicitation is sent from. -/
def discoverySource (ether : EtherSia) (address : IPv6Address) : IPv6Address :=
  if address.isLinkLocal then ether.linkLocalAddress else ether.globalAddress

/-- The solicitation at the start of a pass, once it is due. -/
def solicitWhenDue (address : IPv6Address) (pass : DiscoveryPass)
    (discovery : Discovery) : Discovery :=
  if hasElapsed pass.testTime discovery.nextNeighbourSolicitation 0 then
    { discovery with
      ether := discovery.ether.icmp6SendNS address
        (discovery.ether.discoverySource address)
      nextNeighbourSolicitation := pass.restartTime + NEIGHBOUR_SOLICITATION_TIMEOUT
      count := discovery.count + 1 }
  else discovery

/-- One pass of the loop.  Leaving with `none` is a call inside the loop that
never returns. -/
def discoverPass (address : IPv6Address) (attempts : UInt8)
    (passes : Nat → DiscoveryPass) (discovery : Discovery) :
    Discovery ⊕ Option (Option MACAddress × EtherSia) :=
  if discovery.count < attempts then
    let pass := passes discovery.passNumber
    let discovery := solicitWhenDue address pass discovery
    match discovery.ether.receivePacket pass.frame with
    | none => .inr none
    | some (len, ether) =>
        let next := { discovery with
          ether := ether
          passNumber := discovery.passNumber + 1 }
        if len ≠ 0 ∧ protocol ether.buffer = IP6_PROTO_ICMP6 ∧
            ICMPv6Packet.type ether.buffer = ICMP6_TYPE_NA then
          match ether.icmp6ProcessNA address with
          | none => .inr none
          | some (some neighbourMac) => .inr (some (some neighbourMac, ether))
          | some none => .inl next
        else .inl next
  else .inr (some (none, discovery.ether))

/-- The loop as it starts; `now` is the first reading of `millis()`. -/
def discoveryStart (ether : EtherSia) (now : UInt32) : Discovery where
  ether := ether
  nextNeighbourSolicitation := now
  count := 0
  passNumber := 0

/-- The call returns the address or NULL, and the interface it leaves behind. -/
def DiscoverNeighbour (ether : EtherSia) (address : IPv6Address) (attempts : UInt8)
    (now : UInt32) (passes : Nat → DiscoveryPass)
    (result : Option MACAddress × EtherSia) : Prop :=
  Returns (discoverPass address attempts passes) (discoveryStart ether now) (some result)

/-! ### The two walks -/

theorem raOption_buffer (ether : EtherSia) (ptr : Nat) :
    (ether.raOption ptr).buffer = ether.buffer := by
  obtain ⟨_, _, _, same⟩ := raOption_configuresOnly ether ptr
  rw [same]

theorem raPass_walksOptions : WalksOptions raPass fun _ => False where
  ends := fun walk ended => ⟨walk.ether, if_neg ended⟩
  found := fun _walk _positive absurdity => absurdity.elim
  passes := fun walk positive _stays =>
    ⟨walk.ether.raOption walk.ptr, raOption_buffer _ _, if_pos positive⟩

theorem naPass_walksOptions :
    WalksOptions naPass fun type => type = ICMP6_OPTION_TARGET_LINK_ADDRESS where
  ends := fun walk ended => ⟨etherSource walk.ether.buffer, if_neg ended⟩
  found := fun walk positive isTarget => by
    refine ⟨⟨blockAt walk.ether.buffer (walk.ptr + 2)⟩, ?_⟩
    unfold naPass
    rw [if_pos positive, if_pos isTarget]
  passes := fun walk positive other => by
    refine ⟨walk.ether, rfl, ?_⟩
    unfold naPass
    rw [if_pos positive, if_neg other]

/-- The options of the router advertisement in the buffer hold one of length 0. -/
def EndlessAdvertisement (ether : EtherSia) : Prop :=
  ZeroLengthOption ether.buffer (fun _ => False) ICMPv6Packet.raOptions
    (optionBytes ether.buffer 16)

/-- The options of the neighbour advertisement in the buffer hold one of length
0, and no target link-layer address before it. -/
def EndlessNeighbour (ether : EtherSia) : Prop :=
  ZeroLengthOption ether.buffer (fun type => type = ICMP6_OPTION_TARGET_LINK_ADDRESS)
    ICMPv6Packet.naOptions (optionBytes ether.buffer 24)

theorem raWalk_returns_iff (ether : EtherSia) :
    (∃ after, Returns raPass ether.raWalk after) ↔ ¬ ether.EndlessAdvertisement := by
  rw [← not_diverges_iff, raPass_walksOptions.diverges_iff]
  rfl

theorem naWalk_returns_iff (ether : EtherSia) :
    (∃ mac, Returns naPass ether.naWalk mac) ↔ ¬ ether.EndlessNeighbour := by
  rw [← not_diverges_iff, naPass_walksOptions.diverges_iff]
  rfl

theorem icmp6ProcessRA_eq_none_iff (ether : EtherSia) :
    ether.icmp6ProcessRA = none ↔
      ether.autoConfigurationEnabled = true ∧ ether.EndlessAdvertisement := by
  unfold icmp6ProcessRA
  split
  · rename_i disabled
    simp [disabled]
  · rename_i enabled
    rw [raPass_walksOptions.run_eq_none_iff]
    exact (and_iff_right (by simpa using enabled)).symm

theorem icmp6ProcessNA_eq_none_iff (ether : EtherSia) (expected : IPv6Address) :
    ether.icmp6ProcessNA expected = none ↔
      ICMPv6Packet.target ether.buffer = expected ∧ ether.EndlessNeighbour := by
  unfold icmp6ProcessNA
  split
  · rename_i other
    exact iff_of_false (by simp) fun both => other both.1
  · rename_i same
    rw [Option.map_eq_none_iff, naPass_walksOptions.run_eq_none_iff]
    exact (and_iff_right (not_not.mp same)).symm

/-! ### Receiving -/

/-- The frame is accepted and is a router advertisement for us, of which the
options never end. -/
structure ReceivesEndlessAdvertisement (ether : EtherSia) (frame : Frame) : Prop where
  accepts : ether.Accepts frame
  isIcmp : protocol (ether.accepted frame).buffer = IP6_PROTO_ICMP6
  ours : ether.isOurAddress (destination (ether.accepted frame).buffer) ≠ none
  isAdvertisement : ICMPv6Packet.type (ether.accepted frame).buffer = ICMP6_TYPE_RA
  enabled : ether.autoConfigurationEnabled = true
  endless : (ether.accepted frame).EndlessAdvertisement

theorem icmp6ProcessPacket_eq_none_iff (ether : EtherSia) :
    ether.icmp6ProcessPacket = none ↔
      ether.isOurAddress (destination ether.buffer) ≠ none ∧
        ICMPv6Packet.type ether.buffer = ICMP6_TYPE_RA ∧ ether.icmp6ProcessRA = none := by
  unfold icmp6ProcessPacket
  split_ifs with notOurs isSolicitation isEcho isRouter
  · exact iff_of_false (by simp) fun all => all.1 notOurs
  · exact iff_of_false (by simp) fun all =>
      absurd (isSolicitation.symm.trans all.2.1) (by decide)
  · exact iff_of_false (by simp) fun all =>
      absurd (isEcho.symm.trans all.2.1) (by decide)
  · rw [Option.map_eq_none_iff]
    exact ⟨fun stuck => ⟨notOurs, isRouter, stuck⟩, fun all => all.2.2⟩
  · exact iff_of_false (by simp) fun all => isRouter all.2.1

theorem dispatchReceived_eq_none_iff (ether : EtherSia) (len : UInt16) :
    ether.dispatchReceived len = none ↔
      protocol ether.buffer = IP6_PROTO_ICMP6 ∧ ether.icmp6ProcessPacket = none := by
  unfold dispatchReceived
  split
  · rename_i isIcmp
    rw [Option.map_eq_none_iff]
    exact (and_iff_right isIcmp).symm
  · rename_i other
    exact iff_of_false (by simp) fun both => other both.1

theorem receivePacket_eq_none_iff (ether : EtherSia) (frame : Frame) :
    ether.receivePacket frame = none ↔ ether.ReceivesEndlessAdvertisement frame := by
  by_cases accepts : ether.Accepts frame
  · rw [receivePacket_of_accepts accepts, dispatchReceived_eq_none_iff,
      icmp6ProcessPacket_eq_none_iff, icmp6ProcessRA_eq_none_iff]
    constructor
    · rintro ⟨isIcmp, ours, isAdvertisement, enabled, endless⟩
      exact ⟨accepts, isIcmp, ours, isAdvertisement, enabled, endless⟩
    · intro receives
      exact ⟨receives.isIcmp, receives.ours, receives.isAdvertisement,
        receives.enabled, receives.endless⟩
  · rw [receivePacket_of_not_accepts accepts]
    exact iff_of_false (by simp) fun receives => accepts receives.accepts

/-- A length other than 0 is returned only for a packet left in the buffer as it
was received. -/
theorem receivePacket_nonzero {ether after : EtherSia} {frame : Frame} {len : UInt16}
    (returned : ether.receivePacket frame = some (len, after)) (nonzero : len ≠ 0) :
    ether.Accepts frame ∧ after = ether.accepted frame := by
  by_cases accepts : ether.Accepts frame
  · refine ⟨accepts, ?_⟩
    rw [receivePacket_of_accepts accepts] at returned
    refine dispatchReceived_cases returned (motive := fun result later =>
      result ≠ 0 → later = ether.accepted frame) ?_ ?_ ?_ ?_ nonzero
    · exact fun _ => rfl
    · exact fun _ answered => absurd rfl answered
    · exact fun _ answered => absurd rfl answered
    · exact fun _ _ _ handled => absurd rfl handled
  · rw [receivePacket_of_not_accepts accepts] at returned
    exact absurd (Prod.mk.inj (Option.some.inj returned)).1.symm nonzero

theorem receivePacket_neighbour {ether : EtherSia} {frame : Frame}
    (accepts : ether.Accepts frame)
    (isIcmp : protocol (ether.accepted frame).buffer = IP6_PROTO_ICMP6)
    (isNeighbour : ICMPv6Packet.type (ether.accepted frame).buffer = ICMP6_TYPE_NA) :
    ether.receivePacket frame =
      some (UInt16.ofNat frame.octets.length, ether.accepted frame) := by
  have unhandled : (ether.accepted frame).icmp6ProcessPacket =
      some (false, ether.accepted frame) := by
    unfold icmp6ProcessPacket
    split_ifs with notOurs isSolicitation isEcho isRouter
    · rfl
    · exact absurd (isSolicitation.symm.trans isNeighbour) (by decide)
    · exact absurd (isEcho.symm.trans isNeighbour) (by decide)
    · exact absurd (isRouter.symm.trans isNeighbour) (by decide)
    · rfl
  rw [receivePacket_of_accepts accepts]
  unfold dispatchReceived
  rw [if_pos isIcmp, unhandled]
  rfl

/-! ### Discovery -/

/-- The frame is accepted and is a neighbour advertisement for the address being
discovered, of which the options never end. -/
structure ReceivesEndlessNeighbour (ether : EtherSia) (address : IPv6Address)
    (frame : Frame) : Prop where
  accepts : ether.Accepts frame
  isIcmp : protocol (ether.accepted frame).buffer = IP6_PROTO_ICMP6
  isNeighbour : ICMPv6Packet.type (ether.accepted frame).buffer = ICMP6_TYPE_NA
  expected : ICMPv6Packet.target (ether.accepted frame).buffer = address
  endless : (ether.accepted frame).EndlessNeighbour

/-- The pass receives a frame with options that never end. -/
def PassNeverEnds (address : IPv6Address) (attempts : UInt8)
    (passes : Nat → DiscoveryPass) (discovery : Discovery) : Prop :=
  let pass := passes discovery.passNumber
  let ether := (solicitWhenDue address pass discovery).ether
  discovery.count < attempts ∧
    (ether.ReceivesEndlessAdvertisement pass.frame ∨
      ether.ReceivesEndlessNeighbour address pass.frame)

theorem discoverPass_eq_inr_none_iff (address : IPv6Address) (attempts : UInt8)
    (passes : Nat → DiscoveryPass) (discovery : Discovery) :
    discoverPass address attempts passes discovery = .inr none ↔
      PassNeverEnds address attempts passes discovery := by
  unfold discoverPass PassNeverEnds
  dsimp only
  generalize passes discovery.passNumber = pass
  generalize solicitWhenDue address pass discovery = solicited
  by_cases going : discovery.count < attempts
  · rw [if_pos going, and_iff_right going, ← receivePacket_eq_none_iff]
    cases received : solicited.ether.receivePacket pass.frame with
    | none => simp
    | some result =>
        obtain ⟨len, after⟩ := result
        dsimp only
        rw [or_iff_right (by simp)]
        constructor
        · intro stuck
          split_ifs at stuck with answers
          obtain ⟨nonzero, isIcmp, isNeighbour⟩ := answers
          obtain ⟨accepts, rfl⟩ := receivePacket_nonzero received nonzero
          split at stuck
          · rename_i walked
            obtain ⟨expected, endless⟩ := (icmp6ProcessNA_eq_none_iff _ _).mp walked
            exact ⟨accepts, isIcmp, isNeighbour, expected, endless⟩
          · cases stuck
          · cases stuck
        · intro receives
          rw [receivePacket_neighbour receives.accepts receives.isIcmp
            receives.isNeighbour] at received
          cases received
          have nonzero := (frame_length_ne_zero_iff pass.frame).mpr receives.accepts.1
          rw [if_pos ⟨nonzero, receives.isIcmp, receives.isNeighbour⟩,
            (icmp6ProcessNA_eq_none_iff _ address).mpr
              ⟨receives.expected, receives.endless⟩]
  · rw [if_neg going]
    exact iff_of_false (by simp) fun both => going both.1

/-- A pass that goes on has received one frame, and has solicited if it was due. -/
theorem discoverPass_continues {address : IPv6Address} {attempts : UInt8}
    {passes : Nat → DiscoveryPass} {discovery next : Discovery}
    (continues : discoverPass address attempts passes discovery = .inl next) :
    let solicited := solicitWhenDue address (passes discovery.passNumber) discovery
    discovery.count < attempts ∧ next.passNumber = discovery.passNumber + 1 ∧
      next.count = solicited.count ∧
        next.nextNeighbourSolicitation = solicited.nextNeighbourSolicitation := by
  have samePass : (solicitWhenDue address (passes discovery.passNumber)
      discovery).passNumber = discovery.passNumber := by
    unfold solicitWhenDue
    split <;> rfl
  unfold discoverPass at continues
  dsimp only at continues ⊢
  split_ifs at continues with going
  refine ⟨going, ?_⟩
  split at continues
  · cases continues
  · split_ifs at continues
    · split at continues
      · cases continues
      · cases continues
      · cases continues
        exact ⟨congrArg (· + 1) samePass, rfl, rfl⟩
    · cases continues
      exact ⟨congrArg (· + 1) samePass, rfl, rfl⟩

/-- The deadline passes in the end: the loop returns before that, or it gets to a
pass with one more solicitation sent. -/
theorem discoverPass_returns_or_solicits (address : IPv6Address) (attempts : UInt8)
    (surroundings : Surroundings) (discovery : Discovery) :
    (∃ result, Returns (discoverPass address attempts surroundings.pass) discovery
        result) ∨
      ∃ next, Reaches (discoverPass address attempts surroundings.pass) discovery next ∧
        discovery.count < attempts ∧ next.count = discovery.count + 1 := by
  obtain ⟨later, notBefore, due⟩ := surroundings.clockRuns
    discovery.nextNeighbourSolicitation discovery.passNumber
  obtain ⟨wait, isLater⟩ := Nat.exists_eq_add_of_le notBefore
  -- induction on the passes until the solicitation is due
  induction wait using Nat.strong_induction_on generalizing discovery with
  | _ wait ih =>
      cases pass : discoverPass address attempts surroundings.pass discovery with
      | inr result => exact Or.inl ⟨result, 1, run_leave pass 0⟩
      | inl next =>
          obtain ⟨going, numbered, counted, deadline⟩ := discoverPass_continues pass
          by_cases solicits : hasElapsed
              (surroundings.pass discovery.passNumber).testTime
              discovery.nextNeighbourSolicitation 0 = true
          · rw [solicitWhenDue, if_pos solicits] at counted
            exact Or.inr ⟨next, .next .start pass, going, counted⟩
          · rw [solicitWhenDue, if_neg solicits] at counted deadline
            have waits : wait ≠ 0 := fun now => by
              rw [now, Nat.add_zero] at isLater
              exact solicits (isLater ▸ due)
            rcases ih (wait - 1) (by omega) next (by omega) (deadline ▸ due) (by omega)
              with ⟨result, returns⟩ | ⟨final, reached, below, raised⟩
            · exact Or.inl ⟨result, returns.head pass⟩
            · exact Or.inr ⟨final, reached.head pass, going, counted ▸ raised⟩

/-- With a clock that runs the loop is left: the count of solicitations is
bounded. -/
theorem discoverPass_leaves (address : IPv6Address) (attempts : UInt8)
    (surroundings : Surroundings) (discovery : Discovery) :
    ∃ result, Returns (discoverPass address attempts surroundings.pass) discovery
      result := by
  induction budget : attempts.toNat - discovery.count.toNat using Nat.strong_induction_on
    generalizing discovery with
  | _ budget ih =>
      rcases discoverPass_returns_or_solicits address attempts surroundings discovery with
        returns | ⟨next, reached, going, counted⟩
      · exact returns
      · have below := UInt8.lt_iff_toNat_lt.mp going
        have bound : attempts.toNat < 256 := attempts.toNat_lt
        have raised : next.count.toNat = discovery.count.toNat + 1 := by
          have wraps := UInt8.toNat_add discovery.count 1
          rw [counted, wraps]
          exact Nat.mod_eq_of_lt (by change discovery.count.toNat + 1 < 256; omega)
        obtain ⟨result, returns⟩ := ih _ (by omega) next rfl
        exact ⟨result, reached.returns returns⟩

/-- Discovery returns exactly when no pass it gets to receives options that never
end. -/
theorem discoverNeighbour_returns_iff (ether : EtherSia) (address : IPv6Address)
    (attempts : UInt8) (now : UInt32) (surroundings : Surroundings) :
    (∃ result, ether.DiscoverNeighbour address attempts now surroundings.pass result) ↔
      ∀ discovery, Reaches (discoverPass address attempts surroundings.pass)
        (discoveryStart ether now) discovery →
          ¬ PassNeverEnds address attempts surroundings.pass discovery := by
  obtain ⟨outcome, left⟩ := discoverPass_leaves address attempts surroundings
    (discoveryStart ether now)
  constructor
  · rintro ⟨result, returns⟩ discovery reached stuck
    have never := returns_iff_reaches.mpr
      ⟨discovery, reached, (discoverPass_eq_inr_none_iff _ _ _ _).mpr stuck⟩
    cases returns.result_unique never
  · intro allEnd
    obtain ⟨discovery, reached, leaves⟩ := returns_iff_reaches.mp left
    cases outcome with
    | none =>
        exact absurd ((discoverPass_eq_inr_none_iff _ _ _ _).mp leaves)
          (allEnd discovery reached)
    | some result => exact ⟨result, left⟩

/-! ### Control comes back -/

/-- A router advertisement with one option, of length 0. -/
def zeroLengthAdvertisement : Frame :=
  exampleFrame 24 IP6_PROTO_ICMP6
    [134, 0, 0x36, 0xa0, 64, 0, 7, 8, 0, 0, 0, 0, 0, 0, 0, 0, 1, 0, 0, 0, 0, 0, 0, 0]
    (by decide)

end EtherSia

end EtherSiaStack
