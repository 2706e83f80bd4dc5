/-
Answers that come within the timeout.

An answer is what the loop would take in any state of the station it can get to.  Each
loop takes one that is read in time after a solicitation, unless it has given up by then:
`discoverNeighbour` and `lookupHostname` look at one frame more after their last
solicitation, `icmp6AutoConfigure` at none that could help.
-/

import EtherSiaStack.RetryLoops

namespace EtherSiaStack

open ByteMemory IPv6Packet FuelLoop

/-! ### What receiving keeps of a station -/

/-- The station is the same but for a global address set since. -/
structure SameStation (before after : EtherSia) : Prop where
  localMac : after.localMac = before.localMac
  linkLocalAddress : after.linkLocalAddress = before.linkLocalAddress
  autoConfigurationEnabled :
    after.autoConfigurationEnabled = before.autoConfigurationEnabled
  globalAddress : before.globalAddress.isZero = false →
    after.globalAddress = before.globalAddress

theorem SameStation.refl (ether : EtherSia) : SameStation ether ether :=
  ⟨rfl, rfl, rfl, fun _ => rfl⟩

theorem SameStation.trans {first second third : EtherSia} (left : SameStation first second)
    (right : SameStation second third) : SameStation first third where
  localMac := right.localMac.trans left.localMac
  linkLocalAddress := right.linkLocalAddress.trans left.linkLocalAddress
  autoConfigurationEnabled :=
    right.autoConfigurationEnabled.trans left.autoConfigurationEnabled
  globalAddress := fun taken => by
    have kept := left.globalAddress taken
    have stillTaken : second.globalAddress.isZero = false := by
      rw [kept]
      exact taken
    exact (right.globalAddress stillTaken).trans kept

namespace EtherSia

theorem modifyPacket_sameStation (ether : EtherSia) (change : Memory → Memory) :
    SameStation ether (ether.modifyPacket change) :=
  ⟨rfl, rfl, rfl, fun _ => rfl⟩

theorem prepareSend_sameStation (ether : EtherSia) : SameStation ether ether.prepareSend :=
  ⟨rfl, rfl, rfl, fun _ => rfl⟩

theorem prepareReply_sameStation (ether : EtherSia) :
    SameStation ether ether.prepareReply :=
  ⟨rfl, rfl, rfl, fun _ => rfl⟩

theorem modifyPacket_send_sameStation {before ether : EtherSia}
    (same : SameStation before ether) (change : Memory → Memory) :
    SameStation before (ether.modifyPacket change).send :=
  (same.trans (ether.modifyPacket_sameStation change)).trans ⟨rfl, rfl, rfl, fun _ => rfl⟩

theorem icmp6PacketSend_sameStation {before ether : EtherSia}
    (same : SameStation before ether) (change : Memory → Memory) :
    SameStation before (ether.modifyPacket change).icmp6PacketSend := by
  unfold icmp6PacketSend
  exact modifyPacket_send_sameStation
    (same.trans (ether.modifyPacket_sameStation change)) _

theorem icmp6SendNS_sameStation (ether : EtherSia) (target source : IPv6Address) :
    SameStation ether (ether.icmp6SendNS target source) :=
  icmp6PacketSend_sameStation
    ((ether.modifyPacket_sameStation _).trans (prepareSend_sameStation _)) _

theorem icmp6SendRS_sameStation (ether : EtherSia) :
    SameStation ether ether.icmp6SendRS :=
  icmp6PacketSend_sameStation ether.prepareSend_sameStation _

theorem receivePacket_sameStation {ether after : EtherSia} {frame : Frame} {len : UInt16}
    (returned : ether.receivePacket frame = some (len, after)) :
    SameStation ether after := by
  have held : SameStation ether (ether.accepted frame) := ⟨rfl, rfl, rfl, fun _ => rfl⟩
  have kept := (duringReceive_obeys (Or.inl ⟨len, returned⟩)).kept
  refine receivePacket_cases returned (motive := fun later =>
    (ether.globalAddress.isZero = false → later.globalAddress = ether.globalAddress) →
      SameStation ether later) ?_ ?_ ?_ ?_ ?_ kept
  · exact fun _ _ => ⟨rfl, rfl, rfl, fun _ => rfl⟩
  · exact fun _ _ => held
  · intro _ _ _
    refine held.trans ?_
    unfold icmp6NSReply
    dsimp only
    split
    · exact SameStation.refl _
    · exact icmp6PacketSend_sameStation (prepareReply_sameStation _) _
  · exact fun _ _ _ => held.trans (icmp6PacketSend_sameStation (prepareReply_sameStation _) _)
  · intro _ _ walked walks keeps
    obtain ⟨_, _, _, rfl⟩ := icmp6ProcessRA_configuresOnly walks
    exact ⟨rfl, rfl, rfl, keeps⟩

/-! ### discoverNeighbour -/

/-- The frame is a neighbour advertisement for the address, and its options end. -/
structure AnsweredBy (ether : EtherSia) (address : IPv6Address) (frame : Frame) :
    Prop where
  accepts : ether.Accepts frame
  isIcmp : protocol (ether.accepted frame).buffer = IP6_PROTO_ICMP6
  isNeighbour : ICMPv6Packet.type (ether.accepted frame).buffer = ICMP6_TYPE_NA
  expected : ICMPv6Packet.target (ether.accepted frame).buffer = address
  ends : ¬(ether.accepted frame).EndlessNeighbour

/-- A valid answer: the station takes it whatever its buffer holds. -/
def Answers (ether : EtherSia) (address : IPv6Address) (frame : Frame) : Prop :=
  ∀ other, SameStation ether other → other.AnsweredBy address frame

/-- What the pass from this state receives answers it. -/
def PassAnswered (address : IPv6Address) (passes : Nat → DiscoveryPass)
    (discovery : Discovery) : Prop :=
  (solicitWhenDue address (passes discovery.passNumber) discovery).ether.AnsweredBy address
    (passes discovery.passNumber).frame

theorem solicitWhenDue_sameStation (address : IPv6Address) (pass : DiscoveryPass)
    (discovery : Discovery) :
    SameStation discovery.ether (solicitWhenDue address pass discovery).ether := by
  unfold solicitWhenDue
  split
  · exact icmp6SendNS_sameStation _ _ _
  · exact SameStation.refl _

theorem icmp6ProcessNA_target {ether : EtherSia} {address : IPv6Address}
    {mac : MACAddress} (processed : ether.icmp6ProcessNA address = some (some mac)) :
    ICMPv6Packet.target ether.buffer = address := by
  by_contra other
  unfold icmp6ProcessNA at processed
  rw [if_pos other] at processed
  cases processed

theorem icmp6ProcessNA_of_ends {ether : EtherSia} {address : IPv6Address}
    (expected : ICMPv6Packet.target ether.buffer = address)
    (ends : ¬ether.EndlessNeighbour) :
    ∃ mac, ether.icmp6ProcessNA address = some (some mac) := by
  cases processed : ether.icmp6ProcessNA address with
  | none => exact absurd ((icmp6ProcessNA_eq_none_iff _ _).mp processed).2 ends
  | some found =>
      unfold icmp6ProcessNA at processed
      rw [if_neg (not_not.mpr expected)] at processed
      obtain ⟨mac, -, same⟩ := Option.map_eq_some_iff.mp processed
      exact ⟨mac, congrArg some same.symm⟩

/-- A pass leaves with a MAC address exactly if it is answered. -/
theorem discoverPass_answered_iff {address : IPv6Address} {attempts : UInt8}
    {passes : Nat → DiscoveryPass} {discovery : Discovery}
    (going : discovery.count < attempts) :
    (∃ mac after, discoverPass address attempts passes discovery =
        .inr (some (some mac, after))) ↔ PassAnswered address passes discovery := by
  unfold discoverPass PassAnswered
  rw [if_pos going]
  dsimp only
  generalize passes discovery.passNumber = pass
  generalize solicitWhenDue address pass discovery = solicited
  constructor
  · rintro ⟨mac, after, leaves⟩
    split at leaves
    · cases leaves
    · rename_i len received returned
      split at leaves
      · rename_i taken
        obtain ⟨nonzero, isIcmp, isNeighbour⟩ := taken
        obtain ⟨accepts, rfl⟩ := receivePacket_nonzero returned nonzero
        have processed : (solicited.ether.accepted pass.frame).icmp6ProcessNA address =
            some (some mac) := by
          split at leaves
          · cases leaves
          · rename_i found
            cases leaves
            exact found
          · cases leaves
        have expected := icmp6ProcessNA_target processed
        refine ⟨accepts, isIcmp, isNeighbour, expected, fun endless => ?_⟩
        rw [(icmp6ProcessNA_eq_none_iff _ _).mpr ⟨expected, endless⟩] at processed
        cases processed
      · cases leaves
  · intro answered
    rw [receivePacket_neighbour answered.accepts answered.isIcmp answered.isNeighbour]
    have nonzero := (frame_length_ne_zero_iff pass.frame).mpr answered.accepts.1
    obtain ⟨mac, processed⟩ := icmp6ProcessNA_of_ends answered.expected answered.ends
    simp only []
    rw [if_pos ⟨nonzero, answered.isIcmp, answered.isNeighbour⟩, processed]
    exact ⟨mac, _, rfl⟩

theorem discoverPass_going {address : IPv6Address} {attempts : UInt8}
    {passes : Nat → DiscoveryPass} {discovery : Discovery}
    {result : Option MACAddress × EtherSia} (going : discovery.count < attempts)
    (leaves : discoverPass address attempts passes discovery = .inr (some result)) :
    ∃ mac after, result = (some mac, after) := by
  unfold discoverPass at leaves
  rw [if_pos going] at leaves
  dsimp only at leaves
  split at leaves
  · cases leaves
  · split at leaves
    · split at leaves
      · cases leaves
      · cases leaves
        exact ⟨_, _, rfl⟩
      · cases leaves
    · cases leaves

theorem discoverPass_sameStation {address : IPv6Address} {attempts : UInt8}
    {passes : Nat → DiscoveryPass} {discovery next : Discovery}
    (continues : discoverPass address attempts passes discovery = .inl next) :
    SameStation discovery.ether next.ether := by
  have solicited :=
    solicitWhenDue_sameStation address (passes discovery.passNumber) discovery
  unfold discoverPass at continues
  dsimp only at continues
  split at continues
  · split at continues
    · cases continues
    · rename_i returned
      have received := receivePacket_sameStation returned
      split at continues
      · split at continues
        · cases continues
        · cases continues
        · cases continues
          exact solicited.trans received
      · cases continues
        exact solicited.trans received
  · cases continues

theorem discovery_sameStation {address : IPv6Address} {attempts : UInt8}
    {passes : Nat → DiscoveryPass} {start discovery : Discovery}
    (reached : Reaches (discoverPass address attempts passes) start discovery) :
    SameStation start.ether discovery.ether := by
  induction reached with
  | start => exact SameStation.refl _
  | next _ continues ih => exact ih.trans (discoverPass_sameStation continues)

theorem discoverLoop_answered (address : IPv6Address) (attempts : UInt8)
    (passes : Nat → DiscoveryPass) (start : Discovery) :
    (discoverLoop address attempts passes).Answered attempts.toNat start
      (fun result => result.1.isSome = true) (PassAnswered address passes) where
  succeeds := by
    intro discovery _ below answered
    obtain ⟨mac, after, leaves⟩ :=
      (discoverPass_answered_iff (UInt8.lt_iff_toNat_lt.mpr below)).mpr answered
    exact ⟨_, leaves, rfl⟩
  answers := by
    intro discovery result below leaves
    have going := UInt8.lt_iff_toNat_lt.mpr below
    obtain ⟨mac, after, rfl⟩ := discoverPass_going going leaves
    exact ⟨rfl, (discoverPass_answered_iff going).mp ⟨mac, after, leaves⟩⟩
  fails := by
    intro discovery full
    have stopped : ¬discovery.count < attempts := fun going =>
      absurd (UInt8.lt_iff_toNat_lt.mp going) (Nat.not_lt.mpr full)
    exact ⟨_, if_neg stopped, Bool.false_ne_true⟩

/-- No call in the loop hangs, and the pass of the last solicitation, should it come before
pass `late`, is answered itself. -/
def DiscoveryListens (address : IPv6Address) (attempts : UInt8)
    (passes : Nat → DiscoveryPass) (start : Discovery) (late : Nat) : Prop :=
  ∀ discovery, Reaches (discoverPass address attempts passes) start discovery →
    ¬PassNeverEnds address attempts passes discovery ∧
      ((discoverLoop address attempts passes).sends discovery = true →
        discovery.count.toNat + 1 = attempts.toNat → discovery.passNumber < late →
          PassAnswered address passes discovery)

/-- Every answer in time makes the call return a MAC address, exactly if it listens for
each of them. -/
theorem discoverNeighbour_accepts_iff (ether : EtherSia) (address : IPv6Address)
    (attempts : UInt8) (clock : PolledClock) (frames : Nat → Frame) :
    (∀ early late, (discoverLoop address attempts (pollingPasses clock frames)).InTime clock
        500 (ether.discoveryStart (millis clock.start)) early late →
      ether.Answers address (frames late) →
        ∃ mac after, ether.DiscoverNeighbour address attempts (millis clock.start)
          (pollingPasses clock frames) (some mac, after)) ↔
      ∀ early late, (discoverLoop address attempts (pollingPasses clock frames)).InTime clock
          500 (ether.discoveryStart (millis clock.start)) early late →
        ether.Answers address (frames late) →
          DiscoveryListens address attempts (pollingPasses clock frames)
            (ether.discoveryStart (millis clock.start)) late := by
  refine forall_congr' fun early => forall_congr' fun late => imp_congr_right fun inTime =>
    imp_congr_right fun answers => ?_
  have going : early.count < attempts := of_decide_eq_true
    (Bool.and_eq_true_iff.mp inTime.sent).1
  have answer (state : Discovery)
      (reached : Reaches (discoverPass address attempts (pollingPasses clock frames))
        (ether.discoveryStart (millis clock.start)) state)
      (here : state.passNumber = late) :
      PassAnswered address (pollingPasses clock frames) state := by
    unfold PassAnswered
    rw [here]
    exact answers _ ((discovery_sameStation reached).trans
      (solicitWhenDue_sameStation _ _ _))
  have succeeds := RetryLoop.succeeds_iff (discoverLoop_polls address attempts clock frames _)
    (discoverLoop_prompt address attempts clock frames)
    (discoverLoop_answered address attempts _ _) inTime.reached
    (UInt8.lt_iff_toNat_lt.mp going) inTime.notBefore
    (fun state reached here _ => answer state reached here)
  constructor
  · rintro ⟨mac, after, returns⟩ discovery reached
    obtain ⟨returning, lastAnswered⟩ := succeeds.mp ⟨_, returns, rfl⟩
    refine ⟨fun hangs => ?_, lastAnswered discovery reached⟩
    exact returning discovery reached ((discoverPass_eq_inr_none_iff _ _ _ _).mpr hangs)
  · intro conditions
    obtain ⟨⟨found, after⟩, returns, isFound⟩ := succeeds.mpr
      ⟨fun discovery reached hangs => (conditions discovery reached).1
          ((discoverPass_eq_inr_none_iff _ _ _ _).mp hangs),
        fun last reached => (conditions last reached).2⟩
    obtain ⟨mac, rfl⟩ := Option.isSome_iff_exists.mp isFound
    exact ⟨mac, after, returns⟩

/-! ### icmp6AutoConfigure -/

/-- The frame is an advertisement with an acceptable prefix, and its options end. -/
structure AnsweredByRouter (ether : EtherSia) (frame : Frame) : Prop where
  walks : WalksAdvertisement ether frame
  ends : ∀ option ∈ raOptionList (ether.accepted frame).buffer,
    (ether.accepted frame).buffer (option + 1) ≠ 0
  acceptable : firstAcceptablePrefix (ether.accepted frame).buffer ≠ none

/-- A valid answer: it configures the station whatever its buffer holds. -/
def RouterAnswers (ether : EtherSia) (frame : Frame) : Prop :=
  ∀ other, SameStation ether other → other.globalAddress.isZero = true →
    other.AnsweredByRouter frame

/-- The pass from this state receives an advertisement of which the options never end. -/
def AutoConfigureHangs (passes : Nat → DiscoveryPass) (discovery : RouterDiscovery) : Prop :=
  discovery.ether.globalAddress.isZero = true ∧
    (solicitRouterWhenDue (passes discovery.passNumber)
      discovery).ether.ReceivesEndlessAdvertisement (passes discovery.passNumber).frame

theorem autoConfigurePass_eq_inr_none_iff (passes : Nat → DiscoveryPass)
    (discovery : RouterDiscovery) :
    autoConfigurePass passes discovery = .inr none ↔ AutoConfigureHangs passes discovery := by
  unfold autoConfigurePass AutoConfigureHangs
  dsimp only
  rw [← receivePacket_eq_none_iff]
  by_cases unset : discovery.ether.globalAddress.isZero = true
  · rw [if_pos unset, and_iff_right unset]
    cases (solicitRouterWhenDue (passes discovery.passNumber) discovery).ether.receivePacket
        (passes discovery.passNumber).frame with
    | none => exact iff_of_true rfl rfl
    | some received =>
        refine iff_of_false ?_ (by simp)
        dsimp only
        split <;> simp
  · rw [if_neg unset]
    exact iff_of_false (by simp) fun both => unset both.1

theorem AnsweredByRouter.receivePacket {ether : EtherSia} {frame : Frame}
    (answered : ether.AnsweredByRouter frame)
    (unset : ether.globalAddress.isZero = true) :
    ∃ after, ether.receivePacket frame = some (0, after) ∧
      after.globalAddress.isZero = false := by
  have enabled : (ether.accepted frame).autoConfigurationEnabled = true :=
    answered.walks.enabled
  have acceptedUnset : (ether.accepted frame).globalAddress.isZero = true := unset
  rw [receivePacket_advertised answered.walks.accepts answered.walks.holds,
    icmp6ProcessRA_eq_foldl enabled answered.ends]
  refine ⟨_, rfl, ?_⟩
  obtain ⟨option, isFirst⟩ := Option.ne_none_iff_exists'.mp answered.acceptable
  unfold firstAcceptablePrefix at isFirst
  rw [foldl_globalAddress _ acceptedUnset, isFirst]
  exact setEui64_not_isZero _ _

theorem solicitRouterWhenDue_sameStation (pass : DiscoveryPass)
    (discovery : RouterDiscovery) :
    SameStation discovery.ether (solicitRouterWhenDue pass discovery).ether := by
  unfold solicitRouterWhenDue
  split
  · exact icmp6SendRS_sameStation _
  · exact SameStation.refl _

theorem autoConfigure_sameStation {passes : Nat → DiscoveryPass}
    {start discovery : RouterDiscovery}
    (reached : Reaches (autoConfigurePass passes) start discovery) :
    SameStation start.ether discovery.ether := by
  induction reached with
  | start => exact SameStation.refl _
  | next _ continues ih =>
      obtain ⟨len, returned⟩ := autoConfigurePass_next continues
      exact (ih.trans (solicitRouterWhenDue_sameStation _ _)).trans
        (receivePacket_sameStation returned)

/-- The pass that sends the fifth solicitation gives up, whatever it receives. -/
theorem autoConfigurePass_fifth {passes : Nat → DiscoveryPass} {discovery : RouterDiscovery}
    (isSent : (autoConfigureLoop passes).sends discovery = true)
    (full : discovery.count = ROUTER_SOLICITATION_ATTEMPTS) :
    autoConfigurePass passes discovery = .inr none ∨
      ∃ after, autoConfigurePass passes discovery = .inr (some (false, after)) := by
  obtain ⟨unset, elapsed⟩ := Bool.and_eq_true_iff.mp isSent
  have counted : (solicitRouterWhenDue (passes discovery.passNumber) discovery).count = 5 := by
    unfold solicitRouterWhenDue
    rw [if_pos elapsed]
    change discovery.count + 1 = 5
    rw [full]
    rfl
  unfold autoConfigurePass
  rw [if_pos unset]
  dsimp only
  rw [counted]
  cases (solicitRouterWhenDue (passes discovery.passNumber) discovery).ether.receivePacket
      (passes discovery.passNumber).frame with
  | none => exact Or.inl rfl
  | some received => exact Or.inr ⟨received.2, rfl⟩

theorem solicitRouterWhenDue_count_le {passes : Nat → DiscoveryPass}
    {discovery : RouterDiscovery} (unset : discovery.ether.globalAddress.isZero = true)
    (atMost : discovery.count ≤ ROUTER_SOLICITATION_ATTEMPTS)
    (notFifth : ¬((autoConfigureLoop passes).sends discovery = true ∧
      discovery.count = ROUTER_SOLICITATION_ATTEMPTS)) :
    ¬(solicitRouterWhenDue (passes discovery.passNumber) discovery).count >
      ROUTER_SOLICITATION_ATTEMPTS := by
  unfold solicitRouterWhenDue
  split
  · rename_i elapsed
    have isSent : (autoConfigureLoop passes).sends discovery = true :=
      Bool.and_eq_true_iff.mpr ⟨unset, elapsed⟩
    have notFull : discovery.count ≠ ROUTER_SOLICITATION_ATTEMPTS :=
      fun full => notFifth ⟨isSent, full⟩
    have four : ROUTER_SOLICITATION_ATTEMPTS.toNat = 4 := rfl
    rw [UInt8.le_iff_toNat_le, four] at atMost
    rw [Ne, ← UInt8.toNat_inj, four] at notFull
    change ¬ROUTER_SOLICITATION_ATTEMPTS < discovery.count + 1
    rw [UInt8.lt_iff_toNat_lt, UInt8.toNat_add, four]
    have one : UInt8.toNat 1 = 1 := rfl
    omega
  · exact UInt8.not_lt.mpr atMost

theorem autoConfigurePass_unexhausted {passes : Nat → DiscoveryPass}
    {discovery : RouterDiscovery} {result : Bool × EtherSia}
    (atMost : discovery.count ≤ ROUTER_SOLICITATION_ATTEMPTS)
    (notFifth : ¬((autoConfigureLoop passes).sends discovery = true ∧
      discovery.count = ROUTER_SOLICITATION_ATTEMPTS))
    (leaves : autoConfigurePass passes discovery = .inr (some result)) :
    result.1 = true := by
  unfold autoConfigurePass at leaves
  split at leaves
  · rename_i unset
    dsimp only at leaves
    split at leaves
    · cases leaves
    · rw [if_neg (solicitRouterWhenDue_count_le unset atMost notFifth)] at leaves
      cases leaves
  · cases leaves
    rfl

theorem autoConfigurePass_answered {passes : Nat → DiscoveryPass}
    {discovery : RouterDiscovery} (unset : discovery.ether.globalAddress.isZero = true)
    (atMost : discovery.count ≤ ROUTER_SOLICITATION_ATTEMPTS)
    (notFifth : ¬((autoConfigureLoop passes).sends discovery = true ∧
      discovery.count = ROUTER_SOLICITATION_ATTEMPTS))
    (answered : (solicitRouterWhenDue (passes discovery.passNumber)
      discovery).ether.AnsweredByRouter (passes discovery.passNumber).frame) :
    ∃ next, autoConfigurePass passes discovery = .inl next ∧
      next.ether.globalAddress.isZero = false := by
  have solicitedUnset : (solicitRouterWhenDue (passes discovery.passNumber)
      discovery).ether.globalAddress.isZero = true := by
    rw [(solicitRouterWhenDue_sameAddresses _ _).globalAddress]
    exact unset
  obtain ⟨after, returned, configured⟩ := answered.receivePacket solicitedUnset
  unfold autoConfigurePass
  rw [if_pos unset]
  dsimp only
  rw [returned]
  exact ⟨_, if_neg (solicitRouterWhenDue_count_le unset atMost notFifth), configured⟩

/-- No call in the loop hangs, and no fifth solicitation is sent. -/
def AutoConfigureListens (passes : Nat → DiscoveryPass) (start : RouterDiscovery) : Prop :=
  ∀ discovery, Reaches (autoConfigurePass passes) start discovery →
    ¬AutoConfigureHangs passes discovery ∧
      ¬((autoConfigureLoop passes).sends discovery = true ∧
        discovery.count = ROUTER_SOLICITATION_ATTEMPTS)

/-- Every answer in time makes the call return true, exactly if it listens for each of
them. -/
theorem icmp6AutoConfigure_accepts_iff (ether : EtherSia) (clock : PolledClock)
    (frames : Nat → Frame) :
    (∀ early late, (autoConfigureLoop (pollingPasses clock frames)).InTime clock 3000
        (ether.routerDiscoveryStart (millis clock.start)) early late →
      ether.RouterAnswers (frames late) →
        ∃ after, ether.Icmp6AutoConfigure (millis clock.start) (pollingPasses clock frames)
          (true, after)) ↔
      ∀ early late, (autoConfigureLoop (pollingPasses clock frames)).InTime clock 3000
          (ether.routerDiscoveryStart (millis clock.start)) early late →
        ether.RouterAnswers (frames late) →
          AutoConfigureListens (pollingPasses clock frames)
            (ether.routerDiscoveryStart (millis clock.start)) := by
  refine forall_congr' fun early => forall_congr' fun late => imp_congr_right fun inTime =>
    imp_congr_right fun answers => ?_
  constructor
  · rintro ⟨after, returns⟩ discovery reached
    constructor
    · intro hangs
      have left := reached.returns
        ⟨1, run_leave ((autoConfigurePass_eq_inr_none_iff _ _).mpr hangs) 0⟩
      cases Returns.result_unique returns left
    · rintro ⟨isSent, full⟩
      rcases autoConfigurePass_fifth isSent full with hangs | ⟨failed, leaves⟩
      · cases Returns.result_unique returns (reached.returns ⟨1, run_leave hangs 0⟩)
      · cases Returns.result_unique returns (reached.returns ⟨1, run_leave leaves 0⟩)
  · intro conditions
    have polls := @autoConfigureLoop_polls clock frames
      (ether.routerDiscoveryStart (millis clock.start)) rfl
    obtain ⟨state, onward, stopped⟩ := RetryLoop.exists_reached polls inTime.notBefore
    have reached := inTime.reached.trans onward
    have atMost := autoConfigure_count_le rfl reached
    obtain ⟨returning, notFifth⟩ := conditions state reached
    rcases stopped with here | ⟨-, outcome, leaves⟩
    · by_cases unset : state.ether.globalAddress.isZero = true
      · have same := (autoConfigure_sameStation reached).trans
          (solicitRouterWhenDue_sameStation
            (pollingPasses clock frames state.passNumber) state)
        have solicitedUnset : (solicitRouterWhenDue
            (pollingPasses clock frames state.passNumber)
              state).ether.globalAddress.isZero = true := by
          rw [(solicitRouterWhenDue_sameAddresses _ _).globalAddress]
          exact unset
        have answered := answers _ same solicitedUnset
        rw [← here] at answered
        obtain ⟨next, continues, configured⟩ :=
          autoConfigurePass_answered unset atMost notFifth answered
        have leaves : autoConfigurePass (pollingPasses clock frames) next =
            .inr (some (true, next.ether)) :=
          if_neg (Bool.eq_false_iff.mp configured)
        exact ⟨_, (reached.next continues).returns ⟨1, run_leave leaves 0⟩⟩
      · have leaves : autoConfigurePass (pollingPasses clock frames) state =
            .inr (some (true, state.ether)) := if_neg unset
        exact ⟨_, reached.returns ⟨1, run_leave leaves 0⟩⟩
    · cases outcome with
      | none => exact absurd ((autoConfigurePass_eq_inr_none_iff _ _).mp leaves) returning
      | some result =>
          have succeeded := autoConfigurePass_unexhausted atMost notFifth leaves
          obtain ⟨success, after⟩ := result
          have isTrue : success = true := succeeded
          subst isTrue
          exact ⟨after, reached.returns ⟨1, run_leave leaves 0⟩⟩

end EtherSia

/-! ### lookupHostname -/

namespace LookupCall

/-- The frame is a datagram for the socket, and gives an address. -/
structure AnsweredBy (call : LookupCall) (fuel : Nat) (ether : EtherSia) (frame : Frame) :
    Prop where
  accepts : ether.Accepts frame
  havePacket : UDPSocket.havePacket call.udp (ether.accepted frame) = true
  found : ∃ address, call.processReply fuel (ether.accepted frame).buffer =
    some (some address)

/-- A valid answer: the station takes it whatever its buffer holds. -/
def Answers (call : LookupCall) (fuel : Nat) (ether : EtherSia) (frame : Frame) : Prop :=
  ∀ other, SameStation ether other → call.AnsweredBy fuel other frame

def PassAnswered (call : LookupCall) (fuel : Nat) (passes : Nat → DiscoveryPass)
    (lookup : HostnameLookup) : Prop :=
  call.AnsweredBy fuel (call.requestWhenDue (passes lookup.passNumber) lookup).ether
    (passes lookup.passNumber).frame

/-- The pass from this state receives an advertisement of which the options never end, or
a reply with a name that does not. -/
def PassHangs (call : LookupCall) (fuel : Nat) (passes : Nat → DiscoveryPass)
    (lookup : HostnameLookup) : Prop :=
  let pass := passes lookup.passNumber
  let ether := (call.requestWhenDue pass lookup).ether
  lookup.requestCount ≤ DNS_REQUEST_ATTEMPTS ∧
    (ether.ReceivesEndlessAdvertisement pass.frame ∨
      ether.Accepts pass.frame ∧
        UDPSocket.havePacket call.udp (ether.accepted pass.frame) = true ∧
          call.processReply fuel (ether.accepted pass.frame).buffer = none)

theorem havePacket_received {socket : Socket} {ether : EtherSia}
    (have_ : UDPSocket.havePacket socket ether = true) :
    ether.bufferContainsReceived = true ∧ protocol ether.buffer = IP6_PROTO_UDP := by
  unfold UDPSocket.havePacket at have_
  dsimp only at have_
  split_ifs at have_ with unflagged other
  exact ⟨by simpa using unflagged, not_not.mp other⟩

theorem icmp6PacketSend_not_received (ether : EtherSia) :
    ether.icmp6PacketSend.bufferContainsReceived = false :=
  rfl

/-- What a socket has after a call of `receivePacket` is the packet that it accepted. -/
theorem receivePacket_havePacket {socket : Socket} {ether after : EtherSia} {frame : Frame}
    {len : UInt16} (returned : ether.receivePacket frame = some (len, after))
    (have_ : UDPSocket.havePacket socket after = true) :
    ether.Accepts frame ∧ after = ether.accepted frame := by
  obtain ⟨flagged, isUdp⟩ := havePacket_received have_
  have notIcmp (other : EtherSia) (isIcmp : protocol other.buffer = IP6_PROTO_ICMP6)
      (isUdp : protocol other.buffer = IP6_PROTO_UDP) : False := by
    rw [isIcmp] at isUdp
    cases isUdp
  refine EtherSia.receivePacket_cases returned (motive := fun later =>
    later.bufferContainsReceived = true → protocol later.buffer = IP6_PROTO_UDP →
      ether.Accepts frame ∧ later = ether.accepted frame) ?_ ?_ ?_ ?_ ?_ flagged isUdp
  · intro _ absurdity
    cases absurdity
  · exact fun accepts _ _ => ⟨accepts, rfl⟩
  · intro accepts holds isFlagged later
    exfalso
    unfold EtherSia.icmp6NSReply at isFlagged later
    dsimp only at isFlagged later
    split at isFlagged
    · rename_i unanswered
      rw [if_pos unanswered] at later
      exact notIcmp _ holds.isIcmp later
    · rw [icmp6PacketSend_not_received] at isFlagged
      cases isFlagged
  · intro _ _ absurdity
    unfold EtherSia.icmp6EchoReply at absurdity
    rw [icmp6PacketSend_not_received] at absurdity
    cases absurdity
  · intro _ holds walked walks _ later
    obtain ⟨_, _, _, rfl⟩ := EtherSia.icmp6ProcessRA_configuresOnly walks
    exact (notIcmp _ holds.isIcmp later).elim

theorem receivePacket_of_havePacket {socket : Socket} {ether : EtherSia} {frame : Frame}
    (accepts : ether.Accepts frame)
    (have_ : UDPSocket.havePacket socket (ether.accepted frame) = true) :
    ether.receivePacket frame =
      some (UInt16.ofNat frame.octets.length, ether.accepted frame) := by
  apply EtherSia.receivePacket_of_not_icmp accepts
  rw [(havePacket_received have_).2]
  decide

variable {call : LookupCall} {fuel : Nat} {passes : Nat → DiscoveryPass}

/-- A pass leaves with an address exactly if it is answered. -/
theorem pass_answered_iff {lookup : HostnameLookup}
    (going : lookup.requestCount ≤ DNS_REQUEST_ATTEMPTS) :
    (∃ address after, call.pass fuel passes lookup = .inr (some (some address, after))) ↔
      call.PassAnswered fuel passes lookup := by
  unfold pass PassAnswered
  rw [if_pos going]
  dsimp only
  generalize passes lookup.passNumber = pass
  generalize call.requestWhenDue pass lookup = requested
  constructor
  · rintro ⟨address, after, leaves⟩
    split at leaves
    · cases leaves
    · rename_i len received returned
      split at leaves
      · rename_i have_
        obtain ⟨accepts, rfl⟩ := receivePacket_havePacket returned have_
        split at leaves
        · cases leaves
        · rename_i found
          exact ⟨accepts, have_, _, found⟩
        · cases leaves
      · cases leaves
  · intro answered
    obtain ⟨address, found⟩ := answered.found
    rw [receivePacket_of_havePacket answered.accepts answered.havePacket]
    simp only []
    rw [if_pos answered.havePacket, found]
    exact ⟨address, _, rfl⟩

theorem pass_going {lookup : HostnameLookup} {result : Option IPv6Address × EtherSia}
    (going : lookup.requestCount ≤ DNS_REQUEST_ATTEMPTS)
    (leaves : call.pass fuel passes lookup = .inr (some result)) :
    ∃ address after, result = (some address, after) := by
  unfold pass at leaves
  rw [if_pos going] at leaves
  dsimp only at leaves
  split at leaves
  · cases leaves
  · split at leaves
    · split at leaves
      · cases leaves
      · cases leaves
        exact ⟨_, _, rfl⟩
      · cases leaves
    · cases leaves

theorem pass_eq_inr_none_iff (lookup : HostnameLookup) :
    call.pass fuel passes lookup = .inr none ↔ call.PassHangs fuel passes lookup := by
  unfold pass PassHangs
  dsimp only
  generalize passes lookup.passNumber = pass
  generalize call.requestWhenDue pass lookup = requested
  by_cases going : lookup.requestCount ≤ DNS_REQUEST_ATTEMPTS
  · rw [if_pos going, and_iff_right going, ← EtherSia.receivePacket_eq_none_iff]
    cases returned : requested.ether.receivePacket pass.frame with
    | none => exact iff_of_true rfl (Or.inl rfl)
    | some received =>
        obtain ⟨len, after⟩ := received
        dsimp only
        rw [or_iff_right (by simp)]
        constructor
        · intro stuck
          split at stuck
          · rename_i have_
            obtain ⟨accepts, rfl⟩ := receivePacket_havePacket returned have_
            split at stuck
            · rename_i unprocessed
              exact ⟨accepts, have_, unprocessed⟩
            · cases stuck
            · cases stuck
          · cases stuck
        · rintro ⟨accepts, have_, unprocessed⟩
          rw [receivePacket_of_havePacket accepts have_] at returned
          cases returned
          rw [if_pos have_, unprocessed]
  · rw [if_neg going]
    exact iff_of_false (by simp) fun both => going both.1

theorem send_sameStation (socket : Socket) (length : UInt16) (ether : EtherSia) :
    SameStation ether (UDPSocket.send socket length false ether) :=
  EtherSia.modifyPacket_send_sameStation
    ((ether.modifyPacket_sameStation _).trans (EtherSia.prepareSend_sameStation _)) _

theorem requestWhenDue_sameStation (call : LookupCall) (pass : DiscoveryPass)
    (lookup : HostnameLookup) :
    SameStation lookup.ether (call.requestWhenDue pass lookup).ether := by
  have made : SameStation lookup.ether (call.makeRequest lookup.ether).2 :=
    ⟨rfl, rfl, rfl, fun _ => rfl⟩
  unfold requestWhenDue
  dsimp only
  split
  · split
    · exact made.trans (send_sameStation _ _ _)
    · exact made
  · exact SameStation.refl _

theorem lookup_sameStation {start lookup : HostnameLookup}
    (reached : Reaches (call.pass fuel passes) start lookup) :
    SameStation start.ether lookup.ether := by
  induction reached with
  | start => exact SameStation.refl _
  | @next lookup next _ continues ih =>
      have requested := call.requestWhenDue_sameStation (passes lookup.passNumber) lookup
      refine ih.trans ?_
      unfold pass at continues
      dsimp only at continues
      split at continues
      · split at continues
        · cases continues
        · rename_i returned
          have received := EtherSia.receivePacket_sameStation returned
          split at continues
          · split at continues
            · cases continues
            · cases continues
            · cases continues
              exact requested.trans received
          · cases continues
            exact requested.trans received
      · cases continues

theorem retryLoop_answered (call : LookupCall) (fuel : Nat) (passes : Nat → DiscoveryPass)
    (start : HostnameLookup) :
    (call.retryLoop fuel passes).Answered 4 start (fun result => result.1.isSome = true)
      (call.PassAnswered fuel passes) where
  succeeds := by
    intro lookup _ below answered
    have going : lookup.requestCount ≤ DNS_REQUEST_ATTEMPTS :=
      UInt8.le_iff_toNat_le.mpr (Nat.le_of_lt_succ below)
    obtain ⟨address, after, leaves⟩ := (pass_answered_iff going).mpr answered
    exact ⟨_, leaves, rfl⟩
  answers := by
    intro lookup result below leaves
    have going : lookup.requestCount ≤ DNS_REQUEST_ATTEMPTS :=
      UInt8.le_iff_toNat_le.mpr (Nat.le_of_lt_succ below)
    obtain ⟨address, after, rfl⟩ := pass_going going leaves
    exact ⟨rfl, (pass_answered_iff going).mp ⟨address, after, leaves⟩⟩
  fails := by
    intro lookup full
    have stopped : ¬lookup.requestCount ≤ DNS_REQUEST_ATTEMPTS := fun going =>
      absurd (UInt8.le_iff_toNat_le.mp going) (Nat.not_le.mpr full)
    exact ⟨_, if_neg stopped, Bool.false_ne_true⟩

/-- No call in the loop hangs, and the pass of the fourth request, should it come before
pass `late`, is answered itself. -/
def Listens (call : LookupCall) (fuel : Nat) (passes : Nat → DiscoveryPass)
    (start : HostnameLookup) (late : Nat) : Prop :=
  ∀ lookup, Reaches (call.pass fuel passes) start lookup →
    ¬call.PassHangs fuel passes lookup ∧
      ((call.retryLoop fuel passes).sends lookup = true →
        lookup.requestCount = DNS_REQUEST_ATTEMPTS → lookup.passNumber < late →
          call.PassAnswered fuel passes lookup)

/-- Every answer in time makes the loop return an address, exactly if it listens for each
of them. -/
theorem lookup_accepts_iff (call : LookupCall) (fuel : Nat) (ether : EtherSia)
    (clock : PolledClock) (frames : Nat → Frame) :
    (∀ early late, (call.retryLoop fuel (pollingPasses clock frames)).InTime clock 3500
        (start ether (millis clock.start)) early late →
      call.Answers fuel ether (frames late) →
        ∃ address after, Returns (call.pass fuel (pollingPasses clock frames))
          (start ether (millis clock.start)) (some (some address, after))) ↔
      ∀ early late, (call.retryLoop fuel (pollingPasses clock frames)).InTime clock 3500
          (start ether (millis clock.start)) early late →
        call.Answers fuel ether (frames late) →
          call.Listens fuel (pollingPasses clock frames) (start ether (millis clock.start))
            late := by
  refine forall_congr' fun early => forall_congr' fun late => imp_congr_right fun inTime =>
    imp_congr_right fun answers => ?_
  obtain ⟨sent, nonempty⟩ := Bool.and_eq_true_iff.mp inTime.sent
  have going : early.requestCount ≤ DNS_REQUEST_ATTEMPTS := of_decide_eq_true
    (Bool.and_eq_true_iff.mp sent).1
  have answer (state : HostnameLookup)
      (reached : Reaches (call.pass fuel (pollingPasses clock frames))
        (start ether (millis clock.start)) state) (here : state.passNumber = late) :
      call.PassAnswered fuel (pollingPasses clock frames) state := by
    unfold PassAnswered
    rw [here]
    exact answers _ ((lookup_sameStation reached).trans
      (call.requestWhenDue_sameStation _ _))
  have succeeds := RetryLoop.succeeds_iff (call.retryLoop_polls fuel clock frames _)
    (retryLoop_prompt (of_decide_eq_true nonempty) fuel clock frames)
    (call.retryLoop_answered fuel _ _) inTime.reached
    (Nat.lt_succ_of_le (UInt8.le_iff_toNat_le.mp going)) inTime.notBefore
    (fun state reached here _ => answer state reached here)
  have isLast (lookup : HostnameLookup) :
      lookup.requestCount.toNat + 1 = 4 ↔ lookup.requestCount = DNS_REQUEST_ATTEMPTS := by
    rw [← UInt8.toNat_inj]
    exact Nat.add_right_cancel_iff (m := lookup.requestCount.toNat) (k := 3)
  constructor
  · rintro ⟨address, after, returns⟩ lookup reached
    obtain ⟨returning, lastAnswered⟩ := succeeds.mp ⟨_, returns, rfl⟩
    exact ⟨fun hangs => returning lookup reached ((pass_eq_inr_none_iff _).mpr hangs),
      fun isSent last => lastAnswered lookup reached isSent ((isLast lookup).mpr last)⟩
  · intro conditions
    obtain ⟨⟨found, after⟩, returns, isFound⟩ := succeeds.mpr
      ⟨fun lookup reached hangs => (conditions lookup reached).1
          ((pass_eq_inr_none_iff _).mp hangs),
        fun last reached isSent full => (conditions last reached).2 isSent
          ((isLast last).mp full)⟩
    obtain ⟨address, rfl⟩ := Option.isSome_iff_exists.mp isFound
    exact ⟨address, after, returns⟩

end LookupCall

/-- The loop that a call of `lookupHostname` starts is the only one it can. -/
theorem EtherSia.startsLookup_unique {ether after other : EtherSia} {hostname : List UInt8}
    {surroundings : LookupSurroundings} {call second : LookupCall}
    (starts : ether.StartsLookup hostname surroundings call after)
    (startsSecond : ether.StartsLookup hostname surroundings second other) :
    second = call ∧ other = after := by
  obtain ⟨hostname, id, udp⟩ := call
  obtain ⟨_, _, secondUdp⟩ := second
  obtain ⟨rfl, rfl, found, socket⟩ := starts
  obtain ⟨rfl, rfl, secondFound, secondSocket⟩ := startsSecond
  unfold Socket.SetRemoteAddress at socket secondSocket
  dsimp only at socket secondSocket
  split at socket
  · rename_i onLink
    rw [if_pos onLink] at secondSocket
    obtain ⟨mac, left, discovered, result⟩ := socket
    obtain ⟨secondMac, secondLeft, secondDiscovered, secondResult⟩ := secondSocket
    have same := Option.some.inj (Returns.result_unique discovered secondDiscovered)
    cases same
    have results := result.trans secondResult.symm
    cases results
    exact ⟨rfl, rfl⟩
  · rename_i offLink
    rw [if_neg offLink] at secondSocket
    have results := socket.trans secondSocket.symm
    cases results
    exact ⟨rfl, rfl⟩

theorem EtherSia.lookupHostname_iff {ether after : EtherSia} {hostname : List UInt8}
    {fuel : Nat} {surroundings : LookupSurroundings} {call : LookupCall}
    (starts : ether.StartsLookup hostname surroundings call after)
    (result : Option IPv6Address × EtherSia) :
    ether.LookupHostname hostname fuel surroundings result ↔
      Returns (call.pass fuel surroundings.passes)
        (LookupCall.start after surroundings.now) (some result) := by
  constructor
  · rintro ⟨second, other, startsSecond, returns⟩
    obtain ⟨rfl, rfl⟩ := startsLookup_unique starts startsSecond
    exact returns
  · exact fun returns => ⟨call, after, starts, returns⟩

/-! ### All three loops -/

/-- Each loop takes every answer that comes in time, exactly if it still listens when the
answer comes. -/
theorem answers_accepted_iff (ether : EtherSia) (clock : PolledClock) (frames : Nat → Frame) :
    (∀ address attempts,
      (∀ early late, (EtherSia.discoverLoop address attempts
          (pollingPasses clock frames)).InTime clock 500
            (ether.discoveryStart (millis clock.start)) early late →
        ether.Answers address (frames late) →
          ∃ mac after, ether.DiscoverNeighbour address attempts (millis clock.start)
            (pollingPasses clock frames) (some mac, after)) ↔
        ∀ early late, (EtherSia.discoverLoop address attempts
            (pollingPasses clock frames)).InTime clock 500
              (ether.discoveryStart (millis clock.start)) early late →
          ether.Answers address (frames late) →
            EtherSia.DiscoveryListens address attempts (pollingPasses clock frames)
              (ether.discoveryStart (millis clock.start)) late) ∧
      ((∀ early late, (EtherSia.autoConfigureLoop (pollingPasses clock frames)).InTime clock
          3000 (ether.routerDiscoveryStart (millis clock.start)) early late →
        ether.RouterAnswers (frames late) →
          ∃ after, ether.Icmp6AutoConfigure (millis clock.start)
            (pollingPasses clock frames) (true, after)) ↔
        ∀ early late, (EtherSia.autoConfigureLoop (pollingPasses clock frames)).InTime clock
            3000 (ether.routerDiscoveryStart (millis clock.start)) early late →
          ether.RouterAnswers (frames late) →
            EtherSia.AutoConfigureListens (pollingPasses clock frames)
              (ether.routerDiscoveryStart (millis clock.start))) ∧
      ∀ hostname fuel id randomPort unsetMac discoveryClock discoveryFrames call after,
        ether.StartsLookup hostname
            (.polling id randomPort unsetMac discoveryClock clock discoveryFrames frames)
            call after →
          ((∀ early late, (call.retryLoop fuel (pollingPasses clock frames)).InTime clock 3500
              (LookupCall.start after (millis clock.start)) early late →
            call.Answers fuel after (frames late) →
              ∃ address left, ether.LookupHostname hostname fuel
                (.polling id randomPort unsetMac discoveryClock clock discoveryFrames frames)
                (some address, left)) ↔
            ∀ early late, (call.retryLoop fuel (pollingPasses clock frames)).InTime clock 3500
                (LookupCall.start after (millis clock.start)) early late →
              call.Answers fuel after (frames late) →
                call.Listens fuel (pollingPasses clock frames)
                  (LookupCall.start after (millis clock.start)) late) := by
  refine ⟨fun address attempts =>
      ether.discoverNeighbour_accepts_iff address attempts clock frames,
    ether.icmp6AutoConfigure_accepts_iff clock frames, ?_⟩
  intro hostname fuel id randomPort unsetMac discoveryClock discoveryFrames call after starts
  rw [← call.lookup_accepts_iff fuel after clock frames]
  simp only [EtherSia.lookupHostname_iff starts]
  exact Iff.rfl

/-! ### An answer that nobody listens for -/

namespace EtherSia

/-- Acceptance looks at nothing but the packet and our MAC address. -/
theorem Accepts.of_sameStation {ether other : EtherSia} {frame : Frame}
    (accepts : ether.Accepts frame) (same : SameStation ether other)
    (within : packetEnd (ether.loadFrame frame).buffer ≤ frame.octets.length) :
    other.Accepts frame := by
  have agree : Agree (ether.loadFrame frame).buffer (other.loadFrame frame).buffer 0
      (packetEnd (ether.loadFrame frame).buffer) :=
    (loadFrame_agree ether other frame).mono le_rfl within
  have sameMac : (other.loadFrame frame).localMac = (ether.loadFrame frame).localMac :=
    same.localMac
  exact ⟨accepts.1, (acceptsPacket_congr sameMac agree).trans accepts.2⟩

theorem Answers.of_answeredBy {ether : EtherSia} {address : IPv6Address} {frame : Frame}
    (answered : ether.AnsweredBy address frame)
    (withoutOptions : payloadLength (ether.accepted frame).buffer = 24)
    (within : packetEnd (ether.loadFrame frame).buffer ≤ frame.octets.length) :
    ether.Answers address frame := by
  intro other same
  have ends : packetEnd (ether.loadFrame frame).buffer = 78 :=
    congrArg (fun length => payload + UInt16.toNat length) withoutOptions
  have agree : Agree (other.accepted frame).buffer (ether.accepted frame).buffer 0 78 :=
    (loadFrame_agree other ether frame).mono le_rfl (ends ▸ within)
  refine ⟨answered.accepts.of_sameStation same within, ?_, ?_, ?_, ?_⟩
  · exact (agree 20 (by decide) (by decide)).trans answered.isIcmp
  · exact (agree 54 (by decide) (by decide)).trans answered.isNeighbour
  · exact (congrArg IPv6Address.mk (agree.blockAt_eq (by decide) (by decide))).trans
      answered.expected
  · rintro ⟨number, before, -⟩
    have sameLength : payloadLength (other.accepted frame).buffer = 24 :=
      (agree.u16At_eq (by decide) (by decide)).trans withoutOptions
    have first := first_le_optionStart (other.accepted frame).buffer
      ICMPv6Packet.naOptions number
    have none : (optionBytes (other.accepted frame).buffer 24).toInt = 0 := by
      unfold optionBytes
      rw [sameLength]
      rfl
    omega

/-- The neighbour advertisement of the station fe80::ff:fe00:2. -/
def exampleNeighbour : Frame where
  octets := [2, 0, 0, 0, 0, 1, 2, 0, 0, 0, 0, 2, 0x86, 0xdd, 0x60, 0, 0, 0, 0, 24, 58, 255,
    0xfe, 0x80, 0, 0, 0, 0, 0, 0, 0, 0, 0, 0xff, 0xfe, 0, 0, 2,
    0xfe, 0x80, 0, 0, 0, 0, 0, 0, 0, 0, 0, 0xff, 0xfe, 0, 0, 1,
    136, 0, 0x1f, 0x25, 0x60, 0, 0, 0,
    0xfe, 0x80, 0, 0, 0, 0, 0, 0, 0, 0, 0, 0xff, 0xfe, 0, 0, 2]
  fits := by decide

def exampleNeighbourAddress : IPv6Address :=
  ⟨![0xfe, 0x80, 0, 0, 0, 0, 0, 0, 0, 0, 0, 0xff, 0xfe, 0, 0, 2]⟩

theorem exampleNeighbour_answers :
    exampleStation.ether.Answers exampleNeighbourAddress exampleNeighbour := by
  refine .of_answeredBy ⟨⟨by decide, by decide +kernel⟩, by decide +kernel, by decide +kernel,
    by decide +kernel, ?_⟩ (by decide +kernel) (by decide +kernel)
  rw [← naWalk_returns_iff]
  exact ⟨_, 1, rfl⟩

end EtherSia

/-- Of a single attempt, the answer that comes 100 ms after the solicitation is not read:
the loop has been left in the pass before. -/
theorem answer_to_last_solicitation_unread :
    ¬∀ (ether : EtherSia) (address : IPv6Address) (attempts : UInt8) (clock : PolledClock)
      (frames : Nat → Frame) early late,
      (EtherSia.discoverLoop address attempts (pollingPasses clock frames)).InTime clock 500
          (ether.discoveryStart (millis clock.start)) early late →
        ether.Answers address (frames late) →
          ∃ mac after, ether.DiscoverNeighbour address attempts (millis clock.start)
            (pollingPasses clock frames) (some mac, after) := by
  intro accepted
  let frames (pass : Nat) : Frame := if pass = 0 then emptyFrame else EtherSia.exampleNeighbour
  let start := exampleStation.ether.discoveryStart (millis (steadyClock 0 100).start)
  obtain ⟨mac, after, fuel, returns⟩ := accepted exampleStation.ether
    EtherSia.exampleNeighbourAddress 1 (steadyClock 0 100) frames start 1
    ⟨.start, by decide +kernel, Nat.zero_le _, by decide⟩ EtherSia.exampleNeighbour_answers
  have gaveUp : (run (EtherSia.discoverPass EtherSia.exampleNeighbourAddress 1
      (pollingPasses (steadyClock 0 100) frames)) 2 start).map
        (fun result => result.map Prod.fst) = some (some none) := by
    decide +kernel
  obtain ⟨left, ran, isNone⟩ := Option.map_eq_some_iff.mp gaveUp
  have same := Returns.result_unique ⟨fuel, returns⟩ ⟨2, ran⟩
  rw [← same] at isNone
  cases isNone

end EtherSiaStack
