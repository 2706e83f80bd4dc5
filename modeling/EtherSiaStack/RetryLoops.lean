/-
The three loops that solicit, as loops that poll a clock.

`discoverNeighbour`, `icmp6AutoConfigure` and `lookupHostname` keep a deadline and a
count each.  They differ in where the count is compared and with what, and only the
first sends no more often than its limit says.
-/

import EtherSiaStack.HostnameLookup
import EtherSiaStack.Library.PolledLoop

namespace EtherSiaStack

open ByteMemory IPv6Packet FuelLoop

theorem hasElapsed_eq_passed (now deadline : UInt32) :
    hasElapsed now deadline 0 = passed now deadline := by
  unfold hasElapsed passed
  rw [decide_eq_decide, ge_iff_le]
  generalize now - deadline = difference
  have bound := difference.toNat_lt
  have signed : difference.toInt32.toInt =
      if 2 * difference.toNat < 4294967296 then (difference.toNat : Int)
      else (difference.toNat : Int) - 4294967296 :=
    BitVec.toInt_eq_toNat_cond difference.toBitVec
  rw [signed]
  split <;> omega

/-- What a loop gets from outside under a clock. -/
def pollingPasses (clock : PolledClock) (frames : Nat → Frame) (pass : Nat) :
    DiscoveryPass where
  testTime := millis (clock.test pass)
  restartTime := millis (clock.restart pass)
  frame := frames pass

namespace EtherSia

/-! ### discoverNeighbour -/

def discoverLoop (address : IPv6Address) (attempts : UInt8) (passes : Nat → DiscoveryPass) :
    RetryLoop Discovery (Option (Option MACAddress × EtherSia)) where
  body := discoverPass address attempts passes
  passNumber := Discovery.passNumber
  deadline := Discovery.nextNeighbourSolicitation
  count := Discovery.count
  sends := fun discovery => decide (discovery.count < attempts) &&
    hasElapsed (passes discovery.passNumber).testTime discovery.nextNeighbourSolicitation 0

theorem discoverLoop_isDue (address : IPv6Address) (attempts : UInt8) (clock : PolledClock)
    (frames : Nat → Frame) (discovery : Discovery) :
    (discoverLoop address attempts (pollingPasses clock frames)).isDue clock discovery =
      hasElapsed (pollingPasses clock frames discovery.passNumber).testTime
        discovery.nextNeighbourSolicitation 0 :=
  (hasElapsed_eq_passed _ _).symm

theorem discoverLoop_sends {address : IPv6Address} {attempts : UInt8} {clock : PolledClock}
    {frames : Nat → Frame} {discovery next : Discovery}
    (continues : discoverPass address attempts (pollingPasses clock frames) discovery =
      .inl next) :
    (discoverLoop address attempts (pollingPasses clock frames)).sends discovery =
      (discoverLoop address attempts (pollingPasses clock frames)).isDue clock
        discovery := by
  rw [discoverLoop_isDue]
  change (decide (discovery.count < attempts) && _) = _
  rw [decide_eq_true (discoverPass_continues continues).1, Bool.true_and]

/-- A pass of which the loop says that it sends hands one frame to the controller, and
another pass none before it receives. -/
theorem discoverLoop_sent {address : IPv6Address} {attempts : UInt8}
    {passes : Nat → DiscoveryPass} {discovery : Discovery}
    (going : discovery.count < attempts) :
    (solicitWhenDue address (passes discovery.passNumber) discovery).ether.sent.length =
      discovery.ether.sent.length +
        ((discoverLoop address attempts passes).sends discovery).toNat := by
  change _ = _ + (decide (discovery.count < attempts) && _).toNat
  rw [decide_eq_true going, Bool.true_and]
  unfold solicitWhenDue
  split
  · rename_i elapsed
    rw [elapsed, (icmp6SendNS_transmits _ _ _).sent, List.length_append]
    rfl
  · rename_i waiting
    rw [Bool.eq_false_iff.mpr waiting]
    rfl

theorem discoverLoop_polls (address : IPv6Address) (attempts : UInt8) (clock : PolledClock)
    (frames : Nat → Frame) (start : Discovery) :
    (discoverLoop address attempts (pollingPasses clock frames)).Polls clock 500
      attempts.toNat start where
  due := by
    intro discovery sends
    rw [discoverLoop_isDue]
    exact (Bool.and_eq_true_iff.mp sends).2
  passNumber := fun continues => (discoverPass_continues continues).2.1
  count := by
    intro discovery next continues
    have counted := (discoverPass_continues continues).2.2.1
    rw [discoverLoop_isDue]
    refine counted.trans ?_
    unfold solicitWhenDue
    split <;> rfl
  sent := by
    intro discovery next continues sends
    have deadline := (discoverPass_continues continues).2.2.2
    have elapsed := (Bool.and_eq_true_iff.mp sends).2
    unfold solicitWhenDue at deadline
    rw [if_pos elapsed] at deadline
    exact deadline.trans (millis_add _ 500).symm
  kept := by
    intro discovery next continues unsent
    have deadline := (discoverPass_continues continues).2.2.2
    rw [discoverLoop_sends continues, discoverLoop_isDue] at unsent
    unfold solicitWhenDue at deadline
    rw [if_neg (Bool.eq_false_iff.mp unsent)] at deadline
    exact deadline
  below := fun _ continues => UInt8.lt_iff_toNat_lt.mp (discoverPass_continues continues).1
  limited := Nat.le_of_lt_succ attempts.toNat_lt
  short := by decide

theorem discoverLoop_prompt (address : IPv6Address) (attempts : UInt8) (clock : PolledClock)
    (frames : Nat → Frame) :
    (discoverLoop address attempts (pollingPasses clock frames)).Prompt clock :=
  fun continues due => (discoverLoop_sends continues).trans due

theorem discoverLoop_starts (address : IPv6Address) (attempts : UInt8)
    (passes : Nat → DiscoveryPass) (ether : EtherSia) (clock : PolledClock) :
    (discoverLoop address attempts passes).Starts clock
      (ether.discoveryStart (millis clock.start)) :=
  ⟨rfl, rfl, rfl⟩

/-! ### icmp6AutoConfigure -/

def autoConfigureLoop (passes : Nat → DiscoveryPass) :
    RetryLoop RouterDiscovery (Option (Bool × EtherSia)) where
  body := autoConfigurePass passes
  passNumber := RouterDiscovery.passNumber
  deadline := RouterDiscovery.nextRouterSolicitation
  count := RouterDiscovery.count
  sends := fun discovery => discovery.ether.globalAddress.isZero &&
    hasElapsed (passes discovery.passNumber).testTime discovery.nextRouterSolicitation 0

theorem autoConfigurePass_continues {passes : Nat → DiscoveryPass}
    {discovery next : RouterDiscovery}
    (continues : autoConfigurePass passes discovery = .inl next) :
    let solicited := solicitRouterWhenDue (passes discovery.passNumber) discovery
    discovery.ether.globalAddress.isZero = true ∧
      next.passNumber = discovery.passNumber + 1 ∧ next.count = solicited.count ∧
        next.nextRouterSolicitation = solicited.nextRouterSolicitation ∧
          solicited.count ≤ ROUTER_SOLICITATION_ATTEMPTS := by
  have samePass : (solicitRouterWhenDue (passes discovery.passNumber)
      discovery).passNumber = discovery.passNumber := by
    unfold solicitRouterWhenDue
    split <;> rfl
  unfold autoConfigurePass at continues
  dsimp only at continues ⊢
  split at continues
  · rename_i unset
    refine ⟨unset, ?_⟩
    split at continues
    · cases continues
    · split at continues
      · cases continues
      · rename_i unexhausted
        cases continues
        exact ⟨congrArg (· + 1) samePass, rfl, rfl, UInt8.not_lt.mp unexhausted⟩
  · cases continues

theorem autoConfigureLoop_isDue (clock : PolledClock) (frames : Nat → Frame)
    (discovery : RouterDiscovery) :
    (autoConfigureLoop (pollingPasses clock frames)).isDue clock discovery =
      hasElapsed (pollingPasses clock frames discovery.passNumber).testTime
        discovery.nextRouterSolicitation 0 :=
  (hasElapsed_eq_passed _ _).symm

theorem autoConfigureLoop_sends {clock : PolledClock} {frames : Nat → Frame}
    {discovery next : RouterDiscovery}
    (continues : autoConfigurePass (pollingPasses clock frames) discovery = .inl next) :
    (autoConfigureLoop (pollingPasses clock frames)).sends discovery =
      (autoConfigureLoop (pollingPasses clock frames)).isDue clock discovery := by
  rw [autoConfigureLoop_isDue]
  change (discovery.ether.globalAddress.isZero && _) = _
  rw [(autoConfigurePass_continues continues).1, Bool.true_and]

theorem autoConfigureLoop_sent {passes : Nat → DiscoveryPass} {discovery : RouterDiscovery}
    (unset : discovery.ether.globalAddress.isZero = true) :
    (solicitRouterWhenDue (passes discovery.passNumber) discovery).ether.sent.length =
      discovery.ether.sent.length +
        ((autoConfigureLoop passes).sends discovery).toNat := by
  change _ = _ + (discovery.ether.globalAddress.isZero && _).toNat
  rw [unset, Bool.true_and]
  unfold solicitRouterWhenDue
  split
  · rename_i elapsed
    rw [elapsed, (icmp6SendRS_transmits _).sent, List.length_append]
    rfl
  · rename_i waiting
    rw [Bool.eq_false_iff.mpr waiting]
    rfl

theorem autoConfigure_count_le {passes : Nat → DiscoveryPass}
    {start discovery : RouterDiscovery} (started : start.count = 0)
    (reached : Reaches (autoConfigurePass passes) start discovery) :
    discovery.count ≤ ROUTER_SOLICITATION_ATTEMPTS := by
  cases reached with
  | start =>
      rw [started]
      decide
  | next _ continues =>
      obtain ⟨-, -, counted, -, most⟩ := autoConfigurePass_continues continues
      rw [counted]
      exact most

theorem autoConfigureLoop_polls (clock : PolledClock) (frames : Nat → Frame)
    {start : RouterDiscovery} (started : start.count = 0) :
    (autoConfigureLoop (pollingPasses clock frames)).Polls clock 3000 5 start where
  due := by
    intro discovery sends
    rw [autoConfigureLoop_isDue]
    exact (Bool.and_eq_true_iff.mp sends).2
  passNumber := fun continues => (autoConfigurePass_continues continues).2.1
  count := by
    intro discovery next continues
    have counted := (autoConfigurePass_continues continues).2.2.1
    rw [autoConfigureLoop_isDue]
    refine counted.trans ?_
    unfold solicitRouterWhenDue
    split <;> rfl
  sent := by
    intro discovery next continues sends
    have deadline := (autoConfigurePass_continues continues).2.2.2.1
    have elapsed := (Bool.and_eq_true_iff.mp sends).2
    unfold solicitRouterWhenDue at deadline
    rw [if_pos elapsed] at deadline
    exact deadline.trans (millis_add _ 3000).symm
  kept := by
    intro discovery next continues unsent
    have deadline := (autoConfigurePass_continues continues).2.2.2.1
    rw [autoConfigureLoop_sends continues, autoConfigureLoop_isDue] at unsent
    unfold solicitRouterWhenDue at deadline
    rw [if_neg (Bool.eq_false_iff.mp unsent)] at deadline
    exact deadline
  below := fun reached _ =>
    Nat.lt_succ_of_le (UInt8.le_iff_toNat_le.mp (autoConfigure_count_le started reached))
  limited := by decide
  short := by decide

theorem autoConfigureLoop_prompt (clock : PolledClock) (frames : Nat → Frame) :
    (autoConfigureLoop (pollingPasses clock frames)).Prompt clock :=
  fun continues due => (autoConfigureLoop_sends continues).trans due

theorem autoConfigureLoop_starts (passes : Nat → DiscoveryPass) (ether : EtherSia)
    (clock : PolledClock) :
    (autoConfigureLoop passes).Starts clock
      (ether.routerDiscoveryStart (millis clock.start)) :=
  ⟨rfl, rfl, rfl⟩

end EtherSia

/-! ### lookupHostname -/

namespace LookupCall

def retryLoop (call : LookupCall) (fuel : Nat) (passes : Nat → DiscoveryPass) :
    RetryLoop HostnameLookup (Option (Option IPv6Address × EtherSia)) where
  body := call.pass fuel passes
  passNumber := HostnameLookup.passNumber
  deadline := HostnameLookup.nextRequest
  count := HostnameLookup.requestCount
  sends := fun lookup => decide (lookup.requestCount ≤ DNS_REQUEST_ATTEMPTS) &&
    hasElapsed (passes lookup.passNumber).testTime lookup.nextRequest 0 &&
      decide (call.requestLength ≠ 0)

theorem requestWhenDue_passNumber (call : LookupCall) (pass : DiscoveryPass)
    (lookup : HostnameLookup) :
    (call.requestWhenDue pass lookup).passNumber = lookup.passNumber := by
  unfold requestWhenDue
  dsimp only
  split
  · split <;> rfl
  · rfl

theorem requestWhenDue_requestCount (call : LookupCall) (pass : DiscoveryPass)
    (lookup : HostnameLookup) :
    (call.requestWhenDue pass lookup).requestCount =
      if hasElapsed pass.testTime lookup.nextRequest 0 then lookup.requestCount + 1
      else lookup.requestCount := by
  unfold requestWhenDue
  dsimp only
  split
  · split <;> rfl
  · rfl

theorem makeRequest_fst (call : LookupCall) (ether : EtherSia) :
    (call.makeRequest ether).1 = call.requestLength :=
  rfl

theorem requestWhenDue_nextRequest (call : LookupCall) (pass : DiscoveryPass)
    (lookup : HostnameLookup) :
    (call.requestWhenDue pass lookup).nextRequest =
      if hasElapsed pass.testTime lookup.nextRequest 0 = true ∧ call.requestLength ≠ 0 then
        pass.restartTime + DNS_REQUEST_TIMEOUT
      else lookup.nextRequest := by
  unfold requestWhenDue
  dsimp only
  rw [makeRequest_fst]
  by_cases elapsed : hasElapsed pass.testTime lookup.nextRequest 0 = true
  · rw [if_pos elapsed]
    by_cases nonempty : call.requestLength ≠ 0
    · rw [if_pos nonempty, if_pos (And.intro elapsed nonempty)]
    · rw [if_neg nonempty, if_neg fun both => nonempty both.2]
  · rw [if_neg elapsed, if_neg fun both => elapsed both.1]

theorem retryLoop_sent {call : LookupCall} {fuel : Nat} {passes : Nat → DiscoveryPass}
    {lookup : HostnameLookup} (going : lookup.requestCount ≤ DNS_REQUEST_ATTEMPTS) :
    (call.requestWhenDue (passes lookup.passNumber) lookup).ether.sent.length =
      lookup.ether.sent.length + ((call.retryLoop fuel passes).sends lookup).toNat := by
  change _ = _ + (decide (lookup.requestCount ≤ DNS_REQUEST_ATTEMPTS) && _ &&
    decide (call.requestLength ≠ 0)).toNat
  rw [decide_eq_true going, Bool.true_and]
  unfold requestWhenDue
  dsimp only
  rw [makeRequest_fst]
  by_cases elapsed : hasElapsed (passes lookup.passNumber).testTime lookup.nextRequest 0 = true
  · rw [if_pos elapsed, elapsed, Bool.true_and]
    by_cases nonempty : call.requestLength ≠ 0
    · rw [if_pos nonempty, decide_eq_true nonempty]
      change ((call.udp.prepare false _).sent ++ [_]).length = _
      rw [List.length_append, Socket.prepare_sent]
      rfl
    · rw [if_neg nonempty, decide_eq_false nonempty]
      rfl
  · rw [if_neg elapsed, Bool.eq_false_iff.mpr elapsed, Bool.false_and]
    rfl

theorem pass_continues {call : LookupCall} {fuel : Nat} {passes : Nat → DiscoveryPass}
    {lookup next : HostnameLookup} (continues : call.pass fuel passes lookup = .inl next) :
    let requested := call.requestWhenDue (passes lookup.passNumber) lookup
    lookup.requestCount ≤ DNS_REQUEST_ATTEMPTS ∧
      next.passNumber = lookup.passNumber + 1 ∧
        next.requestCount = requested.requestCount ∧
          next.nextRequest = requested.nextRequest := by
  have samePass := call.requestWhenDue_passNumber (passes lookup.passNumber) lookup
  unfold pass at continues
  dsimp only at continues ⊢
  split at continues
  · rename_i going
    refine ⟨going, ?_⟩
    split at continues
    · cases continues
    · split at continues
      · split at continues
        · cases continues
        · cases continues
        · cases continues
          exact ⟨congrArg (· + 1) samePass, rfl, rfl⟩
      · cases continues
        exact ⟨congrArg (· + 1) samePass, rfl, rfl⟩
  · cases continues

theorem retryLoop_isDue (call : LookupCall) (fuel : Nat) (clock : PolledClock)
    (frames : Nat → Frame) (lookup : HostnameLookup) :
    (call.retryLoop fuel (pollingPasses clock frames)).isDue clock lookup =
      hasElapsed (pollingPasses clock frames lookup.passNumber).testTime
        lookup.nextRequest 0 :=
  (hasElapsed_eq_passed _ _).symm

theorem retryLoop_sends {call : LookupCall} {fuel : Nat} {clock : PolledClock}
    {frames : Nat → Frame} {lookup next : HostnameLookup}
    (continues : call.pass fuel (pollingPasses clock frames) lookup = .inl next) :
    (call.retryLoop fuel (pollingPasses clock frames)).sends lookup =
      ((call.retryLoop fuel (pollingPasses clock frames)).isDue clock lookup &&
        decide (call.requestLength ≠ 0)) := by
  rw [retryLoop_isDue]
  change (decide (lookup.requestCount ≤ DNS_REQUEST_ATTEMPTS) && _ && _) = _
  rw [decide_eq_true (pass_continues continues).1, Bool.true_and]

theorem retryLoop_polls (call : LookupCall) (fuel : Nat) (clock : PolledClock)
    (frames : Nat → Frame) (start : HostnameLookup) :
    (call.retryLoop fuel (pollingPasses clock frames)).Polls clock 3500 4 start where
  due := by
    intro lookup sends
    rw [retryLoop_isDue]
    exact (Bool.and_eq_true_iff.mp (Bool.and_eq_true_iff.mp sends).1).2
  passNumber := fun continues => (pass_continues continues).2.1
  count := by
    intro lookup next continues
    rw [retryLoop_isDue]
    exact (pass_continues continues).2.2.1.trans (requestWhenDue_requestCount _ _ _)
  sent := by
    intro lookup next continues sends
    rw [retryLoop_sends continues, retryLoop_isDue, Bool.and_eq_true_iff,
      decide_eq_true_iff] at sends
    have deadline := (pass_continues continues).2.2.2
    rw [requestWhenDue_nextRequest, if_pos sends] at deadline
    exact deadline.trans (millis_add _ 3500).symm
  kept := by
    intro lookup next continues unsent
    rw [retryLoop_sends continues, retryLoop_isDue, Bool.eq_false_iff, Ne,
      Bool.and_eq_true_iff, decide_eq_true_iff] at unsent
    have deadline := (pass_continues continues).2.2.2
    rw [requestWhenDue_nextRequest, if_neg unsent] at deadline
    exact deadline
  below := fun _ continues =>
    Nat.lt_succ_of_le (UInt8.le_iff_toNat_le.mp (pass_continues continues).1)
  limited := by decide
  short := by decide

theorem retryLoop_prompt {call : LookupCall} (nonempty : call.requestLength ≠ 0)
    (fuel : Nat) (clock : PolledClock) (frames : Nat → Frame) :
    (call.retryLoop fuel (pollingPasses clock frames)).Prompt clock := by
  intro lookup next continues due
  rw [retryLoop_sends continues, due, decide_eq_true nonempty]
  rfl

/-- Without a request nothing is sent. -/
theorem retryLoop_silent {call : LookupCall} (empty : call.requestLength = 0) (fuel : Nat)
    (passes : Nat → DiscoveryPass) (lookup : HostnameLookup) :
    (call.retryLoop fuel passes).sends lookup = false := by
  change (_ && decide (call.requestLength ≠ 0)) = false
  rw [decide_eq_false (not_not.mpr empty), Bool.and_false]

theorem retryLoop_starts (call : LookupCall) (fuel : Nat) (passes : Nat → DiscoveryPass)
    (ether : EtherSia) (clock : PolledClock) :
    (call.retryLoop fuel passes).Starts clock (start ether (millis clock.start)) :=
  ⟨rfl, rfl, rfl⟩

end LookupCall

/-! ### The loops end -/

theorem EtherSia.discoverLoop_endsSpaced (ether : EtherSia) (address : IPv6Address)
    (attempts : UInt8) (clock : PolledClock) (frames : Nat → Frame) :
    (discoverLoop address attempts (pollingPasses clock frames)).EndsSpaced clock 500
      (ether.discoveryStart (millis clock.start)) :=
  RetryLoop.endsSpaced (discoverLoop_polls address attempts clock frames _)
    (discoverLoop_prompt address attempts clock frames)
    (discoverLoop_starts address attempts _ ether clock)

theorem EtherSia.autoConfigureLoop_endsSpaced (ether : EtherSia) (clock : PolledClock)
    (frames : Nat → Frame) :
    (autoConfigureLoop (pollingPasses clock frames)).EndsSpaced clock 3000
      (ether.routerDiscoveryStart (millis clock.start)) :=
  RetryLoop.endsSpaced (autoConfigureLoop_polls clock frames rfl)
    (autoConfigureLoop_prompt clock frames) (autoConfigureLoop_starts _ ether clock)

theorem LookupCall.retryLoop_endsSpaced (call : LookupCall) (fuel : Nat) (ether : EtherSia)
    (clock : PolledClock) (frames : Nat → Frame) :
    (call.retryLoop fuel (pollingPasses clock frames)).EndsSpaced clock 3500
      (start ether (millis clock.start)) where
  ends := RetryLoop.ends (call.retryLoop_polls fuel clock frames _)
  spaced := by
    intro early late earlyReached earlySent lateReached lateSent
    by_cases empty : call.requestLength = 0
    · rw [retryLoop_silent empty] at earlySent
      cases earlySent
    · exact RetryLoop.sends_spaced (call.retryLoop_polls fuel clock frames _)
        (retryLoop_prompt empty fuel clock frames)
        (call.retryLoop_starts fuel _ ether clock) earlyReached earlySent lateReached
        lateSent

/-- What a call of `lookupHostname` sees under two clocks, that of the discovery of its
resolver and its own. -/
def LookupSurroundings.polling (id randomPort : UInt16) (unsetMac : MACAddress)
    (discoveryClock clock : PolledClock) (discoveryFrames frames : Nat → Frame) :
    LookupSurroundings where
  now := millis clock.start
  id := id
  randomPort := randomPort
  unsetMac := unsetMac
  discoveryNow := millis discoveryClock.start
  discoveryPasses := pollingPasses discoveryClock discoveryFrames
  passes := pollingPasses clock frames

/-- No pass of a call of `lookupHostname` hangs, and its clocks keep advancing; the
resolver is discovered only on the link. -/
structure EtherSia.LookupAdvances (ether : EtherSia) (hostname : List UInt8) (fuel : Nat)
    (surroundings : LookupSurroundings) (discoveryClock clock : PolledClock) : Prop where
  discovers : ether.inOurSubnet ether.dnsServerAddress ≠ none → RetryLoop.KeepsAdvancing
    (discoverLoop ether.dnsServerAddress NEIGHBOUR_SOLICITATION_ATTEMPTS
      surroundings.discoveryPasses)
    discoveryClock (ether.discoveryStart surroundings.discoveryNow)
  discoveryReturns : ether.inOurSubnet ether.dnsServerAddress ≠ none →
    RetryLoop.EveryPassReturns
      (discoverLoop ether.dnsServerAddress NEIGHBOUR_SOLICITATION_ATTEMPTS
        surroundings.discoveryPasses) (ether.discoveryStart surroundings.discoveryNow)
  polls : ∀ call after, ether.StartsLookup hostname surroundings call after →
    (call.retryLoop fuel surroundings.passes).KeepsAdvancing clock
      (LookupCall.start after surroundings.now)
  returns : ∀ call after, ether.StartsLookup hostname surroundings call after →
    (call.retryLoop fuel surroundings.passes).EveryPassReturns
      (LookupCall.start after surroundings.now)

theorem EtherSia.lookupHostname_ends {ether : EtherSia} {hostname : List UInt8}
    {fuel : Nat} {id randomPort : UInt16} {unsetMac : MACAddress}
    {discoveryClock clock : PolledClock} {discoveryFrames frames : Nat → Frame}
    (advances : ether.LookupAdvances hostname fuel
      (.polling id randomPort unsetMac discoveryClock clock discoveryFrames frames)
      discoveryClock clock) :
    ∃ result, ether.LookupHostname hostname fuel
      (.polling id randomPort unsetMac discoveryClock clock discoveryFrames frames)
      result := by
  obtain ⟨call, after, starts⟩ : ∃ call after, ether.StartsLookup hostname
      (.polling id randomPort unsetMac discoveryClock clock discoveryFrames frames)
      call after := by
    unfold StartsLookup Socket.SetRemoteAddress
    dsimp only
    by_cases onLink : ether.inOurSubnet ether.dnsServerAddress ≠ none
    · obtain ⟨⟨mac, after⟩, discovered⟩ :=
        (ether.discoverLoop_endsSpaced ether.dnsServerAddress
          NEIGHBOUR_SOLICITATION_ATTEMPTS discoveryClock discoveryFrames).ends
            (advances.discovers onLink) (advances.discoveryReturns onLink)
      simp only [if_pos onLink]
      cases mac with
      | none => exact ⟨⟨hostname, id, _⟩, after, rfl, rfl, false, none, after, discovered, rfl⟩
      | some mac =>
          exact ⟨⟨hostname, id, _⟩, after, rfl, rfl, true, some mac, after, discovered, rfl⟩
    · simp only [if_neg onLink]
      exact ⟨⟨hostname, id, _⟩, ether, rfl, rfl, true, rfl⟩
  obtain ⟨result, returns⟩ := (call.retryLoop_endsSpaced fuel after clock frames).ends
    (advances.polls call after starts) (advances.returns call after starts)
  exact ⟨result, call, after, starts, returns⟩

/-- A poll every `period` ms, without a pause between a test and a restart. -/
def steadyClock (start period : Nat) : PolledClock where
  start := start
  test := fun pass => start + period * pass
  restart := fun pass => start + period * pass
  starts := Nat.le_add_right _ _
  ordered := fun _ => le_rfl
  advances := fun _ => Nat.add_le_add_left (Nat.mul_le_mul_left _ (Nat.le_succ _)) _

/-- Nothing is received. -/
def emptyFrame : Frame :=
  ⟨[], Nat.zero_le _⟩

theorem steadyClock_advances {σ ρ : Type} {loop : RetryLoop σ ρ} {began period : Nat}
    {timeout limit : Nat} {start : σ} (positive : 0 < period) (short : period < 2147483648)
    (polls : loop.Polls (steadyClock began period) timeout limit start) :
    loop.KeepsAdvancing (steadyClock began period) start where
  unbounded := fun time =>
    ⟨time, (Nat.le_mul_of_pos_left time positive).trans (Nat.le_add_left _ _)⟩
  gaps := by
    intro state next _ continues
    have sameTime : (steadyClock began period).restart = (steadyClock began period).test :=
      rfl
    rw [polls.passNumber continues, RetryLoop.lastReading, sameTime, ite_self]
    change began + period * (loop.passNumber state + 1) <
      began + period * loop.passNumber state + 2147483648
    rw [Nat.mul_add_one]
    omega

end EtherSiaStack
