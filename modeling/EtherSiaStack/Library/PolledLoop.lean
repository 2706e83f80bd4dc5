/-
Loops that send again whenever a deadline has passed.

The loop reads a clock that counts milliseconds modulo 2^32, and takes a deadline to
have passed when it lies less than 2^31 back.  The clock itself is a natural number that
never runs backwards: a deadline then stands for the first of its times that the
clock has not gone beyond, and this reading of it survives every wrap.  The rules
give the distance between two sends, a bound on their number and termination.
-/

import EtherSiaStack.Library.FuelLoop

namespace FuelLoop

/-! ### The clock -/

/-- What a clock at this time shows. -/
def millis (time : Nat) : UInt32 :=
  UInt32.ofNat time

/-- The sign test on the difference of two readings. -/
def passed (now deadline : UInt32) : Bool :=
  (now - deadline).toNat < 2147483648

/-- The times a loop reads the clock at: before it starts, in each pass to test the
deadline, and once more in a pass that sends. -/
structure PolledClock where
  start : Nat
  test : Nat → Nat
  restart : Nat → Nat
  starts : start ≤ test 0
  ordered : ∀ pass, test pass ≤ restart pass
  advances : ∀ pass, restart pass ≤ test (pass + 1)

theorem PolledClock.test_mono (clock : PolledClock) {early late : Nat}
    (before : early ≤ late) : clock.test early ≤ clock.test late := by
  induction before with
  | refl => exact le_rfl
  | step _ ih => exact ih.trans ((clock.ordered _).trans (clock.advances _))

theorem millis_add (time : Nat) (span : Nat) :
    millis (time + span) = millis time + UInt32.ofNat span :=
  UInt32.ofNat_add time span

theorem passed_millis (now deadline : Nat) :
    passed (millis now) (millis deadline) = true ↔
      (4294967296 - deadline % 4294967296 + now) % 4294967296 < 2147483648 := by
  unfold passed millis
  rw [decide_eq_true_iff, UInt32.toNat_sub, UInt32.toNat_ofNat', UInt32.toNat_ofNat']
  omega

theorem passed_of_le {now deadline : Nat} (reached : deadline ≤ now)
    (soon : now < deadline + 2147483648) :
    passed (millis now) (millis deadline) = true := by
  rw [passed_millis]
  omega

theorem not_passed_of_lt {now deadline : Nat} (before : now < deadline)
    (soon : deadline ≤ now + 2147483648) :
    passed (millis now) (millis deadline) = false := by
  rw [Bool.eq_false_iff, Ne, passed_millis]
  omega

/-- A deadline that has not passed stands for a time ahead, within half the range of
the clock. -/
theorem exists_ahead_of_not_passed {now deadline : Nat}
    (notPassed : passed (millis now) (millis deadline) = false) :
    ∃ ahead, millis ahead = millis deadline ∧ now < ahead ∧ ahead ≤ now + 2147483648 := by
  rw [Bool.eq_false_iff, Ne, passed_millis] at notPassed
  refine ⟨now + (4294967296 - (4294967296 - deadline % 4294967296 + now) % 4294967296),
    ?_, by omega, by omega⟩
  apply UInt32.toNat_inj.mp
  unfold millis
  rw [UInt32.toNat_ofNat', UInt32.toNat_ofNat']
  omega

/-! ### The loop -/

theorem Reaches.cases_head {σ ρ : Type*} {body : σ → σ ⊕ ρ} {start state : σ}
    (reached : Reaches body start state) :
    state = start ∨ ∃ next, body start = .inl next ∧ Reaches body next state := by
  induction reached with
  | start => exact Or.inl rfl
  | @next state next _ continues ih =>
      rcases ih with rfl | ⟨first, firstContinues, fromFirst⟩
      · exact Or.inr ⟨next, continues, .start⟩
      · exact Or.inr ⟨first, firstContinues, fromFirst.next continues⟩

theorem Reaches.trans {σ ρ : Type*} {body : σ → σ ⊕ ρ} {first second third : σ}
    (onward : Reaches body first second) (further : Reaches body second third) :
    Reaches body first third := by
  induction further with
  | start => exact onward
  | next _ continues ih => exact ih.next continues

/-- A run is a line: of two states on it one is reached from the other. -/
theorem Reaches.total {σ ρ : Type*} {body : σ → σ ⊕ ρ} {start first second : σ}
    (reachesFirst : Reaches body start first) (reachesSecond : Reaches body start second) :
    Reaches body first second ∨ Reaches body second first := by
  induction reachesFirst with
  | start => exact Or.inl reachesSecond
  | @next state next _ continues ih =>
      rcases ih with onward | back
      · rcases onward.cases_head with rfl | ⟨other, otherContinues, fromOther⟩
        · exact Or.inr (.next .start continues)
        · rw [continues] at otherContinues
          cases otherContinues
          exact Or.inl fromOther
      · exact Or.inr (back.next continues)


/-- A loop with the parts of its state that its retries depend on, and the test whether
the pass from a state sends. -/
structure RetryLoop (σ ρ : Type*) where
  body : σ → σ ⊕ ρ
  passNumber : σ → Nat
  deadline : σ → UInt32
  count : σ → UInt8
  sends : σ → Bool

variable {σ ρ : Type*}

namespace RetryLoop

/-- The deadline of the pass from this state has passed. -/
def isDue (loop : RetryLoop σ ρ) (clock : PolledClock) (state : σ) : Bool :=
  passed (millis (clock.test (loop.passNumber state))) (loop.deadline state)

/-- What one pass does: it sends only when it is due, a pass that is due is counted, and
one that sends sets the next deadline.  A run from `start` goes on below a limit. -/
structure Polls (loop : RetryLoop σ ρ) (clock : PolledClock) (timeout limit : Nat)
    (start : σ) : Prop where
  due : ∀ {state}, loop.sends state = true → loop.isDue clock state = true
  passNumber : ∀ {state next}, loop.body state = .inl next →
    loop.passNumber next = loop.passNumber state + 1
  count : ∀ {state next}, loop.body state = .inl next →
    loop.count next =
      if loop.isDue clock state then loop.count state + 1 else loop.count state
  sent : ∀ {state next}, loop.body state = .inl next → loop.sends state = true →
    loop.deadline next = millis (clock.restart (loop.passNumber state) + timeout)
  kept : ∀ {state next}, loop.body state = .inl next → loop.sends state = false →
    loop.deadline next = loop.deadline state
  below : ∀ {state next}, Reaches loop.body start state → loop.body state = .inl next →
    (loop.count state).toNat < limit
  limited : limit ≤ 255
  short : timeout ≤ 2147483648

/-- Before the first pass: the deadline is the time the loop started. -/
structure Starts (loop : RetryLoop σ ρ) (clock : PolledClock) (state : σ) : Prop where
  passNumber : loop.passNumber state = 0
  deadline : loop.deadline state = millis clock.start
  count : loop.count state = 0

variable {loop : RetryLoop σ ρ} {clock : PolledClock} {timeout limit : Nat} {start : σ}

/-- Each pass that is due and goes on has sent. -/
def Prompt (loop : RetryLoop σ ρ) (clock : PolledClock) : Prop :=
  ∀ {state next}, loop.body state = .inl next → loop.isDue clock state = true →
    loop.sends state = true

/-- The last reading of the clock in the pass from this state. -/
def lastReading (loop : RetryLoop σ ρ) (clock : PolledClock) (state : σ) : Nat :=
  if loop.sends state then clock.restart (loop.passNumber state)
  else clock.test (loop.passNumber state)

theorem Polls.passNumber_le (polls : loop.Polls clock timeout limit start) {first second : σ}
    (reached : Reaches loop.body first second) :
    first = second ∨ loop.passNumber first < loop.passNumber second := by
  induction reached with
  | start => exact Or.inl rfl
  | next _ continues ih =>
      right
      rw [polls.passNumber continues]
      rcases ih with rfl | before
      · exact Nat.lt_succ_self _
      · exact Nat.lt_succ_of_lt before

/-- A run goes through one state for each pass. -/
theorem Polls.reaches_eq (polls : loop.Polls clock timeout limit start) {first second : σ}
    (reachesFirst : Reaches loop.body start first)
    (reachesSecond : Reaches loop.body start second)
    (same : loop.passNumber first = loop.passNumber second) : first = second := by
  rcases reachesFirst.total reachesSecond with onward | onward
  · exact (polls.passNumber_le onward).resolve_right (by omega)
  · exact ((polls.passNumber_le onward).resolve_right (by omega)).symm

/-! ### Distance -/

/-- The deadline of a state stands for a time that lies a timeout behind each send of
the run so far, and at most half the range of the clock behind a reading before the
next test. -/
structure AheadOf (loop : RetryLoop σ ρ) (clock : PolledClock) (timeout : Nat)
    (start state : σ) (last ahead : Nat) : Prop where
  deadline : loop.deadline state = millis ahead
  beforeTest : last ≤ clock.test (loop.passNumber state)
  soon : ahead ≤ last + 2147483648
  behindSends : ∀ early, Reaches loop.body start early → loop.sends early = true →
    loop.passNumber early < loop.passNumber state →
      clock.restart (loop.passNumber early) + timeout ≤ ahead

/-- When the deadline has passed, so has the time it stands for. -/
theorem AheadOf.le_test {state : σ} {last ahead : Nat}
    (invariant : AheadOf loop clock timeout start state last ahead)
    (due : loop.isDue clock state = true) :
    ahead ≤ clock.test (loop.passNumber state) := by
  by_contra before
  have soon := invariant.soon
  have beforeTest := invariant.beforeTest
  unfold isDue at due
  rw [invariant.deadline, not_passed_of_lt (by omega) (by omega)] at due
  cases due

theorem exists_aheadOf (polls : loop.Polls clock timeout limit start)
    (prompt : loop.Prompt clock) {state : σ} (starts : loop.Starts clock start)
    (reached : Reaches loop.body start state) :
    ∃ last ahead, AheadOf loop clock timeout start state last ahead := by
  induction reached with
  | start =>
      refine ⟨clock.start, clock.start, starts.deadline, ?_, Nat.le_add_right _ _, ?_⟩
      · rw [starts.passNumber]
        exact clock.starts
      · intro early _ _ before
        rw [starts.passNumber] at before
        exact absurd before (Nat.not_lt_zero _)
  | @next state next stateReached continues ih =>
      obtain ⟨last, ahead, invariant⟩ := ih
      have numbered := polls.passNumber continues
      have ordered := clock.ordered (loop.passNumber state)
      have advances := clock.advances (loop.passNumber state)
      have beforeTest := invariant.beforeTest
      have soon := invariant.soon
      have short := polls.short
      cases isSent : loop.sends state with
      | true =>
          have reachedDeadline := invariant.le_test (polls.due isSent)
          refine ⟨clock.restart (loop.passNumber state), _, polls.sent continues isSent, ?_,
            by omega, ?_⟩
          · rw [numbered]
            exact advances
          · intro early earlyReached earlySent before
            rcases Nat.lt_succ_iff_lt_or_eq.mp (numbered ▸ before) with earlier | same
            · have behind := invariant.behindSends early earlyReached earlySent earlier
              omega
            · rw [same]
      | false =>
          have notDue : loop.isDue clock state = false := by
            by_contra due
            rw [prompt continues (Bool.eq_true_of_not_eq_false due)] at isSent
            cases isSent
          have kept := polls.kept continues isSent
          have stillBehind (later : Nat) (notEarlier : ahead ≤ later) (early : σ)
              (earlyReached : Reaches loop.body start early)
              (earlySent : loop.sends early = true)
              (before : loop.passNumber early < loop.passNumber next) :
              clock.restart (loop.passNumber early) + timeout ≤ later := by
            rcases Nat.lt_succ_iff_lt_or_eq.mp (numbered ▸ before) with earlier | same
            · exact (invariant.behindSends early earlyReached earlySent earlier).trans
                notEarlier
            · rw [polls.reaches_eq earlyReached stateReached same, isSent] at earlySent
              cases earlySent
          have nextTest : clock.test (loop.passNumber state) ≤
              clock.test (loop.passNumber next) := by
            rw [numbered]
            exact ordered.trans advances
          by_cases behind : clock.test (loop.passNumber state) < ahead
          · exact ⟨clock.test (loop.passNumber state), ahead, kept.trans invariant.deadline,
              nextTest, by omega, stillBehind ahead le_rfl⟩
          · unfold isDue at notDue
            rw [invariant.deadline] at notDue
            obtain ⟨later, same, isAhead, soonAfter⟩ := exists_ahead_of_not_passed notDue
            exact ⟨clock.test (loop.passNumber state), later,
              kept.trans (invariant.deadline.trans same.symm), nextTest, soonAfter,
              stillBehind later (by omega)⟩

/-- Two sends of a run lie at least the timeout apart. -/
theorem sends_spaced (polls : loop.Polls clock timeout limit start) (prompt : loop.Prompt clock)
    {early late : σ} (starts : loop.Starts clock start)
    (earlyReached : Reaches loop.body start early) (earlySent : loop.sends early = true)
    (lateReached : Reaches loop.body start late) (lateSent : loop.sends late = true)
    (before : loop.passNumber early < loop.passNumber late) :
    clock.restart (loop.passNumber early) + timeout ≤
      clock.test (loop.passNumber late) := by
  obtain ⟨last, ahead, invariant⟩ := exists_aheadOf polls prompt starts lateReached
  exact (invariant.behindSends early earlyReached earlySent before).trans
    (invariant.le_test (polls.due lateSent))

/-! ### Termination -/

/-- The clock gets beyond every time, and in the run from `start` less than half its
range passes from one reading to the next. -/
structure KeepsAdvancing (loop : RetryLoop σ ρ) (clock : PolledClock) (start : σ) :
    Prop where
  unbounded : ∀ time, ∃ pass, time ≤ clock.test pass
  gaps : ∀ {state next}, Reaches loop.body start state → loop.body state = .inl next →
    clock.test (loop.passNumber next) < loop.lastReading clock state + 2147483648

/-- The loop is left, or a pass is counted and the loop goes on. -/
def LeavesOrCounts (loop : RetryLoop σ ρ) (limit : Nat) (state : σ) : Prop :=
  (∃ result, Returns loop.body state result) ∨
    ∃ next, Reaches loop.body state next ∧ loop.count next = loop.count state + 1 ∧
      (loop.count state).toNat < limit

theorem LeavesOrCounts.head {state next : σ} (continues : loop.body state = .inl next)
    (same : loop.count next = loop.count state)
    (later : loop.LeavesOrCounts limit next) : loop.LeavesOrCounts limit state := by
  rcases later with ⟨result, returns⟩ | ⟨final, reached, counted, below⟩
  · exact Or.inl ⟨result, returns.head continues⟩
  · rw [same] at counted below
    exact Or.inr ⟨final, reached.head continues, counted, below⟩

/-- A pass that is not due does not change what is waited for. -/
theorem Polls.waits (polls : loop.Polls clock timeout limit start) {state next : σ}
    (continues : loop.body state = .inl next)
    (notDue : loop.isDue clock state = false) :
    loop.sends state = false ∧ loop.deadline next = loop.deadline state ∧
      loop.count next = loop.count state := by
  have unsent : loop.sends state = false := by
    by_contra sent
    rw [polls.due (Bool.eq_true_of_not_eq_false sent)] at notDue
    cases notDue
  refine ⟨unsent, polls.kept continues unsent, ?_⟩
  rw [polls.count continues, notDue]
  rfl

/-- The first test at or behind the deadline finds it passed. -/
theorem leavesOrCounts_of_soon (polls : loop.Polls clock timeout limit start) {state : σ}
    (advancing : loop.KeepsAdvancing clock start) (reached : Reaches loop.body start state)
    {ahead : Nat} (deadline : loop.deadline state = millis ahead)
    (soon : clock.test (loop.passNumber state) < ahead + 2147483648) :
    loop.LeavesOrCounts limit state := by
  obtain ⟨last, later⟩ := advancing.unbounded ahead
  -- induction on the passes until one in which the clock is known to be beyond
  induction wait : last - loop.passNumber state using Nat.strong_induction_on
    generalizing state with
  | _ wait ih =>
      cases pass : loop.body state with
      | inr result => exact Or.inl ⟨result, 1, run_leave pass 0⟩
      | inl next =>
          cases isDue : loop.isDue clock state with
          | true =>
              have counted := polls.count pass
              rw [isDue] at counted
              exact Or.inr ⟨next, .next .start pass, counted, polls.below reached pass⟩
          | false =>
              obtain ⟨unsent, kept, same⟩ := polls.waits pass isDue
              have numbered := polls.passNumber pass
              have before : clock.test (loop.passNumber state) < ahead := by
                by_contra reachedDeadline
                unfold RetryLoop.isDue at isDue
                rw [deadline, passed_of_le (by omega) soon] at isDue
                cases isDue
              have notLast : loop.passNumber state < last := by
                by_contra beyond
                have atLeast := clock.test_mono (Nat.not_lt.mp beyond)
                omega
              have gap := advancing.gaps reached pass
              unfold lastReading at gap
              rw [unsent, if_neg Bool.false_ne_true] at gap
              exact (ih _ (by omega) (reached.next pass) (kept.trans deadline) (by omega)
                rfl).head pass same

theorem leavesOrCounts (polls : loop.Polls clock timeout limit start) {state : σ}
    (advancing : loop.KeepsAdvancing clock start)
    (reached : Reaches loop.body start state) : loop.LeavesOrCounts limit state := by
  cases pass : loop.body state with
  | inr result => exact Or.inl ⟨result, 1, run_leave pass 0⟩
  | inl next =>
      cases isDue : loop.isDue clock state with
      | true =>
          have counted := polls.count pass
          rw [isDue] at counted
          exact Or.inr ⟨next, .next .start pass, counted, polls.below reached pass⟩
      | false =>
          obtain ⟨unsent, kept, same⟩ := polls.waits pass isDue
          have shown : loop.deadline state = millis (loop.deadline state).toNat :=
            UInt32.ofNat_toNat.symm
          have notPassed := isDue
          unfold RetryLoop.isDue at notPassed
          rw [shown] at notPassed
          obtain ⟨ahead, sameDeadline, isAhead, -⟩ := exists_ahead_of_not_passed notPassed
          have gap := advancing.gaps reached pass
          unfold lastReading at gap
          rw [unsent, if_neg Bool.false_ne_true] at gap
          exact (leavesOrCounts_of_soon polls advancing (reached.next pass)
            (kept.trans (shown.trans sameDeadline.symm)) (by omega)).head pass same

/-- A retry loop is left, whatever the clock shows when it starts. -/
theorem leaves (polls : loop.Polls clock timeout limit start)
    (advancing : loop.KeepsAdvancing clock start) :
    ∃ result, Returns loop.body start result := by
  suffices fromReached : ∀ state, Reaches loop.body start state →
      ∃ result, Returns loop.body state result from fromReached start .start
  intro state reached
  induction budget : limit - (loop.count state).toNat using Nat.strong_induction_on
    generalizing state with
  | _ budget ih =>
      rcases leavesOrCounts polls advancing reached with
        returns | ⟨next, onward, counted, below⟩
      · exact returns
      · have limited := polls.limited
        have raised : (loop.count next).toNat = (loop.count state).toNat + 1 := by
          rw [counted, UInt8.toNat_add]
          exact Nat.mod_eq_of_lt (by change (loop.count state).toNat + 1 < 256; omega)
        obtain ⟨result, returns⟩ := ih _ (by omega) next (reached.trans onward) rfl
        exact ⟨result, onward.returns returns⟩

/-- Every pass of the run that is the last one leaves with a result: no call inside the
loop hangs. -/
def EveryPassReturns (loop : RetryLoop σ (Option ρ)) (start : σ) : Prop :=
  ∀ state, Reaches loop.body start state → loop.body state ≠ .inr none

/-- The loop ends with a result, and its sends lie the timeout apart. -/
structure EndsSpaced (loop : RetryLoop σ (Option ρ)) (clock : PolledClock) (timeout : Nat)
    (start : σ) : Prop where
  ends : loop.KeepsAdvancing clock start → loop.EveryPassReturns start →
    ∃ result, Returns loop.body start (some result)
  spaced : ∀ early late, Reaches loop.body start early → loop.sends early = true →
    Reaches loop.body start late → loop.sends late = true →
      loop.passNumber early < loop.passNumber late →
        clock.restart (loop.passNumber early) + timeout ≤ clock.test (loop.passNumber late)

theorem ends {loop : RetryLoop σ (Option ρ)} (polls : loop.Polls clock timeout limit start)
    (advancing : loop.KeepsAdvancing clock start) (returning : loop.EveryPassReturns start) :
    ∃ result, Returns loop.body start (some result) := by
  obtain ⟨outcome, returns⟩ := leaves polls advancing
  cases outcome with
  | some result => exact ⟨result, returns⟩
  | none =>
      obtain ⟨state, reached, left⟩ := returns_iff_reaches.mp returns
      exact absurd left (returning state reached)

theorem endsSpaced {loop : RetryLoop σ (Option ρ)}
    (polls : loop.Polls clock timeout limit start) (prompt : loop.Prompt clock)
    (starts : loop.Starts clock start) : loop.EndsSpaced clock timeout start where
  ends := ends polls
  spaced := fun _ _ earlyReached earlySent lateReached lateSent =>
    sends_spaced polls prompt starts earlyReached earlySent lateReached lateSent

/-! ### Number of sends -/

/-- How often at most `fuel` passes send. -/
def sendings (loop : RetryLoop σ ρ) : Nat → σ → Nat
  | 0, _ => 0
  | fuel + 1, state =>
      (loop.sends state).toNat +
        match loop.body state with
        | .inr _ => 0
        | .inl next => loop.sendings fuel next

theorem sendings_continue {state next : σ} (continues : loop.body state = .inl next)
    (fuel : Nat) :
    loop.sendings (fuel + 1) state =
      (loop.sends state).toNat + loop.sendings fuel next := by
  rw [sendings, continues]

theorem sendings_eq_zero (silent : ∀ state, loop.sends state = false) (fuel : Nat)
    (state : σ) : loop.sendings fuel state = 0 := by
  induction fuel generalizing state with
  | zero => rfl
  | succ fuel ih =>
      rw [sendings, silent]
      cases loop.body state with
      | inr result => rfl
      | inl next => exact (Nat.zero_add _).trans (ih next)

/-- With prompt sends the count is the number of sends. -/
theorem Polls.count_sends (polls : loop.Polls clock timeout limit start)
    (prompt : loop.Prompt clock) {state next : σ} (reached : Reaches loop.body start state)
    (continues : loop.body state = .inl next) :
    (loop.count next).toNat = (loop.count state).toNat + (loop.sends state).toNat := by
  have counted := polls.count continues
  cases isDue : loop.isDue clock state with
  | true =>
      have below := polls.below reached continues
      have limited := polls.limited
      rw [prompt continues isDue, counted, isDue, if_pos rfl, UInt8.toNat_add]
      exact Nat.mod_eq_of_lt (by change (loop.count state).toNat + 1 < 256; omega)
  | false =>
      rw [(polls.waits continues isDue).1, (polls.waits continues isDue).2.2]
      rfl

theorem sendings_of_reaches (polls : loop.Polls clock timeout limit start)
    (prompt : loop.Prompt clock) {state : σ} (starts : loop.Starts clock start)
    (reached : Reaches loop.body start state) :
    ∃ fuel, ∀ more, loop.sendings (fuel + more) start =
      (loop.count state).toNat + loop.sendings more state := by
  induction reached with
  | start =>
      refine ⟨0, fun more => ?_⟩
      rw [starts.count, Nat.zero_add]
      exact (Nat.zero_add _).symm
  | next before continues ih =>
      obtain ⟨fuel, sofar⟩ := ih
      refine ⟨fuel + 1, fun more => ?_⟩
      rw [Nat.add_assoc, Nat.add_comm 1, sofar, sendings_continue continues,
        polls.count_sends prompt before continues, Nat.add_assoc]

theorem sendings_add_count_le (polls : loop.Polls clock timeout limit start)
    (prompt : loop.Prompt clock) {most : Nat}
    (stops : ∀ state, Reaches loop.body start state → (loop.count state).toNat = most →
      loop.sends state = false) (fuel : Nat) {state : σ}
    (reached : Reaches loop.body start state) (counted : (loop.count state).toNat ≤ most) :
    (loop.count state).toNat + loop.sendings fuel state ≤ most := by
  induction fuel generalizing state with
  | zero => exact counted
  | succ fuel ih =>
      have room : (loop.count state).toNat + (loop.sends state).toNat ≤ most := by
        cases isSent : loop.sends state with
        | true =>
            have below : (loop.count state).toNat ≠ most := by
              intro full
              rw [stops state reached full] at isSent
              cases isSent
            change (loop.count state).toNat + 1 ≤ most
            omega
        | false => exact counted
      cases pass : loop.body state with
      | inr result =>
          rw [sendings, pass]
          exact room
      | inl next =>
          have following := polls.count_sends prompt reached pass
          rw [sendings_continue pass, ← Nat.add_assoc, ← following]
          exact ih (reached.next pass) (by omega)

/-- A bound on the number of sends is kept exactly if no pass sends once the bound has
been counted. -/
theorem sendings_le_iff (polls : loop.Polls clock timeout limit start)
    (prompt : loop.Prompt clock) (starts : loop.Starts clock start)
    (most : Nat) :
    (∀ fuel, loop.sendings fuel start ≤ most) ↔
      ∀ state, Reaches loop.body start state → (loop.count state).toNat = most →
        loop.sends state = false := by
  constructor
  · intro bounded state reached full
    by_contra isSent
    obtain ⟨fuel, sofar⟩ := sendings_of_reaches polls prompt starts reached
    have one : loop.sendings 1 state ≥ 1 := by
      rw [sendings, Bool.eq_true_of_not_eq_false isSent]
      exact Nat.le_add_right 1 _
    have total := bounded (fuel + 1)
    rw [sofar 1] at total
    omega
  · intro stops fuel
    have total := sendings_add_count_le polls prompt stops fuel .start (by rw [starts.count]; exact Nat.zero_le _)
    rw [starts.count] at total
    exact (Nat.le_add_left _ _).trans total

/-! ### Answers -/

/-- The run gets to a pass, or is left before it. -/
theorem exists_reached (polls : loop.Polls clock timeout limit start) {early : σ}
    {late : Nat} (before : loop.passNumber early ≤ late) :
    ∃ state, Reaches loop.body early state ∧
      (loop.passNumber state = late ∨
        loop.passNumber state < late ∧ ∃ result, loop.body state = .inr result) := by
  induction late, before using Nat.le_induction with
  | base => exact ⟨early, .start, Or.inl rfl⟩
  | succ late _ ih =>
      obtain ⟨state, reached, here | ⟨earlier, left⟩⟩ := ih
      · cases pass : loop.body state with
        | inr result =>
            exact ⟨state, reached, Or.inr ⟨by omega, result, pass⟩⟩
        | inl next =>
            refine ⟨next, reached.next pass, Or.inl ?_⟩
            rw [polls.passNumber pass, here]
      · exact ⟨state, reached, Or.inr ⟨by omega, left⟩⟩

/-- A loop that gives up once `limit` passes have been counted, and succeeds in a pass
that is answered before that. -/
structure Answered (loop : RetryLoop σ (Option ρ)) (limit : Nat) (start : σ)
    (success : ρ → Prop) (answered : σ → Prop) : Prop where
  succeeds : ∀ {state}, Reaches loop.body start state → (loop.count state).toNat < limit →
    answered state → ∃ result, loop.body state = .inr (some result) ∧ success result
  answers : ∀ {state result}, (loop.count state).toNat < limit →
    loop.body state = .inr (some result) → success result ∧ answered state
  fails : ∀ {state}, limit ≤ (loop.count state).toNat →
    ∃ result, loop.body state = .inr (some result) ∧ ¬success result

/-- A state in which the loop gives up comes from the pass that counts the last. -/
theorem exists_last (polls : loop.Polls clock timeout limit start)
    (prompt : loop.Prompt clock) {early state : σ}
    (earlyReached : Reaches loop.body start early)
    (below : (loop.count early).toNat < limit) (onward : Reaches loop.body early state)
    (full : limit ≤ (loop.count state).toNat) :
    ∃ last, Reaches loop.body start last ∧ loop.sends last = true ∧
      (loop.count last).toNat + 1 = limit ∧
        loop.passNumber last < loop.passNumber state ∧
          ∃ next, loop.body last = .inl next := by
  cases onward with
  | start => exact absurd below (Nat.not_lt.mpr full)
  | @next last _ reached continues =>
      have lastReached := earlyReached.trans reached
      have lastBelow := polls.below lastReached continues
      have counted := polls.count_sends prompt lastReached continues
      have numbered := polls.passNumber continues
      cases isSent : loop.sends last with
      | true =>
          rw [isSent] at counted
          have one : true.toNat = 1 := rfl
          exact ⟨last, lastReached, isSent, by omega, by omega, _, continues⟩
      | false =>
          rw [isSent] at counted
          have none : false.toNat = 0 := rfl
          omega

/-- In pass `late` something is read within the timeout after the send of `early`. -/
structure InTime (loop : RetryLoop σ ρ) (clock : PolledClock) (timeout : Nat)
    (start early : σ) (late : Nat) : Prop where
  reached : Reaches loop.body start early
  sent : loop.sends early = true
  notBefore : loop.passNumber early ≤ late
  within : clock.test late ≤ clock.restart (loop.passNumber early) + timeout

/-- With an answer in pass `late`, the loop succeeds exactly if no call in it hangs and the
pass of the last send, should it come before, is answered itself. -/
theorem succeeds_iff {loop : RetryLoop σ (Option ρ)} {success : ρ → Prop}
    {answered : σ → Prop} (polls : loop.Polls clock timeout limit start)
    (prompt : loop.Prompt clock) (loops : loop.Answered limit start success answered)
    {early : σ} {late : Nat} (earlyReached : Reaches loop.body start early)
    (below : (loop.count early).toNat < limit) (before : loop.passNumber early ≤ late)
    (answer : ∀ state, Reaches loop.body start state → loop.passNumber state = late →
      (loop.count state).toNat < limit → answered state) :
    (∃ result, Returns loop.body start (some result) ∧ success result) ↔
      loop.EveryPassReturns start ∧
        ∀ last, Reaches loop.body start last → loop.sends last = true →
          (loop.count last).toNat + 1 = limit → loop.passNumber last < late →
            answered last := by
  constructor
  · rintro ⟨result, returns, succeeded⟩
    refine ⟨fun state reached hangs => ?_, fun last reached isSent isLast _ => ?_⟩
    · have stuck := reached.returns ⟨1, run_leave hangs 0⟩
      cases returns.result_unique stuck
    · cases pass : loop.body last with
      | inr outcome =>
          have left := reached.returns ⟨1, run_leave pass 0⟩
          have same := returns.result_unique left
          rw [← same] at pass
          exact (loops.answers (by omega) pass).2
      | inl next =>
          have counted := polls.count_sends prompt reached pass
          rw [isSent] at counted
          have full : limit ≤ (loop.count next).toNat := by
            rw [counted]
            exact le_of_eq isLast.symm
          obtain ⟨failure, leaves, unsuccessful⟩ := loops.fails full
          have left := (reached.next pass).returns ⟨1, run_leave leaves 0⟩
          rw [← Option.some.inj (returns.result_unique left)] at unsuccessful
          exact absurd succeeded unsuccessful
  · rintro ⟨returning, lastAnswered⟩
    obtain ⟨state, onward, stopped⟩ := exists_reached polls before
    have reached := earlyReached.trans onward
    have atMost : loop.passNumber state ≤ late := by
      rcases stopped with here | ⟨earlier, -⟩ <;> omega
    have unfilled : (loop.count state).toNat < limit := by
      by_contra full
      obtain ⟨last, lastReached, isSent, isLast, ahead, next, continues⟩ :=
        exists_last polls prompt earlyReached below onward (Nat.not_lt.mp full)
      obtain ⟨result, leaves, -⟩ := loops.succeeds lastReached (by omega)
        (lastAnswered last lastReached isSent isLast (by omega))
      rw [leaves] at continues
      cases continues
    rcases stopped with here | ⟨-, outcome, leaves⟩
    · obtain ⟨result, leaves, succeeded⟩ :=
        loops.succeeds reached unfilled (answer state reached here unfilled)
      exact ⟨result, reached.returns ⟨1, run_leave leaves 0⟩, succeeded⟩
    · cases outcome with
      | none => exact absurd leaves (returning state reached)
      | some result =>
          exact ⟨result, reached.returns ⟨1, run_leave leaves 0⟩,
            (loops.answers unfilled leaves).1⟩

end RetryLoop

end FuelLoop
