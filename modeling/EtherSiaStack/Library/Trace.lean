/-
Traces of a deterministic system.

A step takes a state and an event to the next state, or to nothing when the
call made by the event never returns.  The trace of a list of events is the
list of steps actually taken; safety properties are stated about every step of
a trace and proved from one step by the rules below.
-/

import Mathlib

namespace Trace

variable {σ ε : Type*}

/-- One step taken: the state before, the event and the state after. -/
structure Taken (σ ε : Type*) where
  before : σ
  event : ε
  after : σ

def trace (step : σ → ε → Option σ) : σ → List ε → List (Taken σ ε)
  | _, [] => []
  | state, event :: rest =>
      match step state event with
      | none => []
      | some next => ⟨state, event, next⟩ :: trace step next rest

/-- Where the events lead, when every call made by them returns. -/
def run (step : σ → ε → Option σ) : σ → List ε → Option σ
  | state, [] => some state
  | state, event :: rest => (step state event).bind fun next => run step next rest

/-- The state after the last step taken. -/
def reached (step : σ → ε → Option σ) : σ → List ε → σ
  | state, [] => state
  | state, event :: rest =>
      match step state event with
      | none => state
      | some next => reached step next rest

theorem reached_cons_of_step {step : σ → ε → Option σ} {state next : σ} {event : ε}
    (taken : step state event = some next) (rest : List ε) :
    reached step state (event :: rest) = reached step next rest := by
  simp only [reached, taken]

theorem trace_cons_of_none {step : σ → ε → Option σ} {state : σ} {event : ε}
    (stops : step state event = none) (rest : List ε) :
    trace step state (event :: rest) = [] := by
  simp only [trace, stops]

theorem reached_cons_of_none {step : σ → ε → Option σ} {state : σ} {event : ε}
    (stops : step state event = none) (rest : List ε) :
    reached step state (event :: rest) = state := by
  simp only [reached, stops]

theorem trace_cons_of_step {step : σ → ε → Option σ} {state next : σ} {event : ε}
    (taken : step state event = some next) (rest : List ε) :
    trace step state (event :: rest) =
      ⟨state, event, next⟩ :: trace step next rest := by
  simp only [trace, taken]

theorem run_cons_of_step {step : σ → ε → Option σ} {state next : σ} {event : ε}
    (taken : step state event = some next) (rest : List ε) :
    run step state (event :: rest) = run step next rest := by
  simp only [run, taken, Option.bind_some]

theorem run_append {step : σ → ε → Option σ} {start between last : σ}
    {first second : List ε} (runsFirst : run step start first = some between)
    (runsSecond : run step between second = some last) :
    run step start (first ++ second) = some last := by
  induction first generalizing start with
  | nil =>
      cases runsFirst
      exact runsSecond
  | cons event first ih =>
      cases stepped : step start event with
      | none => simp [run, stepped] at runsFirst
      | some next =>
          rw [run_cons_of_step stepped] at runsFirst
          rw [List.cons_append, run_cons_of_step stepped]
          exact ih runsFirst

theorem mem_trace_singleton {step : σ → ε → Option σ} {start : σ} {event : ε}
    {taken : Taken σ ε} (member : taken ∈ trace step start [event]) :
    taken.before = start ∧ taken.event = event := by
  simp only [trace] at member
  split at member
  · cases member
  · cases List.mem_singleton.mp member
    exact ⟨rfl, rfl⟩

/-- Every entry of a trace is a step of the system. -/
theorem step_of_mem_trace {step : σ → ε → Option σ} {start : σ} {events : List ε}
    {taken : Taken σ ε} (member : taken ∈ trace step start events) :
    step taken.before taken.event = some taken.after := by
  induction events generalizing start with
  | nil => cases member
  | cons event rest ih =>
      cases stepped : step start event with
      | none => simp [trace, stepped] at member
      | some next =>
          rw [trace_cons_of_step stepped] at member
          rcases List.mem_cons.mp member with rfl | later
          · exact stepped
          · exact ih later

theorem event_mem_of_mem_trace {step : σ → ε → Option σ} {start : σ} {events : List ε}
    {taken : Taken σ ε} (member : taken ∈ trace step start events) :
    taken.event ∈ events := by
  induction events generalizing start with
  | nil => cases member
  | cons event rest ih =>
      cases stepped : step start event with
      | none => simp [trace, stepped] at member
      | some next =>
          rw [trace_cons_of_step stepped] at member
          rcases List.mem_cons.mp member with rfl | later
          · exact List.mem_cons_self
          · exact List.mem_cons_of_mem _ (ih later)

/-- Every step of the run has the property. -/
def Always (step : σ → ε → Option σ) (start : σ) (events : List ε)
    (property : Taken σ ε → Prop) : Prop :=
  ∀ taken ∈ trace step start events, property taken

instance {step : σ → ε → Option σ} {start : σ} {events : List ε}
    {property : Taken σ ε → Prop} [DecidablePred property] :
    Decidable (Always step start events property) :=
  inferInstanceAs (Decidable (∀ taken ∈ trace step start events, property taken))

theorem always_cons_of_step {step : σ → ε → Option σ} {state next : σ} {event : ε}
    (taken : step state event = some next) (rest : List ε)
    (property : Taken σ ε → Prop) :
    Always step state (event :: rest) property ↔
      property ⟨state, event, next⟩ ∧ Always step next rest property := by
  unfold Always
  rw [trace_cons_of_step taken, List.forall_mem_cons]

theorem always_singleton {step : σ → ε → Option σ} {state : σ} {event : ε}
    {property : Taken σ ε → Prop}
    (holds : ∀ next, step state event = some next → property ⟨state, event, next⟩) :
    Always step state [event] property := by
  intro taken member
  have stepped := step_of_mem_trace member
  obtain ⟨rfl, rfl⟩ := mem_trace_singleton member
  exact holds taken.after stepped

theorem Always.mono {step : σ → ε → Option σ} {start : σ} {events : List ε}
    {property weaker : Taken σ ε → Prop} (always : Always step start events property)
    (implies : ∀ taken, property taken → weaker taken) :
    Always step start events weaker :=
  fun taken member => implies taken (always taken member)

theorem always_of_step {step : σ → ε → Option σ} {start : σ} {events : List ε}
    {property : Taken σ ε → Prop}
    (holds : ∀ taken : Taken σ ε, step taken.before taken.event = some taken.after →
      property taken) : Always step start events property :=
  fun taken member => holds taken (step_of_mem_trace member)

/-- Run rule: an invariant kept by every step that meets the condition holds
before every step of a run whose steps all meet it. -/
theorem always_of_invariant {step : σ → ε → Option σ} (invariant : σ → Prop)
    {condition property : Taken σ ε → Prop}
    (keeps : ∀ taken : Taken σ ε, step taken.before taken.event = some taken.after →
      invariant taken.before → condition taken → invariant taken.after)
    (gives : ∀ taken : Taken σ ε, step taken.before taken.event = some taken.after →
      invariant taken.before → condition taken → property taken)
    {start : σ} {events : List ε} (initial : invariant start)
    (allMeet : Always step start events condition) :
    Always step start events property := by
  induction events generalizing start with
  | nil => exact fun taken member => absurd member List.not_mem_nil
  | cons event rest ih =>
      cases stepped : step start event with
      | none => simp [Always, trace, stepped]
      | some next =>
          obtain ⟨headMeets, restMeets⟩ := (always_cons_of_step stepped rest _).mp allMeet
          refine (always_cons_of_step stepped rest _).mpr ⟨?_, ?_⟩
          · exact gives ⟨start, event, next⟩ stepped initial headMeets
          · exact ih (keeps ⟨start, event, next⟩ stepped initial headMeets) restMeets

/-- A run is a first part and a rest that starts where the first part led. -/
theorem always_append_of_run {step : σ → ε → Option σ} {start between : σ}
    {first : List ε} (returns : run step start first = some between) (rest : List ε)
    (property : Taken σ ε → Prop) :
    Always step start (first ++ rest) property ↔
      Always step start first property ∧ Always step between rest property := by
  induction first generalizing start with
  | nil =>
      cases returns
      exact (and_iff_right (fun taken member => absurd member List.not_mem_nil)).symm
  | cons event first ih =>
      cases stepped : step start event with
      | none => simp [run, stepped] at returns
      | some next =>
          rw [run_cons_of_step stepped] at returns
          rw [List.cons_append, always_cons_of_step stepped, always_cons_of_step stepped,
            ih returns, and_assoc]

/-- Run rule: an invariant of the steps taken so far and of the state holds before every
step and at the end. -/
theorem history_invariant {step : σ → ε → Option σ}
    (invariant : List (Taken σ ε) → σ → Prop)
    (keeps : ∀ (history : List (Taken σ ε)) (taken : Taken σ ε),
      step taken.before taken.event = some taken.after →
        invariant history taken.before → invariant (history ++ [taken]) taken.after)
    {start : σ} (events : List ε) (history : List (Taken σ ε))
    (initial : invariant history start) :
    invariant (history ++ trace step start events) (reached step start events) ∧
      ∀ earlier taken later, trace step start events = earlier ++ taken :: later →
        invariant (history ++ earlier) taken.before := by
  induction events generalizing start history with
  | nil =>
      refine ⟨?_, fun earlier taken later split => ?_⟩
      · rw [trace, List.append_nil]
        exact initial
      · exact absurd split (List.append_ne_nil_of_right_ne_nil _
          (List.cons_ne_nil _ _)).symm
  | cons event rest ih =>
      cases stepped : step start event with
      | none =>
          rw [trace_cons_of_none stepped, reached_cons_of_none stepped, List.append_nil]
          refine ⟨initial, fun earlier taken later split => ?_⟩
          exact absurd split (List.append_ne_nil_of_right_ne_nil _
            (List.cons_ne_nil _ _)).symm
      | some next =>
          let head : Taken σ ε := ⟨start, event, next⟩
          obtain ⟨atEnd, before⟩ := ih (history ++ [head]) (keeps history head stepped initial)
          rw [trace_cons_of_step stepped, reached_cons_of_step stepped]
          refine ⟨?_, fun earlier taken later split => ?_⟩
          · rw [List.append_assoc] at atEnd
            exact atEnd
          · cases earlier with
            | nil =>
                obtain ⟨rfl, _⟩ := List.cons.inj split
                rw [List.append_nil]
                exact initial
            | cons first earlier =>
                obtain ⟨rfl, isRest⟩ := List.cons.inj split
                have here := before earlier taken later isRest
                rw [List.append_assoc] at here
                exact here

theorem trace_eq_cons {step : σ → ε → Option σ} {start : σ} {events : List ε}
    {taken : Taken σ ε} {rest : List (Taken σ ε)}
    (split : trace step start events = taken :: rest) :
    taken.before = start ∧ step start taken.event = some taken.after ∧
      ∃ later, trace step taken.after later = rest := by
  cases events with
  | nil => cases split
  | cons event events =>
      cases stepped : step start event with
      | none =>
          rw [trace_cons_of_none stepped] at split
          cases split
      | some next =>
          rw [trace_cons_of_step stepped] at split
          obtain ⟨rfl, isRest⟩ := List.cons.inj split
          exact ⟨rfl, stepped, events, isRest⟩

/-- Run rule: an invariant kept by the steps of the first part of a trace holds where its
second part starts. -/
theorem invariant_after_prefix {step : σ → ε → Option σ} (invariant : σ → Prop)
    {condition : Taken σ ε → Prop}
    (keeps : ∀ taken : Taken σ ε, step taken.before taken.event = some taken.after →
      invariant taken.before → condition taken → invariant taken.after)
    {start : σ} {events : List ε} {first rest : List (Taken σ ε)}
    (split : trace step start events = first ++ rest) (initial : invariant start)
    (firstMeets : ∀ taken ∈ first, condition taken) :
    ∃ between later, trace step between later = rest ∧ invariant between := by
  induction first generalizing start events with
  | nil => exact ⟨start, events, split, initial⟩
  | cons taken first ih =>
      obtain ⟨headMeets, restMeet⟩ := List.forall_mem_cons.mp firstMeets
      obtain ⟨rfl, stepped, later, isRest⟩ := trace_eq_cons split
      exact ih isRest (keeps taken stepped initial headMeets) restMeet

/-- Run rule: what a measure of the state pays for, step by step, it bounds over any part
of a run in which it is not set back. -/
theorem countP_le_measure {step : σ → ε → Option σ} (invariant : σ → Prop)
    (measure : σ → Nat) {condition restarts : Taken σ ε → Prop}
    {counted : Taken σ ε → Bool}
    (keeps : ∀ taken : Taken σ ε, step taken.before taken.event = some taken.after →
      invariant taken.before → condition taken → invariant taken.after)
    (pays : ∀ taken : Taken σ ε, step taken.before taken.event = some taken.after →
      invariant taken.before → condition taken → ¬ restarts taken →
        measure taken.before + (counted taken).toNat ≤ measure taken.after)
    {start : σ} {events : List ε} {first block rest : List (Taken σ ε)}
    (split : trace step start events = first ++ (block ++ rest)) (initial : invariant start)
    (allMeet : Always step start events condition)
    (goesOn : ∀ taken ∈ block, ¬ restarts taken) :
    ∃ last, invariant last ∧ block.countP counted ≤ measure last := by
  have meets : ∀ taken ∈ first ++ (block ++ rest), condition taken := split ▸ allMeet
  obtain ⟨between, later, isRest, holds⟩ := invariant_after_prefix invariant keeps split
    initial fun taken member => meets taken (List.mem_append_left _ member)
  have blockMeets : ∀ taken ∈ block, condition taken := fun taken member =>
    meets taken (List.mem_append_right _ (List.mem_append_left _ member))
  have paid : ∃ last, invariant last ∧ measure between + block.countP counted ≤
      measure last := by
    clear split meets
    induction block generalizing between later with
    | nil => exact ⟨between, holds, Nat.le_refl _⟩
    | cons taken block ih =>
        obtain ⟨headMeets, restMeet⟩ := List.forall_mem_cons.mp blockMeets
        obtain ⟨headGoesOn, restGoesOn⟩ := List.forall_mem_cons.mp goesOn
        obtain ⟨rfl, stepped, later, isBlock⟩ := trace_eq_cons isRest
        have pay := pays taken stepped holds headMeets headGoesOn
        obtain ⟨last, lastHolds, bound⟩ := ih restGoesOn taken.after later isBlock
          (keeps taken stepped holds headMeets) restMeet
        refine ⟨last, lastHolds, ?_⟩
        cases isCounted : counted taken with
        | true =>
            rw [List.countP_cons_of_pos isCounted]
            rw [isCounted, Bool.toNat_true] at pay
            omega
        | false =>
            rw [List.countP_cons_of_neg (by rw [isCounted]; exact Bool.false_ne_true)]
            rw [isCounted, Bool.toNat_false] at pay
            omega
  obtain ⟨last, lastHolds, bound⟩ := paid
  exact ⟨last, lastHolds, Nat.le_trans (Nat.le_add_left _ _) bound⟩

/-- Run rule: what each step raises by at most the cost of its event, a run raises by at
most the cost of all its events. -/
theorem reached_measure_le {step : σ → ε → Option σ} (measure : σ → Nat) (cost : ε → Nat)
    {condition : Taken σ ε → Prop}
    (raises : ∀ taken : Taken σ ε, step taken.before taken.event = some taken.after →
      condition taken → measure taken.after ≤ measure taken.before + cost taken.event)
    {start : σ} {events : List ε} (allMeet : Always step start events condition) :
    measure (reached step start events) ≤ measure start + (events.map cost).sum := by
  induction events generalizing start with
  | nil => exact Nat.le_add_right _ _
  | cons event rest ih =>
      rw [List.map_cons, List.sum_cons]
      cases stepped : step start event with
      | none =>
          rw [reached_cons_of_none stepped]
          exact Nat.le_add_right _ _
      | some next =>
          obtain ⟨headMeets, restMeets⟩ := (always_cons_of_step stepped rest _).mp allMeet
          have head := raises ⟨start, event, next⟩ stepped headMeets
          have tail := ih restMeets
          rw [reached_cons_of_step stepped]
          dsimp only at head
          omega

/-- The step seen through a projection of its states. -/
def Taken.map {τ : Type*} (project : σ → τ) (taken : Taken σ ε) : Taken τ ε :=
  ⟨project taken.before, taken.event, project taken.after⟩

/-- Simulation rule: steps that agree with those of another system on what they project to,
as long as the invariant holds, take the same run there. -/
theorem trace_map {τ : Type*} {step : σ → ε → Option σ} {stepTo : τ → ε → Option τ}
    (project : σ → τ) (invariant : σ → Prop) {condition : Taken τ ε → Prop}
    (agrees : ∀ state event, invariant state →
      (step state event).map project = stepTo (project state) event)
    (keeps : ∀ state event next, invariant state → step state event = some next →
      condition ⟨project state, event, project next⟩ → invariant next)
    {start : σ} {events : List ε} (initial : invariant start)
    (allMeet : Always step start events fun taken => condition (taken.map project)) :
    (trace step start events).map (Taken.map project) = trace stepTo (project start) events ∧
      project (reached step start events) = reached stepTo (project start) events ∧
        invariant (reached step start events) := by
  induction events generalizing start with
  | nil => exact ⟨rfl, rfl, initial⟩
  | cons event rest ih =>
      have here := agrees start event initial
      cases stepped : step start event with
      | none =>
          rw [stepped] at here
          rw [trace_cons_of_none stepped, reached_cons_of_none stepped,
            trace_cons_of_none here.symm, reached_cons_of_none here.symm]
          exact ⟨rfl, rfl, initial⟩
      | some next =>
          rw [stepped] at here
          obtain ⟨headMeets, restMeet⟩ := (always_cons_of_step stepped rest _).mp allMeet
          have later := ih (keeps start event next initial stepped headMeets) restMeet
          rw [trace_cons_of_step stepped, reached_cons_of_step stepped,
            trace_cons_of_step here.symm, reached_cons_of_step here.symm, List.map_cons]
          exact ⟨congrArg _ later.1, later.2⟩

end Trace
