/-
A link that frames come in on by themselves, and others are sent on.

Whoever uses the link takes the frames one after the other in the order they came in, or
finds that there is none, and gives it frames to send.  At any time, also in the middle of
an action, more may come in.  A driver implements the link if each of its calls does what
an action of the link does; what holds of every run of the link then holds of the driver's.
-/

import Mathlib

namespace FrameLink

/-! ### The link -/

/-- The frames that have been taken, the ones still to be taken, and those that were sent. -/
structure Link (F : Type*) where
  taken : List F
  pending : List F
  sent : List F

/-- What is done with a link, and what came of it. -/
inductive Action (F : Type*)
  | receive (outcome : Option F)
  | send (frame : F)

variable {F δ κ : Type*}

/-- None is taken only if there was none. -/
inductive Step : Link F → Action F → Link F → Prop
  | nothing {link : Link F} {more : List F} (empty : link.pending = []) :
      Step link (.receive none) { link with pending := more }
  | frame {link : Link F} {more rest : List F} {first : F}
      (waiting : link.pending ++ more = first :: rest) :
      Step link (.receive (some first))
        { link with taken := link.taken ++ [first], pending := rest }
  | send {link : Link F} {more : List F} {frame : F} :
      Step link (.send frame)
        { link with pending := link.pending ++ more, sent := link.sent ++ [frame] }

/-- Steps one after the other, each with its label. -/
inductive Run (step : δ → κ → δ → Prop) : δ → List κ → δ → Prop
  | done (state : δ) : Run step state [] state
  | next {state between last : δ} {label : κ} {labels : List κ}
      (first : step state label between) (rest : Run step between labels last) :
      Run step state (label :: labels) last

/-- The frames taken by a list of actions. -/
def received : List (Action F) → List F
  | [] => []
  | .receive outcome :: actions => outcome.toList ++ received actions
  | .send _ :: actions => received actions

/-- The frames sent by a list of actions. -/
def transmitted : List (Action F) → List F
  | [] => []
  | .receive _ :: actions => transmitted actions
  | .send frame :: actions => frame :: transmitted actions

/-- How often a frame was asked for. -/
def requests : List (Action F) → Nat
  | [] => 0
  | .receive _ :: actions => requests actions + 1
  | .send _ :: actions => requests actions

/-- Everything that has come in. -/
def Link.arrived (link : Link F) : List F :=
  link.taken ++ link.pending

/-! ### Runs -/

theorem Run.append {step : δ → κ → δ → Prop} {state between last : δ}
    {front rest : List κ} (first : Run step state front between)
    (second : Run step between rest last) : Run step state (front ++ rest) last := by
  induction first with
  | done state => exact second
  | next step _ ih => exact .next step (ih second)

theorem received_append (front rest : List (Action F)) :
    received (front ++ rest) = received front ++ received rest := by
  induction front with
  | nil => rfl
  | cons action actions ih =>
      cases action with
      | receive outcome =>
          rw [List.cons_append, received, received, ih, List.append_assoc]
      | send frame => exact ih

theorem transmitted_append (front rest : List (Action F)) :
    transmitted (front ++ rest) = transmitted front ++ transmitted rest := by
  induction front with
  | nil => rfl
  | cons action actions ih =>
      cases action with
      | receive outcome => exact ih
      | send frame => rw [List.cons_append, transmitted, transmitted, ih, List.cons_append]

theorem requests_append (front rest : List (Action F)) :
    requests (front ++ rest) = requests front + requests rest := by
  induction front with
  | nil => exact (Nat.zero_add _).symm
  | cons action actions ih =>
      cases action with
      | receive outcome =>
          rw [List.cons_append, requests, requests, ih]
          omega
      | send frame => exact ih

theorem transmitted_map_send (frames : List F) :
    transmitted (frames.map Action.send) = frames := by
  induction frames with
  | nil => rfl
  | cons frame rest ih => rw [List.map_cons, transmitted, ih]

theorem received_map_send (frames : List F) : received (frames.map Action.send) = [] := by
  induction frames with
  | nil => rfl
  | cons frame rest ih => exact ih

theorem requests_map_send (frames : List F) : requests (frames.map Action.send) = 0 := by
  induction frames with
  | nil => rfl
  | cons frame rest ih => exact ih

section Runs

variable {link last : Link F} {actions : List (Action F)}

theorem Step.arrived {action : Action F} (step : Step link action last) :
    link.arrived <+: last.arrived := by
  cases step with
  | @nothing more empty =>
      refine ⟨more, ?_⟩
      unfold Link.arrived
      rw [empty, List.append_nil]
  | @frame more rest first waiting =>
      refine ⟨more, ?_⟩
      unfold Link.arrived
      rw [List.append_assoc, waiting, List.append_assoc, List.singleton_append]
  | @send more frame =>
      refine ⟨more, ?_⟩
      unfold Link.arrived
      rw [List.append_assoc]

/-- What has been taken and sent is what the actions took and sent, in their order, and
everything that has come in is still there or has been taken. -/
theorem Run.conserves (run : Run Step link actions last) :
    last.taken = link.taken ++ received actions ∧ last.sent = link.sent ++ transmitted actions ∧
      link.arrived <+: last.arrived := by
  induction run with
  | done link => exact ⟨(List.append_nil _).symm, (List.append_nil _).symm, List.prefix_refl _⟩
  | next step _ ih =>
      obtain ⟨taken, sent, arrived⟩ := ih
      have before := step.arrived
      refine ⟨?_, ?_, before.trans arrived⟩
      · rw [taken]
        cases step with
        | nothing _ => rfl
        | frame _ => exact List.append_assoc _ _ _
        | send => rfl
      · rw [sent]
        cases step with
        | nothing _ => rfl
        | frame _ => rfl
        | send => exact List.append_assoc _ _ _

/-- Asking often enough takes every frame that was waiting. -/
theorem Run.progress (run : Run Step link actions last) :
    link.pending.take (requests actions) <+: received actions := by
  induction run with
  | done link =>
      rw [requests, List.take_zero]
      exact List.nil_prefix
  | @next link _ _ _ _ step _ ih =>
      cases step with
      | nothing empty =>
          rw [empty, List.take_nil]
          exact List.nil_prefix
      | @frame more rest first waiting =>
          rw [requests, received, Option.toList_some, List.singleton_append]
          cases pending : link.pending with
          | nil =>
              rw [List.take_nil]
              exact List.nil_prefix
          | cons head others =>
              rw [pending, List.cons_append] at waiting
              obtain ⟨rfl, rfl⟩ := List.cons.inj waiting
              rw [List.take_succ_cons, List.cons_prefix_cons]
              exact ⟨rfl, ((List.prefix_append others more).take _).trans ih⟩
      | @send more frame =>
          exact ((List.prefix_append link.pending more).take _).trans ih

end Runs

/-! ### Drivers -/

/-- Each call does what an action of the link does that explains it. -/
def Implements (holds : δ → Link F → Prop) (call : δ → κ → δ → Prop)
    (explains : κ → Action F → Prop) : Prop :=
  ∀ driver link label next, holds driver link → call driver label next →
    ∃ action after, explains label action ∧ Step link action after ∧ holds next after

theorem Implements.run {holds : δ → Link F → Prop} {call : δ → κ → δ → Prop}
    {explains : κ → Action F → Prop} (implements : Implements holds call explains)
    {driver last : δ} {labels : List κ} (run : Run call driver labels last) {link : Link F}
    (start : holds driver link) :
    ∃ actions after, List.Forall₂ explains labels actions ∧ Run Step link actions after ∧
      holds last after := by
  induction run generalizing link with
  | done driver => exact ⟨[], link, .nil, .done link, start⟩
  | next called _ ih =>
      obtain ⟨action, between, explained, step, holdsBetween⟩ := implements _ _ _ _ start called
      obtain ⟨actions, after, rest, run, holdsLast⟩ := ih holdsBetween
      exact ⟨action :: actions, after, .cons explained rest, .next step run, holdsLast⟩

end FrameLink
