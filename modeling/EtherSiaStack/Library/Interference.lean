/-
Commands on a state that others change as well.

A device goes on by itself between any two accesses to it.  An assertion about it is
stable if its own steps keep it, so what an access has made true still holds at the next
one if it is stable.  Commands are built from accesses, and their rules are the ones for
straight-line code, choices and counted loops.
-/

import Mathlib

namespace Interference

/-! ### What the others do -/

section Steps

variable {σ : Type*} {step : σ → σ → Prop}

/-- Some steps of the others, or none. -/
def Elapses (step : σ → σ → Prop) : σ → σ → Prop :=
  Relation.ReflTransGen step

def Stable (step : σ → σ → Prop) (assertion : σ → Prop) : Prop :=
  ∀ before after, assertion before → step before after → assertion after

theorem Stable.elapses {assertion : σ → Prop} (stable : Stable step assertion)
    {before after : σ} (elapses : Elapses step before after) (holds : assertion before) :
    assertion after := by
  induction elapses with
  | refl => exact holds
  | tail _ last ih => exact stable _ _ ih last

theorem Stable.and {left right : σ → Prop} (leftStable : Stable step left)
    (rightStable : Stable step right) : Stable step fun state => left state ∧ right state :=
  fun before after holds stepped =>
    ⟨leftStable before after holds.1 stepped, rightStable before after holds.2 stepped⟩

theorem Stable.or {left right : σ → Prop} (leftStable : Stable step left)
    (rightStable : Stable step right) : Stable step fun state => left state ∨ right state :=
  fun before after holds stepped =>
    holds.imp (fun inLeft => leftStable before after inLeft stepped)
      fun inRight => rightStable before after inRight stepped

theorem Stable.exists {ι : Sort*} {assertion : ι → σ → Prop}
    (stable : ∀ index, Stable step (assertion index)) :
    Stable step fun state => ∃ index, assertion index state :=
  fun before after holds stepped =>
    Exists.elim holds fun index there => ⟨index, stable index before after there stepped⟩

theorem Stable.const (fixed : Prop) : Stable step fun _ => fixed :=
  fun _ _ holds _ => holds

/-- A state in which the others can do nothing stays as it is. -/
theorem Stable.quiet {state : σ} (quiet : ∀ after, ¬step state after) :
    Stable step fun other => other = state := by
  rintro before after rfl stepped
  exact absurd stepped (quiet after)

end Steps

/-! ### Commands -/

section Commands

variable {σ α β : Type}

def Triple (pre : σ → Prop) (command : StateM σ α) (post : α → σ → Prop) : Prop :=
  ∀ state, pre state → post (command.run state).1 (command.run state).2

/-- The passes of a counted loop, from the pass `first` on; each is given what the one before
it has made. -/
def times (body : Nat → α → StateM σ α) : Nat → Nat → α → StateM σ α
  | 0, _, value => pure value
  | remaining + 1, first, value => do
      let value ← body first value
      times body remaining (first + 1) value

theorem Triple.pure {post : α → σ → Prop} (value : α) :
    Triple (post value) (Pure.pure value) post :=
  fun _ holds => holds

theorem Triple.bind {pre : σ → Prop} {middle : α → σ → Prop} {post : β → σ → Prop}
    {command : StateM σ α} {next : α → StateM σ β} (first : Triple pre command middle)
    (rest : ∀ value, Triple (middle value) (next value) post) :
    Triple pre (command >>= next) post :=
  fun state holds => rest _ _ (first state holds)

theorem Triple.get {pre : σ → Prop} :
    Triple pre get fun value state => value = state ∧ pre state :=
  fun _ holds => ⟨rfl, holds⟩

/-- What does not depend on the state is known from there on. -/
theorem Triple.fact {known : Prop} {pre : σ → Prop} {post : α → σ → Prop} {command : StateM σ α}
    (rest : known → Triple pre command post) :
    Triple (fun state => known ∧ pre state) command post :=
  fun state holds => rest holds.1 state holds.2

theorem Triple.known {known : Prop} {pre : σ → Prop} {post : α → σ → Prop} {command : StateM σ α}
    (implied : ∀ state, pre state → known) (rest : known → Triple pre command post) :
    Triple pre command post :=
  fun state holds => rest (implied state holds) state holds

theorem Triple.exists {ι : Sort*} {pre : ι → σ → Prop} {post : α → σ → Prop}
    {command : StateM σ α} (each : ∀ index, Triple (pre index) command post) :
    Triple (fun state => ∃ index, pre index state) command post :=
  fun state holds => Exists.elim holds fun index there => each index state there

theorem Triple.weaken {pre narrower : σ → Prop} {post wider : α → σ → Prop}
    {command : StateM σ α} (triple : Triple pre command post)
    (needs : ∀ state, narrower state → pre state)
    (gives : ∀ value state, post value state → wider value state) :
    Triple narrower command wider :=
  fun state holds => gives _ _ (triple state (needs state holds))

theorem Triple.ite {condition : Prop} [Decidable condition] {pre : σ → Prop}
    {post : α → σ → Prop} {yes no : StateM σ α}
    (whenTrue : condition → Triple pre yes post)
    (whenFalse : ¬condition → Triple pre no post) :
    Triple pre (if condition then yes else no) post := by
  by_cases chosen : condition
  · rw [if_pos chosen]
    exact whenTrue chosen
  · rw [if_neg chosen]
    exact whenFalse chosen

/-- Each pass moves an invariant on by one. -/
theorem Triple.times {invariant : Nat → α → σ → Prop} {body : Nat → α → StateM σ α} {last : Nat}
    (pass : ∀ index < last, ∀ value,
      Triple (invariant index value) (body index value) (invariant (index + 1)))
    {remaining first : Nat} (total : first + remaining = last) (value : α) :
    Triple (invariant first value) (Interference.times body remaining first value)
      (invariant last) := by
  induction remaining generalizing first value with
  | zero =>
      obtain rfl : first = last := by omega
      exact fun _ holds => holds
  | succ remaining ih =>
      exact Triple.bind (pass first (by omega) value) fun next => ih (by omega) next

end Commands

end Interference
