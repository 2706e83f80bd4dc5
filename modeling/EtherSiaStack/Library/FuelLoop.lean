/-
Loops run with fuel.

A loop body either continues with a new state or leaves with a result.  `run`
executes at most `fuel` passes; a loop returns when some fuel suffices and
diverges when none does.  The rules give termination from a decreasing measure,
divergence from a set of states the body never leaves, and, for a loop whose
passes either decrease the measure or are already inside such a set, a fuel
after which a loop that is still running runs forever.
-/

import Mathlib

namespace FuelLoop

variable {σ ρ : Type*}

def run (body : σ → σ ⊕ ρ) : Nat → σ → Option ρ
  | 0, _ => none
  | fuel + 1, state =>
      match body state with
      | .inr result => some result
      | .inl next => run body fuel next

def Returns (body : σ → σ ⊕ ρ) (state : σ) (result : ρ) : Prop :=
  ∃ fuel, run body fuel state = some result

def Diverges (body : σ → σ ⊕ ρ) (state : σ) : Prop :=
  ∀ fuel, run body fuel state = none

theorem run_leave {body : σ → σ ⊕ ρ} {state : σ} {result : ρ}
    (leaves : body state = .inr result) (fuel : Nat) :
    run body (fuel + 1) state = some result := by
  simp only [run, leaves]

theorem run_continue {body : σ → σ ⊕ ρ} {state next : σ}
    (continues : body state = .inl next) (fuel : Nat) :
    run body (fuel + 1) state = run body fuel next := by
  simp only [run, continues]

theorem run_mono {body : σ → σ ⊕ ρ} {fuel more : Nat} {state : σ} {result : ρ}
    (returned : run body fuel state = some result) (enough : fuel ≤ more) :
    run body more state = some result := by
  induction fuel generalizing more state with
  | zero => cases returned
  | succ fuel ih =>
      obtain ⟨more, rfl⟩ : ∃ less, more = less + 1 := ⟨more - 1, by omega⟩
      cases pass : body state with
      | inr left =>
          rw [run_leave pass] at returned ⊢
          exact returned
      | inl next =>
          rw [run_continue pass] at returned ⊢
          exact ih returned (by omega)

theorem Returns.result_unique {body : σ → σ ⊕ ρ} {state : σ} {first second : ρ}
    (left : Returns body state first) (right : Returns body state second) :
    first = second := by
  obtain ⟨fuel, hFirst⟩ := left
  obtain ⟨more, hSecond⟩ := right
  have atFirst := run_mono hFirst (Nat.le_max_left fuel more)
  have atSecond := run_mono hSecond (Nat.le_max_right fuel more)
  exact Option.some.inj (atFirst.symm.trans atSecond)

theorem not_diverges_iff (body : σ → σ ⊕ ρ) (state : σ) :
    ¬ Diverges body state ↔ ∃ result, Returns body state result := by
  constructor
  · intro runs
    obtain ⟨fuel, returned⟩ := not_forall.mp runs
    obtain ⟨result, hResult⟩ := Option.ne_none_iff_exists'.mp returned
    exact ⟨result, fuel, hResult⟩
  · rintro ⟨result, fuel, returned⟩ diverges
    rw [diverges fuel] at returned
    cases returned

theorem diverges_iff_of_continue {body : σ → σ ⊕ ρ} {state next : σ}
    (continues : body state = .inl next) :
    Diverges body state ↔ Diverges body next := by
  constructor
  · intro diverges fuel
    rw [← run_continue continues]
    exact diverges (fuel + 1)
  · intro diverges fuel
    cases fuel with
    | zero => rfl
    | succ fuel =>
        rw [run_continue continues]
        exact diverges fuel

theorem not_diverges_of_leave {body : σ → σ ⊕ ρ} {state : σ} {result : ρ}
    (leaves : body state = .inr result) : ¬ Diverges body state := by
  intro diverges
  have returned := run_leave leaves 0
  rw [diverges 1] at returned
  cases returned

/-- The states a run from `start` goes through. -/
inductive Reaches (body : σ → σ ⊕ ρ) (start : σ) : σ → Prop
  | start : Reaches body start start
  | next {state next : σ} (reached : Reaches body start state)
      (continues : body state = .inl next) : Reaches body start next

/-- The state after a number of passes that all went on. -/
inductive ReachesIn (body : σ → σ ⊕ ρ) (start : σ) : Nat → σ → Prop
  | start : ReachesIn body start 0 start
  | next {number : Nat} {state next : σ} (reached : ReachesIn body start number state)
      (continues : body state = .inl next) : ReachesIn body start (number + 1) next

theorem reaches_iff_reachesIn {body : σ → σ ⊕ ρ} {start state : σ} :
    Reaches body start state ↔ ∃ number, ReachesIn body start number state := by
  constructor
  · intro reached
    induction reached with
    | start => exact ⟨0, .start⟩
    | next _ continues ih =>
        obtain ⟨number, reachedIn⟩ := ih
        exact ⟨number + 1, reachedIn.next continues⟩
  · rintro ⟨number, reachedIn⟩
    induction reachedIn with
    | start => exact .start
    | next _ continues ih => exact ih.next continues

theorem Reaches.head {body : σ → σ ⊕ ρ} {start next state : σ}
    (continues : body start = .inl next) (reached : Reaches body next state) :
    Reaches body start state := by
  induction reached with
  | start => exact .next .start continues
  | next _ pass ih => exact .next ih pass

theorem Returns.head {body : σ → σ ⊕ ρ} {state next : σ} {result : ρ}
    (continues : body state = .inl next) (returns : Returns body next result) :
    Returns body state result := by
  obtain ⟨fuel, returned⟩ := returns
  exact ⟨fuel + 1, (run_continue continues fuel).trans returned⟩

theorem Reaches.returns {body : σ → σ ⊕ ρ} {start state : σ} {result : ρ}
    (reached : Reaches body start state) (returns : Returns body state result) :
    Returns body start result := by
  induction reached with
  | start => exact returns
  | next _ pass ih => exact ih (returns.head pass)

/-- A loop returns what it leaves with at some state it reaches. -/
theorem returns_iff_reaches {body : σ → σ ⊕ ρ} {start : σ} {result : ρ} :
    Returns body start result ↔
      ∃ state, Reaches body start state ∧ body state = .inr result := by
  constructor
  · rintro ⟨fuel, returned⟩
    induction fuel generalizing start with
    | zero => cases returned
    | succ fuel ih =>
        cases pass : body start with
        | inr left =>
            rw [run_leave pass] at returned
            cases returned
            exact ⟨start, .start, pass⟩
        | inl next =>
            rw [run_continue pass] at returned
            obtain ⟨state, reached, leaves⟩ := ih returned
            exact ⟨state, reached.head pass, leaves⟩
  · rintro ⟨state, reached, leaves⟩
    exact reached.returns ⟨1, run_leave leaves 0⟩

/-- A set of states the body never leaves holds only diverging states. -/
theorem diverges_of_trap {body : σ → σ ⊕ ρ} (trap : σ → Prop)
    (stays : ∀ state, trap state → ∃ next, body state = .inl next ∧ trap next)
    {state : σ} (inside : trap state) : Diverges body state := by
  intro fuel
  induction fuel generalizing state with
  | zero => rfl
  | succ fuel ih =>
      obtain ⟨next, continues, nextInside⟩ := stays state inside
      rw [run_continue continues]
      exact ih nextInside

/-- When every pass decreases the measure or starts a diverging run, fuel above
the measure decides whether the loop returns at all. -/
theorem run_eq_none_iff_diverges {body : σ → σ ⊕ ρ} (measure : σ → Nat)
    (progress : ∀ state next, body state = .inl next →
      measure next < measure state ∨ Diverges body state)
    {fuel : Nat} {state : σ} (enough : measure state < fuel) :
    run body fuel state = none ↔ Diverges body state := by
  refine ⟨fun stuck => ?_, fun diverges => diverges fuel⟩
  induction fuel generalizing state with
  | zero => omega
  | succ fuel ih =>
      cases pass : body state with
      | inr result =>
          rw [run_leave pass] at stuck
          cases stuck
      | inl next =>
          rcases progress state next pass with smaller | diverges
          · rw [run_continue pass] at stuck
            exact (diverges_iff_of_continue pass).mpr (ih (by omega) stuck)
          · exact diverges

/-- Run rule: what holds before the loop, and is kept by each pass that
continues, gives what the last pass needs. -/
theorem run_invariant {body : σ → σ ⊕ ρ} (invariant : σ → Prop) (post : ρ → Prop)
    (keeps : ∀ state next, invariant state → body state = .inl next → invariant next)
    (leaves : ∀ state result, invariant state → body state = .inr result → post result)
    {fuel : Nat} {state : σ} {result : ρ} (start : invariant state)
    (returned : run body fuel state = some result) : post result := by
  induction fuel generalizing state with
  | zero => cases returned
  | succ fuel ih =>
      cases pass : body state with
      | inr left =>
          rw [run_leave pass] at returned
          cases returned
          exact leaves state result start pass
      | inl next =>
          rw [run_continue pass] at returned
          exact ih (keeps state next start pass) returned

end FuelLoop
