import Mathlib.Data.List.Basic

/-!
# Attempts that give up at the first failure

An `Attempt` runs on a state and returns a value or gives up; either way it
leaves a state behind. `Ensures` is a triple with two postconditions, one for
each way to end, and is proved along the steps of an attempt.
-/

namespace Attempts

set_option autoImplicit false

def Attempt (State Value : Type) : Type := State → Option Value × State

variable {State Value Other : Type}

def Attempt.fail : Attempt State Value := fun state => (none, state)

def Attempt.onFailure (attempt : Attempt State Value) (cleanup : State → State) :
    Attempt State Value := fun state =>
  match attempt state with
  | (none, after) => (none, cleanup after)
  | (some value, after) => (some value, after)

instance : Monad (Attempt State) where
  pure value := fun state => (some value, state)
  bind first next := fun state =>
    match first state with
    | (none, after) => (none, after)
    | (some value, after) => next value after

theorem pure_apply (value : Value) (state : State) :
    (pure value : Attempt State Value) state = (some value, state) := rfl

theorem bind_apply (first : Attempt State Other) (next : Other → Attempt State Value)
    (state : State) :
    (first >>= next) state =
      match first state with
      | (none, after) => (none, after)
      | (some value, after) => next value after := rfl

theorem bind_value (first : Attempt State Other) (next : Other → Attempt State Value)
    (state : State) :
    ((first >>= next) state).1 = (first state).1.bind fun value => (next value (first state).2).1 := by
  rw [bind_apply]
  cases first state with
  | mk value after =>
      cases value with
      | none => rfl
      | some value => rfl

def Ensures (before : State → Prop) (attempt : Attempt State Value)
    (returned : Value → State → Prop) (gaveUp : State → Prop) : Prop :=
  ∀ state, before state →
    match attempt state with
    | (none, after) => gaveUp after
    | (some value, after) => returned value after

variable {before : State → Prop} {attempt : Attempt State Value}
  {returned : Value → State → Prop} {gaveUp : State → Prop}

theorem ensures_pure (value : Value) (holds : ∀ state, before state → returned value state) :
    Ensures before (pure value) returned gaveUp := holds

theorem ensures_bind {between : Other → State → Prop} {first : Attempt State Other}
    {next : Other → Attempt State Value} (start : Ensures before first between gaveUp)
    (onward : ∀ value, Ensures (between value) (next value) returned gaveUp) :
    Ensures before (first >>= next) returned gaveUp := by
  intro state holds
  have early := start state holds
  rw [bind_apply]
  cases outcome : first state with
  | mk value after =>
      rw [outcome] at early
      cases value with
      | none => exact early
      | some value => exact onward value after early

theorem ensures_weaken {narrow : State → Prop} (ensures : Ensures before attempt returned narrow)
    (weaker : ∀ state, narrow state → gaveUp state) : Ensures before attempt returned gaveUp := by
  intro state holds
  have ended := ensures state holds
  cases outcome : attempt state with
  | mk value after =>
      rw [outcome] at ended
      cases value with
      | none => exact weaker after ended
      | some value => exact ended

theorem ensures_on_failure {failed : State → Prop} {cleanup : State → State}
    (ensures : Ensures before attempt returned failed)
    (cleaned : ∀ state, failed state → gaveUp (cleanup state)) :
    Ensures before (attempt.onFailure cleanup) returned gaveUp := by
  intro state holds
  have ended := ensures state holds
  unfold Attempt.onFailure
  cases outcome : attempt state with
  | mk value after =>
      rw [outcome] at ended
      cases value with
      | none => exact cleaned after ended
      | some value => exact ended

theorem ensures_fact {fact : Prop} (ensures : fact → Ensures before attempt returned gaveUp) :
    Ensures (fun state => fact ∧ before state) attempt returned gaveUp :=
  fun state holds => ensures holds.1 state holds.2

end Attempts
