import Mathlib.Data.List.Basic

/-!
# Runs explained by atomic events

A system of several threads takes many small steps. Some of them are the moment
at which an operation takes effect as a whole, and such a step emits an event.
The run is explained if the events, in the order they are emitted, are a run of
an abstract machine that knows whole operations only.
-/

namespace Linearise

set_option autoImplicit false

variable {State Action Abstract Event : Type*}

def events (step : State → Action → State) (event : State → Action → Option Event) :
    State → List Action → List Event
  | _, [] => []
  | state, action :: rest =>
      (event state action).toList ++ events step event (step state action) rest

def follow (next : Abstract → Event → Option Abstract) : Abstract → List Event → Option Abstract
  | abstract, [] => some abstract
  | abstract, event :: rest => (next abstract event).bind fun reached => follow next reached rest

/-- What one step of the system owes to the abstract machine. -/
structure Linearises (step : State → Action → State) (event : State → Action → Option Event)
    (next : Abstract → Event → Option Abstract) (relates : State → Abstract → Prop) : Prop where
  silent : ∀ state abstract action, relates state abstract → event state action = none →
    relates (step state action) abstract
  visible : ∀ state abstract action happened, relates state abstract →
    event state action = some happened →
    ∃ reached, next abstract happened = some reached ∧ relates (step state action) reached

theorem run_linearises {step : State → Action → State} {event : State → Action → Option Event}
    {next : Abstract → Event → Option Abstract} {relates : State → Abstract → Prop}
    (linearises : Linearises step event next relates) (schedule : List Action) (state : State)
    (abstract : Abstract) (related : relates state abstract) :
    ∃ reached, follow next abstract (events step event state schedule) = some reached ∧
      relates (schedule.foldl step state) reached := by
  induction schedule generalizing state abstract with
  | nil => exact ⟨abstract, rfl, related⟩
  | cons action rest ih =>
      rw [events, List.foldl_cons]
      cases happened : event state action with
      | none =>
          have kept := linearises.silent state abstract action related happened
          exact ih (step state action) abstract kept
      | some occurred =>
          obtain ⟨middle, taken, onward⟩ :=
            linearises.visible state abstract action occurred related happened
          obtain ⟨reached, followed, final⟩ := ih (step state action) middle onward
          refine ⟨reached, ?_, final⟩
          change (next abstract occurred).bind _ = some reached
          rw [taken]
          exact followed

theorem events_logged {Entry : Type*} {step : State → Action → State}
    {event : State → Action → Option Event} (log : State → List Entry)
    (entry : Event → Option Entry)
    (grows : ∀ state action,
      log (step state action) = log state ++ ((event state action).bind entry).toList)
    (schedule : List Action) (state : State) :
    log (schedule.foldl step state) =
      log state ++ (events step event state schedule).filterMap entry := by
  induction schedule generalizing state with
  | nil => exact (List.append_nil _).symm
  | cons action rest ih =>
      rw [List.foldl_cons, ih, grows, events, List.filterMap_append, List.append_assoc]
      congr 2
      cases event state action with
      | none => rfl
      | some happened =>
          change (entry happened).toList = [happened].filterMap entry
          cases found : entry happened with
          | none => rw [List.filterMap_cons_none found]; rfl
          | some value => rw [List.filterMap_cons_some found]; rfl

theorem follow_invariant {next : Abstract → Event → Option Abstract} {holds : Abstract → Prop}
    (keeps : ∀ abstract event reached, holds abstract → next abstract event = some reached →
      holds reached) (happened : List Event) (abstract reached : Abstract)
    (initially : holds abstract) (followed : follow next abstract happened = some reached) :
    holds reached := by
  induction happened generalizing abstract with
  | nil =>
      rw [follow, Option.some.injEq] at followed
      exact followed ▸ initially
  | cons event rest ih =>
      rw [follow, Option.bind_eq_some_iff] at followed
      obtain ⟨middle, taken, onward⟩ := followed
      exact ih middle (keeps abstract event middle initially taken) onward

end Linearise
