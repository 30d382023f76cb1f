import AoipCore.Library.Linearise

/-!
# A bounded queue as one thread would see it

The state is the list of waiting items, oldest first. Each event is a whole
operation together with its answer, and is possible only where the answer is
the right one: an item is refused exactly at the capacity, and a reader finds
nothing exactly if nothing waits.
-/

namespace BoundedFifo

open Linearise

set_option autoImplicit false

variable {Item : Type*}

inductive Event (Item : Type*) where
  | stored (item : Item)
  | refused
  | taken (item : Item)
  | foundEmpty
  deriving DecidableEq, Repr

def next [DecidableEq Item] (capacity : Nat) : List Item → Event Item → Option (List Item)
  | waiting, .stored item => if waiting.length < capacity then some (waiting ++ [item]) else none
  | waiting, .refused => if waiting.length = capacity then some waiting else none
  | [], .taken _ => none
  | first :: rest, .taken item => if item = first then some rest else none
  | [], .foundEmpty => some []
  | _ :: _, .foundEmpty => none

def Event.storedItem : Event Item → Option Item
  | .stored item => some item
  | _ => none

def Event.takenItem : Event Item → Option Item
  | .taken item => some item
  | _ => none

variable [DecidableEq Item] {capacity : Nat}

theorem next_stored {waiting : List Item} (room : waiting.length < capacity) (item : Item) :
    next capacity waiting (.stored item) = some (waiting ++ [item]) := by
  rw [next, if_pos room]

theorem next_refused {waiting : List Item} (full : waiting.length = capacity) :
    next capacity waiting .refused = some waiting := by
  rw [next, if_pos full]

theorem next_taken (item : Item) (rest : List Item) :
    next capacity (item :: rest) (.taken item) = some rest := by
  rw [next, if_pos rfl]

theorem next_conserves {waiting reached : List Item} {event : Event Item}
    (stepped : next capacity waiting event = some reached) :
    waiting ++ event.storedItem.toList = event.takenItem.toList ++ reached := by
  cases event with
  | stored item =>
      rw [next] at stepped
      split_ifs at stepped
      obtain rfl := Option.some.inj stepped
      rfl
  | refused =>
      rw [next] at stepped
      split_ifs at stepped
      obtain rfl := Option.some.inj stepped
      exact List.append_nil waiting
  | taken item =>
      cases waiting with
      | nil => cases stepped
      | cons first rest =>
          rw [next] at stepped
          split_ifs at stepped with same
          obtain rfl := Option.some.inj stepped
          subst same
          exact List.append_nil _
  | foundEmpty =>
      cases waiting with
      | nil =>
          obtain rfl := Option.some.inj stepped
          rfl
      | cons first rest => cases stepped

/-- The items stored are those taken, in the same order, and those that wait. -/
theorem follow_conserves (happened : List (Event Item)) (waiting reached : List Item)
    (followed : follow (next capacity) waiting happened = some reached) :
    waiting ++ happened.filterMap Event.storedItem =
      happened.filterMap Event.takenItem ++ reached := by
  induction happened generalizing waiting with
  | nil =>
      rw [follow, Option.some.injEq] at followed
      subst followed
      exact List.append_nil waiting
  | cons event rest ih =>
      rw [follow, Option.bind_eq_some_iff] at followed
      obtain ⟨middle, stepped, onward⟩ := followed
      have first := next_conserves stepped
      have later := ih middle onward
      rw [List.filterMap_eq_flatMap_toList, List.filterMap_eq_flatMap_toList] at later ⊢
      rw [List.flatMap_cons, List.flatMap_cons, ← List.append_assoc, first, List.append_assoc,
        later, List.append_assoc]

end BoundedFifo
