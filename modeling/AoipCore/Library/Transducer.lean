import Mathlib.Data.List.Basic

/-!
# Machines that react to messages

A machine moves from state to state on the messages it is given and shows one
reaction to each. `final` and `reactions` are its run over a list of messages;
both split where the list is cut, so that a stream may be handed over in
portions of any size.
-/

namespace Transducer

set_option autoImplicit false

structure Machine (State Message Reaction : Type*) where
  hear : State → Message → State
  react : State → Message → Reaction

variable {State Message Reaction : Type*} (machine : Machine State Message Reaction)

def Machine.final (state : State) (messages : List Message) : State :=
  messages.foldl machine.hear state

def Machine.reactions : State → List Message → List Reaction
  | _, [] => []
  | state, message :: rest =>
      machine.react state message :: Machine.reactions (machine.hear state message) rest

@[simp]
theorem final_nil (state : State) : machine.final state [] = state := rfl

@[simp]
theorem reactions_nil (state : State) : machine.reactions state [] = [] := rfl

@[simp]
theorem final_cons (state : State) (message : Message) (rest : List Message) :
    machine.final state (message :: rest) = machine.final (machine.hear state message) rest := rfl

@[simp]
theorem reactions_cons (state : State) (message : Message) (rest : List Message) :
    machine.reactions state (message :: rest) =
      machine.react state message :: machine.reactions (machine.hear state message) rest := rfl

theorem final_append (state : State) (front rest : List Message) :
    machine.final state (front ++ rest) = machine.final (machine.final state front) rest :=
  List.foldl_append

theorem reactions_append (state : State) (front rest : List Message) :
    machine.reactions state (front ++ rest) =
      machine.reactions state front ++ machine.reactions (machine.final state front) rest := by
  induction front generalizing state with
  | nil => rfl
  | cons message front ih => simp [ih]

theorem reactions_length (state : State) (messages : List Message) :
    (machine.reactions state messages).length = messages.length := by
  induction messages generalizing state with
  | nil => rfl
  | cons message rest ih => simp [ih]

/-- A message the machine answers with one reaction and without moving may
come any number of times. -/
theorem hears_repeated {state : State} {message : Message}
    (still : machine.hear state message = state) (count : Nat) :
    machine.final state (List.replicate count message) = state ∧
      machine.reactions state (List.replicate count message) =
        List.replicate count (machine.react state message) := by
  induction count with
  | zero => exact ⟨rfl, rfl⟩
  | succ count ih =>
      rw [List.replicate_succ, final_cons, reactions_cons, still, ih.1, ih.2]
      exact ⟨rfl, rfl⟩

/-- Every message of the given sort meets a reaction of the given sort. -/
def Machine.Answers (asked : Message → Bool) (answered : Reaction → Bool) (state : State)
    (messages : List Message) : Prop :=
  ∀ pair ∈ messages.zip (machine.reactions state messages),
    asked pair.1 = true → answered pair.2 = true

theorem answers_append (asked : Message → Bool) (answered : Reaction → Bool) (state : State)
    (front rest : List Message) :
    machine.Answers asked answered state (front ++ rest) ↔
      machine.Answers asked answered state front ∧
        machine.Answers asked answered (machine.final state front) rest := by
  unfold Machine.Answers
  rw [reactions_append, List.zip_append (reactions_length machine state front).symm]
  simp only [List.mem_append]
  constructor
  · intro all
    exact ⟨fun pair member => all pair (.inl member), fun pair member => all pair (.inr member)⟩
  · rintro ⟨first, second⟩ pair (member | member)
    · exact first pair member
    · exact second pair member

theorem answers_any {asked : Message → Bool} {answered : Reaction → Bool} {state : State}
    {messages : List Message} (answers : machine.Answers asked answered state messages)
    (present : messages.any asked = true) :
    (machine.reactions state messages).any answered = true := by
  induction messages generalizing state with
  | nil => simp at present
  | cons message rest ih =>
      rw [List.any_cons, Bool.or_eq_true] at present
      rw [reactions_cons, List.any_cons, Bool.or_eq_true]
      rcases present with here | later
      · left
        exact answers (message, machine.react state message) (by simp) here
      · right
        apply ih _ later
        intro pair member
        apply answers pair
        rw [reactions_cons, List.zip_cons_cons]
        exact List.mem_cons_of_mem _ member

end Transducer
