import Mathlib.Data.List.Infix

/-!
# Occurrences of two adjacent symbols

`occurs` looks for a pair of symbols next to each other. An occurrence in a
concatenation lies in one of the parts or across the seam.
-/

namespace PairScan

set_option autoImplicit false

variable {Symbol : Type*} [DecidableEq Symbol]

def occurs (first second : Symbol) : List Symbol → Bool
  | left :: right :: rest =>
      (left == first && right == second) || occurs first second (right :: rest)
  | _ => false

variable {first second : Symbol}

theorem occurs_cons (symbol : Symbol) (rest : List Symbol) :
    occurs first second (symbol :: rest) =
      ((symbol == first && rest.head? == some second) || occurs first second rest) := by
  cases rest with
  | nil => simp [occurs]
  | cons next rest => simp [occurs]

theorem occurs_append (front back : List Symbol) :
    occurs first second (front ++ back) =
      (occurs first second front || occurs first second back ||
        (front.getLast? == some first && back.head? == some second)) := by
  induction front with
  | nil => simp [occurs]
  | cons symbol front ih =>
      rw [List.cons_append, occurs_cons, ih, occurs_cons]
      cases front with
      | nil => simp [occurs, Bool.or_comm]
      | cons next front =>
          rw [List.getLast?_cons_cons]
          simp [Bool.or_assoc]

theorem occurs_iff_infix (text : List Symbol) :
    occurs first second text = true ↔ [first, second] <:+: text := by
  induction text with
  | nil => simp [occurs]
  | cons symbol rest ih =>
      rw [occurs_cons, List.infix_cons_iff, Bool.or_eq_true, ih]
      apply or_congr_left
      cases rest with
      | nil => simp
      | cons next rest =>
          simp only [List.head?_cons, Bool.and_eq_true, beq_iff_eq, Option.some.injEq,
            List.cons_prefix_cons, List.nil_prefix, and_true]
          exact and_congr eq_comm eq_comm

theorem not_occurs_of_not_mem {text : List Symbol} (absent : first ∉ text) :
    occurs first second text = false := by
  rw [← Bool.not_eq_true, occurs_iff_infix]
  intro inside
  exact absent (inside.subset List.mem_cons_self)

theorem occurs_first {text : List Symbol} (inside : occurs first second text = true) :
    ∃ front rest, text = front ++ first :: second :: rest ∧
      occurs first second (front ++ [first]) = false := by
  induction text with
  | nil => simp [occurs] at inside
  | cons symbol text ih =>
      rw [occurs_cons, Bool.or_eq_true] at inside
      by_cases here : symbol = first ∧ text.head? = some second
      · obtain ⟨rfl, next⟩ := here
        obtain ⟨rest, rfl⟩ := List.head?_eq_some_iff.mp next
        exact ⟨[], rest, rfl, rfl⟩
      · obtain ⟨front, rest, rfl, unmarked⟩ := ih (inside.resolve_left (by simpa using here))
        refine ⟨symbol :: front, rest, rfl, ?_⟩
        have same : (front ++ [first]).head? = (front ++ first :: second :: rest).head? := by
          cases front <;> rfl
        rw [List.cons_append, occurs_cons, unmarked, Bool.or_false, same]
        simpa using here

/-- Lines that end in another symbol than `first` can be joined. -/
theorem not_occurs_append {front back : List Symbol} (inFront : occurs first second front = false)
    (inBack : occurs first second back = false)
    (seam : front.getLast? ≠ some first ∨ back.head? ≠ some second) :
    occurs first second (front ++ back) = false := by
  rw [occurs_append, inFront, inBack]
  rcases seam with last | head
  · simp [last]
  · simp [head]

end PairScan
