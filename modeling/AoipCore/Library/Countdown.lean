import Mathlib.Data.List.Basic

/-!
# Counting a system down

A system of several threads is brought to an end by the steps of one of them: every
such step lowers a rank, and the steps of the others do not raise it. Then the rank is
zero after as many of these steps as it has units, however the others come in between.
-/

namespace Countdown

set_option autoImplicit false

variable {State Action : Type*}

structure Counts (step : State → Action → State) (admits : Action → Prop) (holds : State → Prop)
    (ticks : Action → Bool) (rank : State → Nat) : Prop where
  keeps : ∀ state action, admits action → holds state → holds (step state action)
  stays : ∀ state action, admits action → holds state → rank (step state action) ≤ rank state
  lowers : ∀ state action, admits action → holds state → ticks action = true →
    rank (step state action) ≤ rank state - 1

variable {step : State → Action → State} {admits : Action → Prop} {holds : State → Prop}
  {ticks : Action → Bool} {rank : State → Nat}

theorem run_lowers (counts : Counts step admits holds ticks rank) (schedule : List Action)
    (state : State) (initial : holds state) (admitted : ∀ action ∈ schedule, admits action) :
    holds (schedule.foldl step state) ∧
      rank (schedule.foldl step state) ≤ rank state - schedule.countP ticks := by
  induction schedule generalizing state with
  | nil => exact ⟨initial, Nat.le_refl _⟩
  | cons action rest ih =>
      have first : admits action := admitted action List.mem_cons_self
      obtain ⟨kept, lower⟩ := ih (step state action) (counts.keeps state action first initial)
        fun later member => admitted later (List.mem_cons_of_mem action member)
      refine ⟨kept, ?_⟩
      rw [List.foldl_cons]
      by_cases tick : ticks action = true
      · have lowered := counts.lowers state action first initial tick
        rw [List.countP_cons_of_pos tick]
        omega
      · have same := counts.stays state action first initial
        rw [List.countP_cons_of_neg tick]
        omega

theorem run_reaches_zero (counts : Counts step admits holds ticks rank) (schedule : List Action)
    (state : State) (initial : holds state) (admitted : ∀ action ∈ schedule, admits action)
    (enough : rank state ≤ schedule.countP ticks) :
    holds (schedule.foldl step state) ∧ rank (schedule.foldl step state) = 0 := by
  obtain ⟨kept, lower⟩ := run_lowers counts schedule state initial admitted
  exact ⟨kept, by omega⟩

end Countdown
