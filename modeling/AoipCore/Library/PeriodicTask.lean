import AoipCore.Library.ControlLoop
import Mathlib.Data.List.Chain
import Mathlib.Tactic.Ring

/-!
# A task that a polling loop performs periodically

Each pass of a loop reads a clock. If a period has passed since the timer was set,
the pass performs the task and sets the timer to its reading; a pass may also skip
the test. The delay of one round therefore carries over to all later ones: the
number of rounds lies between the elapsed time divided by the period and the
elapsed time divided by the period and the longest gap between two readings.
-/

namespace PeriodicTask

open ControlLoop

set_option autoImplicit false

variable {State Input Result : Type*} {body : Body State Input Result} {period : Nat}

structure Task (body : Body State Input Result) (period : Nat) where
  timer : State → Nat
  count : State → Nat
  reading : Input → Nat
  skips : State → Input → Prop
  step : ∀ state input next, body state input = .next next → timer state ≤ reading input →
    (timer next = reading input ∧ count next = count state + 1 ∧
        timer state + period ≤ reading input) ∨
      (timer next = timer state ∧ count next = count state ∧
        (reading input < timer state + period ∨ skips state input))

variable (task : Task body period) (start : Nat)

def Task.readings (past : List (State × Input)) : List Nat :=
  start :: past.map fun pass => task.reading pass.2

def Task.now (past : List (State × Input)) : Nat :=
  (task.readings start past).getLast (List.cons_ne_nil _ _)

variable {task start}

theorem now_append (past : List (State × Input)) (pass : State × Input) :
    task.now start (past ++ [pass]) = task.reading pass.2 := by
  simp [Task.now, Task.readings]

theorem readings_append (past : List (State × Input)) (pass : State × Input) :
    task.readings start (past ++ [pass]) = task.readings start past ++ [task.reading pass.2] := by
  simp [Task.readings]

theorem chain_last {relation : Nat → Nat → Prop} {past : List (State × Input)}
    {pass : State × Input}
    (chain : (task.readings start (past ++ [pass])).IsChain relation) :
    (task.readings start past).IsChain relation ∧
      relation (task.now start past) (task.reading pass.2) := by
  rw [readings_append, List.isChain_append] at chain
  refine ⟨chain.1, chain.2.2 _ ?_ _ rfl⟩
  exact List.getLast?_eq_getLast_of_ne_nil (List.cons_ne_nil _ _)

def Forward (earlier later : Nat) : Prop := earlier ≤ later

def Within (gap earlier later : Nat) : Prop := earlier ≤ later ∧ later ≤ earlier + gap

instance (earlier later : Nat) : Decidable (Forward earlier later) :=
  inferInstanceAs (Decidable (_ ≤ _))

instance (gap earlier later : Nat) : Decidable (Within gap earlier later) :=
  inferInstanceAs (Decidable (_ ∧ _))

variable (task)

theorem rounds_spaced {first state : State} {past : List (State × Input)}
    (history : History body first past state) (armed : task.timer first = start)
    (forward : (task.readings start past).IsChain Forward) :
    start + (task.count state - task.count first) * period ≤ task.timer state ∧
      task.timer state ≤ task.now start past ∧ task.count first ≤ task.count state := by
  induction history with
  | start =>
      rw [armed, Nat.sub_self, Nat.zero_mul]
      exact ⟨le_rfl, le_rfl, le_rfl⟩
  | @pass past state next prior input fallThrough ih =>
      obtain ⟨earlier, onward⟩ := chain_last forward
      obtain ⟨spaced, behind, grows⟩ := ih earlier
      have reached : task.timer state ≤ task.reading input := behind.trans onward
      rw [now_append]
      rcases task.step _ _ _ fallThrough reached with ⟨set, counted, due⟩ | ⟨kept, same, -⟩
      · have one : task.count state + 1 - task.count first =
            task.count state - task.count first + 1 := by omega
        rw [set, counted, one, Nat.add_mul, Nat.one_mul]
        exact ⟨by omega, le_rfl, by omega⟩
      · rw [kept, same]
        exact ⟨spaced, reached, grows⟩

/-- If no pass skips the test, each round has taken no more than a period and a gap. -/
theorem rounds_prompt {gap : Nat} {first state : State} {past : List (State × Input)}
    (history : History body first past state) (armed : task.timer first = start)
    (positive : 0 < period) (within : (task.readings start past).IsChain (Within gap))
    (tested : ∀ pass ∈ past, ¬task.skips pass.1 pass.2) :
    task.timer state ≤ start + (task.count state - task.count first) * (period + gap) ∧
      task.now start past < task.timer state + period := by
  have forward : (task.readings start past).IsChain Forward := within.imp fun _ _ both => both.1
  induction history with
  | start =>
      rw [armed, Nat.sub_self, Nat.zero_mul]
      exact ⟨le_rfl, Nat.lt_add_of_pos_right positive⟩
  | @pass past state next prior input fallThrough ih =>
      obtain ⟨earlier, onward, close⟩ := chain_last within
      have near : task.reading input ≤ task.now start past + gap := close
      have ordered := (chain_last forward).1
      obtain ⟨prompt, waiting⟩ := ih earlier
        (fun pass member => tested pass (List.mem_append_left _ member)) ordered
      obtain ⟨-, behind, grows⟩ := rounds_spaced task prior armed ordered
      have reached : task.timer state ≤ task.reading input := behind.trans onward
      rw [now_append]
      rcases task.step _ _ _ fallThrough reached with ⟨set, counted, due⟩ | ⟨kept, same, early⟩
      · have one : task.count state + 1 - task.count first =
            task.count state - task.count first + 1 := by omega
        rw [set, counted, one, Nat.add_mul, Nat.one_mul]
        exact ⟨by omega, Nat.lt_add_of_pos_right positive⟩
      · rw [kept, same]
        refine ⟨prompt, ?_⟩
        rcases early with early | skipped
        · exact early
        · exact absurd skipped (tested _ (List.mem_append_right _ (List.mem_singleton.mpr rfl)))

theorem rounds_bounded {gap : Nat} {first state : State} {past : List (State × Input)}
    (history : History body first past state) (armed : task.timer first = start)
    (positive : 0 < period) (within : (task.readings start past).IsChain (Within gap))
    (tested : ∀ pass ∈ past, ¬task.skips pass.1 pass.2) :
    task.now start past - start <
      (task.count state - task.count first + 1) * (period + gap) := by
  obtain ⟨prompt, waiting⟩ := rounds_prompt task history armed positive within tested
  rw [Nat.add_mul, Nat.one_mul]
  omega

end PeriodicTask
