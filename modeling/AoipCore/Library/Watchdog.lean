import AoipCore.Library.ControlLoop

/-!
# A watchdog timer in a loop

Each pass of a loop takes a reading of a clock, and some passes store it in a
timer. A loop that gives up when the timer is too far behind relies on two
facts, which hold for readings that never go back: the timer is not ahead of the
current reading, and no pass that sets the timer is later than what it holds.
-/

namespace Watchdog

open ControlLoop

set_option autoImplicit false

variable {State Input Result Time : Type*}

/-- Where the timer is kept, what a pass reads, and which passes set it. -/
structure Watch (body : Body State Input Result) (Time : Type*) where
  timer : State → Time
  reading : Input → Time
  sets : State → Input → Bool
  step : ∀ state input next, body state input = .next next →
    timer next = if sets state input then reading input else timer state

variable {body : Body State Input Result} (watch : Watch body Time) (start : Time)

def Watch.readings (made : List (State × Input)) : List Time :=
  start :: made.map fun pass => watch.reading pass.2

def Watch.settings (made : List (State × Input)) : List Time :=
  start :: (made.filter fun pass => watch.sets pass.1 pass.2).map fun pass => watch.reading pass.2

section Lists

variable {watch start}

theorem readings_append (made : List (State × Input)) (pass : State × Input) :
    watch.readings start (made ++ [pass]) = watch.readings start made ++ [watch.reading pass.2] := by
  simp [Watch.readings]

theorem settings_append (made : List (State × Input)) (pass : State × Input) :
    watch.settings start (made ++ [pass]) =
      watch.settings start made ++
        if watch.sets pass.1 pass.2 then [watch.reading pass.2] else [] := by
  unfold Watch.settings
  split_ifs with sets
  · simp [List.filter_append, sets]
  · simp [List.filter_append, sets]

theorem settings_recorded (made : List (State × Input)) :
    ∀ setting ∈ watch.settings start made, setting ∈ watch.readings start made := by
  intro setting member
  rcases List.mem_cons.mp member with initial | later
  · exact List.mem_cons.mpr (.inl initial)
  · obtain ⟨pass, kept, same⟩ := List.mem_map.mp later
    exact List.mem_cons.mpr (.inr (List.mem_map.mpr ⟨pass, List.mem_of_mem_filter kept, same⟩))

end Lists

variable [LE Time]

def Watch.Ordered (made : List (State × Input)) : Prop :=
  (watch.readings start made).Pairwise (· ≤ ·)

instance [DecidableLE Time] (made : List (State × Input)) :
    Decidable (watch.Ordered start made) :=
  inferInstanceAs (Decidable (List.Pairwise _ _))

/-- The timer holds one of the readings, and none that set it is later. -/
structure Watch.Timely (made : List (State × Input)) (timer : Time) : Prop where
  recorded : timer ∈ watch.readings start made
  latest : ∀ setting ∈ watch.settings start made, setting ≤ timer

variable {watch start}

theorem ordered_front {made : List (State × Input)} {pass : State × Input}
    (ordered : watch.Ordered start (made ++ [pass])) : watch.Ordered start made := by
  unfold Watch.Ordered at ordered ⊢
  rw [readings_append] at ordered
  exact (List.pairwise_append.mp ordered).1

theorem ordered_last {made : List (State × Input)} {pass : State × Input}
    (ordered : watch.Ordered start (made ++ [pass])) :
    ∀ reading ∈ watch.readings start made, reading ≤ watch.reading pass.2 := by
  intro reading member
  unfold Watch.Ordered at ordered
  rw [readings_append] at ordered
  exact (List.pairwise_append.mp ordered).2.2 reading member _ (List.mem_singleton.mpr rfl)

theorem timely_pass (refl : ∀ time : Time, time ≤ time) {made : List (State × Input)}
    {pass : State × Input} {timer : Time} (timely : watch.Timely start made timer)
    (ordered : watch.Ordered start (made ++ [pass])) :
    watch.Timely start (made ++ [pass])
      (if watch.sets pass.1 pass.2 then watch.reading pass.2 else timer) := by
  have last := ordered_last ordered
  constructor
  · rw [readings_append]
    split_ifs
    · exact List.mem_append_right _ (List.mem_singleton.mpr rfl)
    · exact List.mem_append_left _ timely.recorded
  · intro setting member
    rw [settings_append] at member
    split_ifs at member ⊢
    · rcases List.mem_append.mp member with earlier | current
      · exact last setting (settings_recorded made setting earlier)
      · rw [List.mem_singleton.mp current]
        exact refl _
    · rw [List.append_nil] at member
      exact timely.latest setting member

theorem history_timely (refl : ∀ time : Time, time ≤ time) {first state : State}
    {past : List (State × Input)} (begins : watch.timer first = start)
    (history : History body first past state) (ordered : watch.Ordered start past) :
    watch.Timely start past (watch.timer state) := by
  induction history with
  | start =>
      constructor
      · rw [begins]
        exact List.mem_cons.mpr (.inl rfl)
      · intro setting member
        rw [begins, List.mem_singleton.mp member]
        exact refl _
  | pass prior input step ih =>
      rw [watch.step _ _ _ step]
      exact timely_pass refl (ih (ordered_front ordered)) ordered

theorem timely_not_ahead (refl : ∀ time : Time, time ≤ time) {made : List (State × Input)}
    {pass : State × Input} {timer : Time} (timely : watch.Timely start (made ++ [pass]) timer)
    (ordered : watch.Ordered start (made ++ [pass])) : timer ≤ watch.reading pass.2 := by
  have recorded := timely.recorded
  rw [readings_append] at recorded
  rcases List.mem_append.mp recorded with earlier | current
  · exact ordered_last ordered timer earlier
  · rw [List.mem_singleton.mp current]
    exact refl _

end Watchdog
