import Mathlib.Order.Nat

/-!
# A queue between a paced producer and a polling consumer

The consumer polls the clock. When a period has passed since it was armed it
begins a round, which takes one item if it finds any, and is armed again. If it
polls often enough for the pace at which items arrive, there are never more than
two of them.
-/

namespace PacedQueue

set_option autoImplicit false

/-- `arrived` is the time of the last arrival, `armed` that of the last round and
`polled` that of the last poll. The consumer is `busy` in a round that has found an
item and not taken it yet. -/
@[ext]
structure Clocked where
  now : Nat
  waiting : Nat
  arrived : Nat
  armed : Nat
  polled : Nat
  busy : Bool

/-- What can happen at a time. An arriving item counts at once, though the consumer
need not see it yet: a round may find nothing while one item waits. -/
inductive Step (period gap time : Nat) (s : Clocked) : Clocked → Prop where
  | quiet : Step period gap time s { s with now := time }
  | arrive (spaced : s.waiting = 0 ∨ s.arrived + period + 2 * gap < time) :
      Step period gap time s { s with now := time, waiting := s.waiting + 1, arrived := time }
  | early (free : s.busy = false) (early : time < s.armed + period) :
      Step period gap time s { s with now := time, polled := time }
  | begin (free : s.busy = false) :
      Step period gap time s { s with now := time, armed := time, polled := time, busy := true }
  | idle (free : s.busy = false) (few : s.waiting ≤ 1) :
      Step period gap time s { s with now := time, armed := time, polled := time }
  | finish (busy : s.busy = true) :
      Step period gap time s { s with now := time, waiting := s.waiting - 1, busy := false }

/-- With two items, either no round has begun since the second arrived, or one is at
work that began soon enough. -/
structure Kept (period gap : Nat) (s : Clocked) : Prop where
  past : s.polled ≤ s.now
  ordered : s.armed ≤ s.polled
  recent : s.polled ≤ s.armed + period
  working : s.busy = true → s.polled = s.armed
  few : s.waiting ≤ 2
  served : s.waiting = 2 → s.armed ≤ s.arrived ∨
    (s.busy = true ∧ s.armed ≤ s.arrived + period + gap)

variable {period gap time : Nat} {s next : Clocked}

theorem Step.of_eq {other : Clocked} (step : Step period gap time s next) (same : other = next) :
    Step period gap time s other := by
  rw [same]
  exact step

/-- Two items have not been waiting for longer than a period and two gaps. -/
theorem two_are_recent (kept : Kept period gap s) (attended : time ≤ s.polled + gap)
    (two : s.waiting = 2) : time ≤ s.arrived + period + 2 * gap := by
  have recent := kept.recent
  rcases kept.served two with before | ⟨busy, soon⟩
  · omega
  · have same := kept.working busy
    omega

theorem step_keeps (kept : Kept period gap s) (forward : s.now ≤ time)
    (attended : time ≤ s.polled + gap) (step : Step period gap time s next) :
    Kept period gap next := by
  have past := kept.past
  have ordered := kept.ordered
  have recent := kept.recent
  cases step with
  | quiet =>
      exact ⟨past.trans forward, ordered, recent, kept.working, kept.few, kept.served⟩
  | arrive spaced =>
      have room : s.waiting ≤ 1 := by
        have few := kept.few
        by_contra more
        have two : s.waiting = 2 := by omega
        have late := two_are_recent kept attended two
        rcases spaced with none | spaced
        · omega
        · omega
      refine ⟨past.trans forward, ordered, recent, kept.working, ?_, ?_⟩
      · dsimp only
        omega
      · intro _
        left
        dsimp only
        omega
  | early free early =>
      refine ⟨le_rfl, ?_, early.le, ?_, kept.few, kept.served⟩
      · dsimp only
        omega
      · intro busy
        rw [free] at busy
        cases busy
  | begin free =>
      refine ⟨le_rfl, le_rfl, Nat.le_add_right _ _, fun _ => rfl, kept.few, ?_⟩
      intro two
      right
      refine ⟨rfl, ?_⟩
      rcases kept.served two with before | ⟨busy, -⟩
      · dsimp only
        omega
      · rw [free] at busy
        cases busy
  | idle free few =>
      refine ⟨le_rfl, le_rfl, Nat.le_add_right _ _, fun _ => rfl, kept.few, ?_⟩
      intro two
      dsimp only at two
      omega
  | finish busy =>
      have few := kept.few
      refine ⟨past.trans forward, ordered, recent, ?_, ?_, ?_⟩
      · intro still
        cases still
      · dsimp only
        omega
      · intro two
        dsimp only at two
        omega

/-! ## Runs -/

section Runs

variable {State Action : Type*}

/-- Each step of a run is allowed where it is taken. -/
def Along (step : State → Action → State) (allowed : State → Action → Prop) :
    State → List Action → Prop
  | _, [] => True
  | state, action :: rest => allowed state action ∧ Along step allowed (step state action) rest

instance (step : State → Action → State) (allowed : State → Action → Prop)
    [∀ state action, Decidable (allowed state action)] :
    (state : State) → (schedule : List Action) → Decidable (Along step allowed state schedule)
  | _, [] => .isTrue trivial
  | state, action :: rest =>
      have := instDecidableAlong step allowed (step state action) rest
      inferInstanceAs (Decidable (_ ∧ _))

theorem along_invariant {step : State → Action → State} {allowed : State → Action → Prop}
    (invariant : State → Prop)
    (kept : ∀ state action, invariant state → allowed state action →
      invariant (step state action))
    {state : State} {schedule : List Action} (along : Along step allowed state schedule)
    (initial : invariant state) : invariant (schedule.foldl step state) := by
  induction schedule generalizing state with
  | nil => exact initial
  | cons action rest ih =>
      obtain ⟨first, later⟩ := along
      rw [List.foldl_cons]
      exact ih later (kept state action initial first)

end Runs

end PacedQueue
