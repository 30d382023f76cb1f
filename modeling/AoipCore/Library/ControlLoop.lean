import Mathlib.Data.List.Basic

/-!
# Loops whose body may break

A body reads one input per pass and either falls through to the next test of
the loop condition or leaves with a result. `run` is the executable loop, fed
by the list of inputs the environment supplies, and `trace` lists the passes it
makes. `History` records the passes that fell through with the state each of
them started from, so that a property of a whole run is one induction on the
passes already completed.
-/

namespace ControlLoop

set_option autoImplicit false

inductive Flow (State Result : Type*) where
  | next (state : State)
  | leave (result : Result) (state : State)
  deriving DecidableEq, Repr

def Flow.state {State Result : Type*} : Flow State Result → State
  | .next state => state
  | .leave _ state => state

def Flow.goesOn {State Result : Type*} : Flow State Result → Bool
  | .next _ => true
  | .leave _ _ => false

theorem flow_goes_on {State Result : Type*} {flow : Flow State Result}
    (goes : flow.goesOn = true) : flow = .next flow.state := by
  cases flow with
  | next state => rfl
  | leave result state => cases goes

abbrev Body (State Input Result : Type*) := State → Input → Flow State Result

variable {State Input Result : Type*}

def run (body : Body State Input Result) (state : State) : List Input → Flow State Result
  | [] => .next state
  | input :: rest =>
      match body state input with
      | .next state => run body state rest
      | .leave result state => .leave result state

/-- The passes a run makes, each with the state it begins in. -/
def trace (body : Body State Input Result) (state : State) : List Input → List (State × Input)
  | [] => []
  | input :: rest =>
      (state, input) ::
        match body state input with
        | .next state => trace body state rest
        | .leave _ _ => []

theorem run_next {body : Body State Input Result} {state next : State} {input : Input}
    (step : body state input = .next next) (rest : List Input) :
    run body state (input :: rest) = run body next rest := by
  rw [run, step]

theorem run_single (body : Body State Input Result) (state : State) (input : Input) :
    run body state [input] = body state input := by
  rw [run]
  cases body state input with
  | next following => rfl
  | leave result final => rfl

/-- A run over two portions of inputs goes on with the second if it does not
leave in the first. -/
theorem run_append (body : Body State Input Result) (state : State) (front rest : List Input) :
    run body state (front ++ rest) =
      match run body state front with
      | .next reached => run body reached rest
      | .leave result final => .leave result final := by
  induction front generalizing state with
  | nil => rfl
  | cons input front ih =>
      rw [List.cons_append, run, run]
      cases body state input with
      | next following => exact ih following
      | leave result final => rfl

theorem run_one_more {body : Body State Input Result} {start reached : State}
    {inputs : List Input} (input : Input) (goes : run body start inputs = .next reached) :
    run body start (inputs ++ [input]) = body reached input := by
  rw [run_append, goes]
  exact run_single body reached input

/-- What every pass preserves, whichever way it ends, holds wherever a run
arrives. -/
theorem run_state_invariant {body : Body State Input Result} (invariant : State → Prop)
    (step : ∀ state input, invariant state → invariant (body state input).state)
    (state : State) (initial : invariant state) (inputs : List Input) :
    invariant (run body state inputs).state := by
  induction inputs generalizing state with
  | nil => exact initial
  | cons input rest ih =>
      have kept := step state input initial
      rw [run]
      cases outcome : body state input with
      | next following =>
          rw [outcome] at kept
          exact ih following kept
      | leave result final =>
          rw [outcome] at kept
          exact kept

/-- The passes completed so far, oldest first, each with the state it began
in, together with the state the loop condition is tested in next. -/
inductive History (body : Body State Input Result) (start : State) :
    List (State × Input) → State → Prop where
  | start : History body start [] start
  | pass {past : List (State × Input)} {state next : State}
      (prior : History body start past state) (input : Input)
      (step : body state input = .next next) :
      History body start (past ++ [(state, input)]) next

theorem history_invariant {body : Body State Input Result} {start : State}
    (invariant : State → Prop) (initial : invariant start)
    (step : ∀ state input next, invariant state → body state input = .next next →
      invariant next)
    {past : List (State × Input)} {state : State}
    (history : History body start past state) : invariant state := by
  induction history with
  | start => exact initial
  | pass prior input fallThrough ih => exact step _ _ _ ih fallThrough

theorem history_fell_through {body : Body State Input Result} {start state : State}
    {past : List (State × Input)} (history : History body start past state) :
    ∀ made ∈ past, ∃ next, body made.1 made.2 = .next next := by
  induction history with
  | start =>
      intro made member
      simp at member
  | pass prior input step ih =>
      intro made member
      rcases List.mem_append.mp member with earlier | last
      · exact ih made earlier
      · obtain rfl := List.mem_singleton.mp last
        exact ⟨_, step⟩

/-- Each recorded pass began where the history before it had arrived. -/
theorem history_before {body : Body State Input Result} {start final : State}
    {past : List (State × Input)} (history : History body start past final)
    (earlier later : List (State × Input)) (pass : State × Input)
    (split : past = earlier ++ pass :: later) : History body start earlier pass.1 := by
  induction history generalizing later with
  | start => simp at split
  | @pass past state next prior input step ih =>
      rcases List.eq_nil_or_concat later with rfl | ⟨front, last, rfl⟩
      · obtain ⟨rfl, same⟩ := List.append_inj' split rfl
        obtain rfl := List.singleton_inj.mp same
        exact prior
      · have shorter : past = earlier ++ pass :: front := by
          rw [List.concat_eq_append, ← List.cons_append, ← List.append_assoc] at split
          exact (List.append_inj' split rfl).1
        exact ih front shorter

theorem history_extend {body : Body State Input Result} {start state : State}
    {past : List (State × Input)} (history : History body start past state)
    (inputs : List Input) (result : Result) (final : State)
    (left : run body state inputs = .leave result final) :
    ∃ later last input, History body start (past ++ later) last ∧
      trace body state inputs = later ++ [(last, input)] ∧
      body last input = .leave result final := by
  induction inputs generalizing past state with
  | nil => simp [run] at left
  | cons input rest ih =>
      rw [trace]
      cases outcome : body state input with
      | next following =>
          have remaining : run body following rest = .leave result final := by
            simpa only [run, outcome] using left
          obtain ⟨later, last, leaving, extended, made, step⟩ :=
            ih (.pass history input outcome) remaining
          rw [List.append_assoc, List.singleton_append] at extended
          exact ⟨(state, input) :: later, last, leaving, extended, by simp [made], step⟩
      | leave left' state' =>
          have same : left' = result ∧ state' = final := by
            simpa only [run, outcome, Flow.leave.injEq] using left
          rw [same.1, same.2] at outcome
          exact ⟨[], state, input, by rwa [List.append_nil], rfl, outcome⟩

theorem history_runs {body : Body State Input Result} {start state : State}
    {past : List (State × Input)} (history : History body start past state) :
    run body start (past.map Prod.snd) = .next state := by
  induction history with
  | start => rfl
  | pass prior input step ih =>
      rw [List.map_append, List.map_singleton, run_one_more input ih, step]

theorem run_next_history {body : Body State Input Result} {start state reached : State}
    {past : List (State × Input)} (history : History body start past state) (inputs : List Input)
    (goes : run body state inputs = .next reached) :
    ∃ later, History body start (past ++ later) reached := by
  induction inputs generalizing past state with
  | nil =>
      obtain rfl := Flow.next.inj goes
      exact ⟨[], by rwa [List.append_nil]⟩
  | cons input rest ih =>
      cases outcome : body state input with
      | next following =>
          rw [run_next outcome] at goes
          obtain ⟨later, extended⟩ := ih (.pass history input outcome) goes
          rw [List.append_assoc] at extended
          exact ⟨_, extended⟩
      | leave result final =>
          rw [run, outcome] at goes
          cases goes

/-- A loop that leaves does so in one final pass after a history of passes
that fell through. -/
theorem run_leave_history {body : Body State Input Result} {start : State}
    {inputs : List Input} {result : Result} {final : State}
    (left : run body start inputs = .leave result final) :
    ∃ past last input, History body start past last ∧
      trace body start inputs = past ++ [(last, input)] ∧
      body last input = .leave result final := by
  have extended := history_extend (.start : History body start [] start) inputs result final left
  simpa only [List.nil_append] using extended

theorem trace_extend {body : Body State Input Result} {start state : State}
    {past : List (State × Input)} (history : History body start past state)
    (inputs : List Input) (earlier later : List (State × Input)) (pass : State × Input)
    (split : trace body state inputs = earlier ++ pass :: later) :
    History body start (past ++ earlier) pass.1 := by
  induction inputs generalizing past state earlier with
  | nil => simp [trace] at split
  | cons input rest ih =>
      rw [trace] at split
      cases earlier with
      | nil =>
          obtain ⟨rfl, -⟩ := List.cons.inj split
          rwa [List.append_nil]
      | cons front tail =>
          obtain ⟨rfl, remaining⟩ := List.cons.inj split
          cases outcome : body state input with
          | next following =>
              rw [outcome] at remaining
              have extended := ih (.pass history input outcome) tail remaining
              rwa [List.append_assoc, List.singleton_append] at extended
          | leave result final => simp [outcome] at remaining

theorem trace_step {body : Body State Input Result} {start : State} {inputs : List Input}
    (earlier later : List (State × Input)) (pass following : State × Input)
    (split : trace body start inputs = earlier ++ pass :: following :: later) :
    body pass.1 pass.2 = .next following.1 := by
  have regrouped : trace body start inputs = (earlier ++ [pass]) ++ following :: later := by
    rw [split, List.append_assoc, List.singleton_append]
  have history := trace_extend .start inputs (earlier ++ [pass]) later following regrouped
  rw [List.nil_append] at history
  generalize made : earlier ++ [pass] = past at history
  cases history with
  | start => simp at made
  | pass prior input step =>
      obtain ⟨-, same⟩ := List.append_inj' made rfl
      obtain rfl := List.singleton_inj.mp same
      exact step

def Flow.map {State Result OtherState : Type*} (onState : State → OtherState) :
    Flow State Result → Flow OtherState Result
  | .next state => .next (onState state)
  | .leave result state => .leave result (onState state)

theorem flow_map_state {OtherState : Type*} (onState : State → OtherState)
    (flow : Flow State Result) : (flow.map onState).state = onState flow.state := by
  cases flow with
  | next state => rfl
  | leave result state => rfl

theorem flow_map_next {OtherState : Type*} {onState : State → OtherState}
    {flow : Flow State Result} {reached : OtherState} (mapped : flow.map onState = .next reached) :
    ∃ state, flow = .next state ∧ onState state = reached := by
  cases flow with
  | next state => exact ⟨state, rfl, Flow.next.inj mapped⟩
  | leave result state => cases mapped

theorem flow_map_leave {OtherState : Type*} {onState : State → OtherState}
    {flow : Flow State Result} {result : Result} {reached : OtherState}
    (mapped : flow.map onState = .leave result reached) :
    ∃ state, flow = .leave result state ∧ onState state = reached := by
  cases flow with
  | next state => cases mapped
  | leave left state =>
      obtain ⟨rfl, same⟩ := Flow.leave.inj mapped
      exact ⟨state, rfl, same⟩

/-- One loop follows another pass by pass: where every admitted pass of the
first is a pass of the second with the same way out, so is every run. -/
theorem run_corresponds {OtherState OtherInput : Type*} {body : Body State Input Result}
    {other : Body OtherState OtherInput Result} (onState : State → OtherState)
    (onInput : Input → OtherInput) (admits : State → List Input → Prop)
    (step : ∀ state input rest, admits state (input :: rest) →
      other (onState state) (onInput input) = (body state input).map onState ∧
        ∀ next, body state input = .next next → admits next rest)
    (state : State) (inputs : List Input) (admitted : admits state inputs) :
    run other (onState state) (inputs.map onInput) = (run body state inputs).map onState := by
  induction inputs generalizing state with
  | nil => rfl
  | cons input rest ih =>
      obtain ⟨same, onward⟩ := step state input rest admitted
      rw [List.map_cons, run, run, same]
      cases outcome : body state input with
      | next following => exact ih following (onward following outcome)
      | leave result final => rfl

/-- A map of states and inputs that carries every pass of one body to a pass
of another carries the histories as well. -/
theorem history_project {OtherState OtherInput OtherResult : Type*}
    {body : Body State Input Result} {other : Body OtherState OtherInput OtherResult}
    (onState : State → OtherState) (onInput : Input → OtherInput)
    (step : ∀ state input next, body state input = .next next →
      other (onState state) (onInput input) = .next (onState next))
    {start state : State} {past : List (State × Input)}
    (history : History body start past state) :
    History other (onState start) (past.map (Prod.map onState onInput)) (onState state) := by
  induction history with
  | start => exact .start
  | pass prior input fallThrough ih =>
      simpa using History.pass ih (onInput input) (step _ _ _ fallThrough)

end ControlLoop
