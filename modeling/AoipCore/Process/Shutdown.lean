import AoipCore.Library.Countdown
import AoipCore.Process.Threads

/-!
# The process around the two threads

`main` of `tonegen` and of `rtpdump` creates the network and the audio thread, sleeps
until a signal is caught, sets the two stop flags, joins the threads and destroys the
context. The steps of `main` and of the threads come in any order. Nothing is released
that a thread still uses, and the end takes a bounded number of steps.
-/

namespace AoipCore.Process

open ControlLoop AoipCore.Host AoipCore.Timer AoipCore.Ptp AoipCore.Sap AoipCore.Network
  AoipCore.Audio

set_option autoImplicit false

/-! ## `main` -/

/-- The calls of `main` in their order; the last three are those of
`aoip_context_destroy`. -/
inductive MainPc where
  | createNetwork
  | createAudio
  | sleeping
  | stopNetwork
  | stopAudio
  | joinNetwork
  | joinAudio
  | releaseAudio
  | releaseNetwork
  | closeCore
  | exited (status : Nat)
  deriving DecidableEq, Repr

inductive Part where
  | audioDevice
  | sockets
  | queue
  deriving DecidableEq, Repr

structure ProcessState where
  main : MainPc
  networkStopFlag : Bool
  audioStopFlag : Bool
  network : Option NetworkPc
  audio : Option AudioPc
  released : List Part
  deriving DecidableEq

def processStart : ProcessState := ⟨.createNetwork, false, false, none, none, []⟩

/-- In a step of `main`, `signalled` is what it reads from `caught_signal` and `ok` the
outcome of the thread call, if it makes one. -/
inductive Action where
  | main (signalled ok : Bool)
  | network (input : NetworkInput)
  | audio (input : AudioInput)

def ProcessState.networkReturned (s : ProcessState) : Bool :=
  match s.network with
  | some (.returned _) => true
  | _ => false

def ProcessState.audioReturned (s : ProcessState) : Bool :=
  match s.audio with
  | some (.returned _) => true
  | _ => false

def mainStep (s : ProcessState) (signalled ok : Bool) : ProcessState :=
  match s.main with
  | .createNetwork =>
      if ok then { s with main := .createAudio, network := some .starting }
      else { s with main := .exited 1 }
  | .createAudio =>
      if ok then { s with main := .sleeping, audio := some .opening }
      else { s with main := .exited 1 }
  | .sleeping => if signalled then { s with main := .stopNetwork } else s
  | .stopNetwork => { s with main := .stopAudio, networkStopFlag := true }
  | .stopAudio => { s with main := .joinNetwork, audioStopFlag := true }
  -- A join that does not fail waits for the thread.
  | .joinNetwork =>
      if !ok then { s with main := .exited 1 }
      else if s.networkReturned then { s with main := .joinAudio } else s
  | .joinAudio =>
      if !ok then { s with main := .exited 1 }
      else if s.audioReturned then { s with main := .releaseAudio } else s
  | .releaseAudio => { s with main := .releaseNetwork, released := s.released ++ [.audioDevice] }
  | .releaseNetwork => { s with main := .closeCore, released := s.released ++ [.sockets] }
  | .closeCore => { s with main := .exited 0, released := s.released ++ [.queue] }
  | .exited _ => s

def MainPc.isExited : MainPc → Bool
  | .exited _ => true
  | _ => false

/-- The threads end with the process. -/
def processStep (ctx : AoipCtx) (ops : AudioOps) (s : ProcessState) : Action → ProcessState
  | .main signalled ok => mainStep s signalled ok
  | .network input =>
      if s.main.isExited then s
      else { s with network := s.network.map (networkThreadStep ctx s.networkStopFlag input) }
  | .audio input =>
      if s.main.isExited then s
      else { s with audio := s.audio.map (audioThreadStep ctx.aoipMode ops s.audioStopFlag input) }

def processRun (ctx : AoipCtx) (ops : AudioOps) (s : ProcessState) (schedule : List Action) :
    ProcessState :=
  schedule.foldl (processStep ctx ops) s

/-! ## Every run of the process -/

def MainPc.stage : MainPc → Nat
  | .createNetwork => 0
  | .createAudio => 1
  | .sleeping => 2
  | .stopNetwork => 3
  | .stopAudio => 4
  | .joinNetwork => 5
  | .joinAudio => 6
  | .releaseAudio => 7
  | .releaseNetwork => 8
  | .closeCore => 9
  | .exited 0 => 10
  | .exited (_ + 1) => 0

def releasedBy : MainPc → List Part
  | .releaseNetwork => [.audioDevice]
  | .closeCore => [.audioDevice, .sockets]
  | .exited 0 => [.audioDevice, .sockets, .queue]
  | _ => []

inductive Milestone where
  | networkCreated
  | audioCreated
  | networkStopped
  | audioStopped
  | networkJoined
  | audioJoined

def Milestone.stage : Milestone → Nat
  | .networkCreated => 1
  | .audioCreated => 2
  | .networkStopped => 4
  | .audioStopped => 5
  | .networkJoined => 6
  | .audioJoined => 7

def Milestone.Holds (s : ProcessState) : Milestone → Prop
  | .networkCreated => s.network.isSome = true
  | .audioCreated => s.audio.isSome = true
  | .networkStopped => s.networkStopFlag = true
  | .audioStopped => s.audioStopFlag = true
  | .networkJoined => s.networkReturned = true
  | .audioJoined => s.audioReturned = true

structure Ordered (s : ProcessState) : Prop where
  behind : ∀ milestone : Milestone, milestone.stage ≤ s.main.stage → milestone.Holds s
  released : s.released = releasedBy s.main

/-- What a step of `main` can do. A call that changes nothing that the threads see takes
it onward by one; a milestone that lies there holds already. -/
inductive MainMove (s : ProcessState) : ProcessState → Prop where
  | stays : MainMove s s
  | fails (nothing : releasedBy s.main = []) : MainMove s { s with main := .exited 1 }
  | createsNetwork (now : s.main = .createNetwork) :
      MainMove s { s with main := .createAudio, network := some .starting }
  | createsAudio (now : s.main = .createAudio) :
      MainMove s { s with main := .sleeping, audio := some .opening }
  | stopsNetwork (now : s.main = .stopNetwork) :
      MainMove s { s with main := .stopAudio, networkStopFlag := true }
  | stopsAudio (now : s.main = .stopAudio) :
      MainMove s { s with main := .joinNetwork, audioStopFlag := true }
  | onward (main : MainPc) (parts : List Part) (stage : main.stage = s.main.stage + 1)
      (added : ∀ milestone : Milestone, milestone.stage = main.stage → milestone.Holds s)
      (released : s.released = releasedBy s.main → parts = releasedBy main) :
      MainMove s { s with main := main, released := parts }

theorem milestone_stages (milestone : Milestone) : milestone.stage ≠ 3 ∧ milestone.stage < 8 := by
  cases milestone <;> decide

theorem main_step_moves (s : ProcessState) (signalled ok : Bool) :
    MainMove s (mainStep s signalled ok) := by
  have unmarked : ∀ main : MainPc, main.stage = 3 ∨ 8 ≤ main.stage → ∀ milestone : Milestone,
      milestone.stage = main.stage → milestone.Holds s := by
    intro main between milestone now
    have stages := milestone_stages milestone
    omega
  unfold mainStep
  cases pc : s.main with
  | createNetwork =>
      dsimp only
      split_ifs
      · exact .createsNetwork pc
      · exact .fails (by rw [pc]; rfl)
  | createAudio =>
      dsimp only
      split_ifs
      · exact .createsAudio pc
      · exact .fails (by rw [pc]; rfl)
  | sleeping =>
      dsimp only
      split_ifs
      · refine .onward .stopNetwork s.released (by rw [pc]; rfl) (unmarked _ (.inl rfl)) ?_
        rw [pc]
        exact id
      · exact .stays
  | stopNetwork => exact .stopsNetwork pc
  | stopAudio => exact .stopsAudio pc
  | joinNetwork =>
      dsimp only
      split_ifs with failed returned
      · exact .fails (by rw [pc]; rfl)
      · refine .onward .joinAudio s.released (by rw [pc]; rfl) ?_ (by rw [pc]; exact id)
        intro milestone now
        cases milestone <;> first | exact returned | exact absurd now (by decide)
      · exact .stays
  | joinAudio =>
      dsimp only
      split_ifs with failed returned
      · exact .fails (by rw [pc]; rfl)
      · refine .onward .releaseAudio s.released (by rw [pc]; rfl) ?_ (by rw [pc]; exact id)
        intro milestone now
        cases milestone <;> first | exact returned | exact absurd now (by decide)
      · exact .stays
  | releaseAudio =>
      refine .onward .releaseNetwork _ (by rw [pc]; rfl) (unmarked _ (.inr (by decide))) ?_
      rw [pc]
      exact congrArg (· ++ [Part.audioDevice])
  | releaseNetwork =>
      refine .onward .closeCore _ (by rw [pc]; rfl) (unmarked _ (.inr (by decide))) ?_
      rw [pc]
      exact congrArg (· ++ [Part.sockets])
  | closeCore =>
      refine .onward (.exited 0) _ (by rw [pc]; rfl) (unmarked _ (.inr (by decide))) ?_
      rw [pc]
      exact congrArg (· ++ [Part.queue])
  | exited status => exact .stays

section

variable {ctx : AoipCtx} {ops : AudioOps} {s : ProcessState}

theorem network_returned_iff :
    s.networkReturned = true ↔ ∃ result, s.network = some (.returned result) := by
  unfold ProcessState.networkReturned
  split
  · next result found => exact ⟨fun _ => ⟨result, found⟩, fun _ => rfl⟩
  · next other =>
      constructor
      · intro absurdity
        cases absurdity
      · rintro ⟨result, found⟩
        exact absurd found (other result)

theorem audio_returned_iff :
    s.audioReturned = true ↔ ∃ result, s.audio = some (.returned result) := by
  unfold ProcessState.audioReturned
  split
  · next result found => exact ⟨fun _ => ⟨result, found⟩, fun _ => rfl⟩
  · next other =>
      constructor
      · intro absurdity
        cases absurdity
      · rintro ⟨result, found⟩
        exact absurd found (other result)

theorem network_returned_stays (input : NetworkInput) (returned : s.networkReturned = true) :
    (processStep ctx ops s (.network input)).networkReturned = true := by
  obtain ⟨result, found⟩ := network_returned_iff.mp returned
  apply network_returned_iff.mpr
  refine ⟨result, ?_⟩
  rw [processStep]
  split_ifs
  · exact found
  · rw [found]
    rfl

theorem audio_returned_stays (input : AudioInput) (returned : s.audioReturned = true) :
    (processStep ctx ops s (.audio input)).audioReturned = true := by
  obtain ⟨result, found⟩ := audio_returned_iff.mp returned
  apply audio_returned_iff.mpr
  refine ⟨result, ?_⟩
  rw [processStep]
  split_ifs
  · exact found
  · rw [found]
    rfl

theorem network_action_frame (ctx : AoipCtx) (ops : AudioOps) (s : ProcessState)
    (input : NetworkInput) :
    ∃ network, processStep ctx ops s (.network input) = { s with network := network } ∧
      network.isSome = s.network.isSome := by
  rw [processStep]
  split_ifs
  · exact ⟨s.network, rfl, rfl⟩
  · exact ⟨_, rfl, Option.isSome_map⟩

theorem audio_action_frame (ctx : AoipCtx) (ops : AudioOps) (s : ProcessState)
    (input : AudioInput) :
    ∃ audio, processStep ctx ops s (.audio input) = { s with audio := audio } ∧
      audio.isSome = s.audio.isSome := by
  rw [processStep]
  split_ifs
  · exact ⟨s.audio, rfl, rfl⟩
  · exact ⟨_, rfl, Option.isSome_map⟩

theorem network_action_ordered (ordered : Ordered s) (input : NetworkInput) :
    Ordered (processStep ctx ops s (.network input)) := by
  have returned : s.networkReturned = true →
      (processStep ctx ops s (.network input)).networkReturned = true :=
    network_returned_stays input
  obtain ⟨network, step, present⟩ := network_action_frame ctx ops s input
  rw [step] at returned ⊢
  refine ⟨?_, ordered.released⟩
  intro milestone passed
  have holds := ordered.behind milestone passed
  cases milestone with
  | networkCreated => exact present.trans holds
  | networkJoined => exact returned holds
  | audioCreated => exact holds
  | networkStopped => exact holds
  | audioStopped => exact holds
  | audioJoined => exact holds

theorem audio_action_ordered (ordered : Ordered s) (input : AudioInput) :
    Ordered (processStep ctx ops s (.audio input)) := by
  have returned : s.audioReturned = true →
      (processStep ctx ops s (.audio input)).audioReturned = true := audio_returned_stays input
  obtain ⟨audio, step, present⟩ := audio_action_frame ctx ops s input
  rw [step] at returned ⊢
  refine ⟨?_, ordered.released⟩
  intro milestone passed
  have holds := ordered.behind milestone passed
  cases milestone with
  | audioCreated => exact present.trans holds
  | audioJoined => exact returned holds
  | networkCreated => exact holds
  | networkStopped => exact holds
  | audioStopped => exact holds
  | networkJoined => exact holds

theorem ordered_advance (after : ProcessState) (ordered : Ordered s)
    (stage : after.main.stage = s.main.stage + 1)
    (kept : ∀ milestone : Milestone, milestone.stage ≤ s.main.stage → milestone.Holds s →
      milestone.Holds after)
    (added : ∀ milestone : Milestone, milestone.stage = after.main.stage → milestone.Holds after)
    (released : after.released = releasedBy after.main) : Ordered after := by
  refine ⟨?_, released⟩
  intro milestone passed
  rcases Nat.lt_or_eq_of_le passed with earlier | now
  · rw [stage] at earlier
    have reached := Nat.le_of_lt_succ earlier
    exact kept milestone reached (ordered.behind milestone reached)
  · exact added milestone now

theorem main_move_ordered {after : ProcessState} (ordered : Ordered s)
    (move : MainMove s after) : Ordered after := by
  have released := ordered.released
  cases move with
  | stays => exact ordered
  | fails nothing =>
      refine ⟨?_, released.trans nothing⟩
      intro milestone passed
      cases milestone <;> exact absurd passed (by simp [MainPc.stage, Milestone.stage])
  | createsNetwork now =>
      rw [now] at released
      refine ordered_advance _ ordered (by rw [now]; rfl) ?_ ?_ released
      · intro milestone passed
        rw [now] at passed
        cases milestone <;> exact absurd passed (by decide)
      · intro milestone reached
        cases milestone <;> first | rfl | cases reached
  | createsAudio now =>
      rw [now] at released
      refine ordered_advance _ ordered (by rw [now]; rfl) ?_ ?_ released
      · intro milestone passed holds
        rw [now] at passed
        cases milestone <;> first | exact holds | exact absurd passed (by decide)
      · intro milestone reached
        cases milestone <;> first | rfl | cases reached
  | stopsNetwork now =>
      rw [now] at released
      refine ordered_advance _ ordered (by rw [now]; rfl) ?_ ?_ released
      · intro milestone passed holds
        cases milestone <;> first | exact holds | rfl
      · intro milestone reached
        cases milestone <;> first | rfl | cases reached
  | stopsAudio now =>
      rw [now] at released
      refine ordered_advance _ ordered (by rw [now]; rfl) ?_ ?_ released
      · intro milestone passed holds
        cases milestone <;> first | exact holds | rfl
      · intro milestone reached
        cases milestone <;> first | rfl | cases reached
  | onward main parts stage added parted =>
      exact ordered_advance _ ordered stage (fun _ _ holds => holds) added (parted released)

theorem step_keeps_ordered (ordered : Ordered s) (action : Action) :
    Ordered (processStep ctx ops s action) := by
  cases action with
  | main signalled ok => exact main_move_ordered ordered (main_step_moves s signalled ok)
  | network input => exact network_action_ordered ordered input
  | audio input => exact audio_action_ordered ordered input

theorem run_keeps_ordered (ctx : AoipCtx) (ops : AudioOps) (schedule : List Action) :
    Ordered (processRun ctx ops processStart schedule) := by
  apply List.foldlRecOn (motive := Ordered) schedule _
  · refine ⟨?_, rfl⟩
    intro milestone passed
    cases milestone <;> exact absurd passed (by decide)
  · intro s ordered action _
    exact step_keeps_ordered ordered action

end

/-! A process that is interrupted while its network thread waits for an Announce. -/

def sampleInput : NetworkInput where
  begin := 1000
  now := 1000
  general := .again
  sender := 0
  poll := quietPoll 1000
  audio := id
  rtpRecv := .again
  slotTime := 1000
  rtpSend := .sent
  sapSend := .sent
  time := 1311738121

def sampleSignal : List Action :=
  [.main false true, .main false true, .network sampleInput, .audio ⟨1000, 0⟩, .main true true,
    .main false true, .main false true]

def sampleThreads : List Action :=
  List.replicate 6 (.network sampleInput) ++ List.replicate 3 (.audio ⟨1000, 0⟩)

def sampleLast : List Action := List.replicate 5 (.main false true)

def sampleProcess (schedule : List Action) : ProcessState :=
  processRun (sampleAoipCtx aoipModePlayback) ⟨true, false⟩ processStart schedule

def NetworkPc.rank : NetworkPc → Nat
  | .starting => 6
  | .announcing _ _ => 5
  | .syncing _ => 4
  | .opening _ => 3
  | .serving _ _ => 2
  | .closing _ _ => 1
  | .returned _ => 0

def AudioPc.rank : AudioPc → Nat
  | .opening => 3
  | .polling _ _ => 2
  | .closing _ => 1
  | .returned _ => 0

/-- Once its flag is set, every step brings the thread nearer to its end, whatever it
receives and whatever fails. -/
theorem stopped_network_step (ctx : AoipCtx) (input : NetworkInput) (pc : NetworkPc) :
    (networkThreadStep ctx true input pc).rank ≤ pc.rank - 1 := by
  cases pc with
  | starting =>
      rw [networkThreadStep]
      split_ifs <;> simp [NetworkPc.rank]
  | announcing timer ptpc => exact Nat.le_refl 4
  | syncing s =>
      have left : syncLoopPass s (input.syncPass true) = .leave .stopped s := rfl
      rw [networkThreadStep, left, afterSync]
      split_ifs <;> simp [NetworkPc.rank]
  | opening ptpc =>
      rw [networkThreadStep]
      cases aoipBuildSapMsg ctx ptpc sapFlagsAnnounce input.time with
      | none => simp [afterBuild, NetworkPc.rank]
      | some msg =>
          rw [afterBuild]
          split_ifs <;> simp [NetworkPc.rank]
  | serving msg s => exact Nat.le_refl 1
  | closing exit s => exact Nat.le_refl 0
  | returned result => exact Nat.le_refl 0

theorem stopped_audio_step (aoipMode : UInt8) (ops : AudioOps) (input : AudioInput) (pc : AudioPc) :
    (audioThreadStep aoipMode ops true input pc).rank ≤ pc.rank - 1 := by
  cases pc with
  | opening =>
      rw [audioThreadStep]
      split_ifs <;> simp [AudioPc.rank]
  | polling callback s => exact Nat.le_refl 1
  | closing calls => exact Nat.le_refl 0
  | returned result => exact Nat.le_refl 0

def ProcessState.networkRank (s : ProcessState) : Nat := (s.network.map NetworkPc.rank).getD 0

def ProcessState.audioRank (s : ProcessState) : Nat := (s.audio.map AudioPc.rank).getD 0

def Action.isMain : Action → Bool
  | .main _ _ => true
  | _ => false

def Action.isNetwork : Action → Bool
  | .network _ => true
  | _ => false

def Action.isAudio : Action → Bool
  | .audio _ => true
  | _ => false

def Action.Succeeds : Action → Prop
  | .main _ ok => ok = true
  | _ => True

section

variable {ctx : AoipCtx} {ops : AudioOps} {s : ProcessState}

/-- `main` has come at least to the given call and has not given up. -/
def Behind (stage : Nat) (s : ProcessState) : Prop := Ordered s ∧ stage ≤ s.main.stage

theorem network_rank_zero (ending : Behind 4 s) (zero : s.networkRank = 0) :
    s.networkReturned = true := by
  obtain ⟨pc, found⟩ := Option.isSome_iff_exists.mp
    (ending.1.behind .networkCreated (Nat.le_trans (by decide) ending.2))
  rw [ProcessState.networkRank, found] at zero
  apply network_returned_iff.mpr
  cases pc with
  | returned result => exact ⟨result, found⟩
  | starting => cases zero
  | announcing timer ptpc => cases zero
  | syncing s => cases zero
  | opening ptpc => cases zero
  | serving msg s => cases zero
  | closing exit s => cases zero

theorem audio_rank_zero (ending : Behind 5 s) (zero : s.audioRank = 0) :
    s.audioReturned = true := by
  obtain ⟨pc, found⟩ := Option.isSome_iff_exists.mp
    (ending.1.behind .audioCreated (Nat.le_trans (by decide) ending.2))
  rw [ProcessState.audioRank, found] at zero
  apply audio_returned_iff.mpr
  cases pc with
  | returned result => exact ⟨result, found⟩
  | opening => cases zero
  | polling callback s => cases zero
  | closing calls => cases zero

/-- Behind `network_cb_stop`, `main` either waits or goes on by one call. -/
theorem main_step_late (late : 4 ≤ s.main.stage) (signalled : Bool) :
    s.main.stage ≤ (mainStep s signalled true).main.stage ∧
      (s.networkReturned = true → s.audioReturned = true →
        10 - (mainStep s signalled true).main.stage ≤ 10 - s.main.stage - 1) := by
  unfold mainStep
  cases pc : s.main with
  | createNetwork => exact absurd late (by rw [pc]; decide)
  | createAudio => exact absurd late (by rw [pc]; decide)
  | sleeping => exact absurd late (by rw [pc]; decide)
  | stopNetwork => exact absurd late (by rw [pc]; decide)
  | stopAudio => simp [MainPc.stage]
  | joinNetwork =>
      simp only [Bool.not_true, Bool.false_eq_true, if_false]
      split_ifs with returned
      · simp [MainPc.stage]
      · simp [pc, returned, MainPc.stage]
  | joinAudio =>
      simp only [Bool.not_true, Bool.false_eq_true, if_false]
      split_ifs with returned
      · simp [MainPc.stage]
      · simp [pc, returned, MainPc.stage]
  | releaseAudio => simp [MainPc.stage]
  | releaseNetwork => simp [MainPc.stage]
  | closeCore => simp [MainPc.stage]
  | exited status =>
      rw [pc] at late
      cases status with
      | zero => simp [pc, MainPc.stage]
      | succ code => exact absurd late (by simp [MainPc.stage])

theorem late_move_threads {after : ProcessState} (late : 4 ≤ s.main.stage)
    (move : MainMove s after) : after.network = s.network ∧ after.audio = s.audio := by
  cases move with
  | createsNetwork now => exact absurd late (by rw [now]; decide)
  | createsAudio now => exact absurd late (by rw [now]; decide)
  | stays => exact ⟨rfl, rfl⟩
  | fails nothing => exact ⟨rfl, rfl⟩
  | stopsNetwork now => exact ⟨rfl, rfl⟩
  | stopsAudio now => exact ⟨rfl, rfl⟩
  | onward main parts stage added released => exact ⟨rfl, rfl⟩

theorem step_keeps_behind {stage : Nat} (stopped : 4 ≤ stage) (action : Action)
    (succeeds : action.Succeeds) (behind : Behind stage s) :
    Behind stage (processStep ctx ops s action) := by
  refine ⟨step_keeps_ordered behind.1 action, ?_⟩
  cases action with
  | main signalled ok =>
      have good : ok = true := succeeds
      have late := Nat.le_trans stopped behind.2
      rw [good]
      exact Nat.le_trans behind.2 (main_step_late late signalled).1
  | network input =>
      obtain ⟨network, step, -⟩ := network_action_frame ctx ops s input
      rw [step]
      exact behind.2
  | audio input =>
      obtain ⟨audio, step, -⟩ := audio_action_frame ctx ops s input
      rw [step]
      exact behind.2

theorem exited_stage (late : 4 ≤ s.main.stage) (exited : s.main.isExited = true) :
    s.main.stage = 10 := by
  generalize s.main = main at *
  cases main with
  | exited status =>
      cases status with
      | zero => rfl
      | succ code => exact absurd late (by simp [MainPc.stage])
  | _ => cases exited

theorem last_stage {main : MainPc} (last : 10 ≤ main.stage) : main = .exited 0 := by
  cases main with
  | exited status =>
      cases status with
      | zero => rfl
      | succ code => exact absurd last (by simp [MainPc.stage])
  | _ => exact absurd last (by decide)

theorem network_step_lowers (ending : Behind 4 s) (input : NetworkInput) :
    (processStep ctx ops s (.network input)).networkRank ≤ s.networkRank - 1 := by
  rw [processStep]
  split_ifs with exited
  · have joined := ending.1.behind .networkJoined (by rw [exited_stage ending.2 exited]; decide)
    obtain ⟨result, found⟩ := network_returned_iff.mp joined
    simp [ProcessState.networkRank, found, NetworkPc.rank]
  · have flag : s.networkStopFlag = true :=
      ending.1.behind .networkStopped ending.2
    unfold ProcessState.networkRank
    dsimp only
    cases s.network with
    | none => exact Nat.zero_le _
    | some pc =>
        rw [flag]
        exact stopped_network_step ctx input pc

theorem audio_step_lowers (ending : Behind 5 s) (input : AudioInput) :
    (processStep ctx ops s (.audio input)).audioRank ≤ s.audioRank - 1 := by
  rw [processStep]
  split_ifs with exited
  · have late := Nat.le_of_succ_le ending.2
    have joined := ending.1.behind .audioJoined (by rw [exited_stage late exited]; decide)
    obtain ⟨result, found⟩ := audio_returned_iff.mp joined
    simp [ProcessState.audioRank, found, AudioPc.rank]
  · have flag : s.audioStopFlag = true := ending.1.behind .audioStopped ending.2
    unfold ProcessState.audioRank
    dsimp only
    cases s.audio with
    | none => exact Nat.zero_le _
    | some pc =>
        rw [flag]
        exact stopped_audio_step ctx.aoipMode ops input pc

theorem network_counts : Countdown.Counts (processStep ctx ops) Action.Succeeds (Behind 4)
    Action.isNetwork ProcessState.networkRank := by
  constructor
  · intro s action succeeds ending
    exact step_keeps_behind (Nat.le_refl 4) action succeeds ending
  · intro s action _ ending
    cases action with
    | main signalled ok =>
        have same := (late_move_threads ending.2 (main_step_moves s signalled ok)).1
        rw [ProcessState.networkRank, processStep, same]
        exact Nat.le_refl _
    | network input => exact Nat.le_trans (network_step_lowers ending input) (Nat.sub_le _ 1)
    | audio input =>
        obtain ⟨audio, step, -⟩ := audio_action_frame ctx ops s input
        rw [step]
        exact Nat.le_refl _
  · intro s action _ ending counted
    cases action with
    | main signalled ok => cases counted
    | network input => exact network_step_lowers ending input
    | audio input => cases counted

theorem audio_counts : Countdown.Counts (processStep ctx ops) Action.Succeeds (Behind 5)
    Action.isAudio ProcessState.audioRank := by
  constructor
  · intro s action succeeds ending
    exact step_keeps_behind (by decide) action succeeds ending
  · intro s action _ ending
    cases action with
    | main signalled ok =>
        have late := Nat.le_of_succ_le ending.2
        have same := (late_move_threads late (main_step_moves s signalled ok)).2
        rw [ProcessState.audioRank, processStep, same]
        exact Nat.le_refl _
    | network input =>
        obtain ⟨network, step, -⟩ := network_action_frame ctx ops s input
        rw [step]
        exact Nat.le_refl _
    | audio input => exact Nat.le_trans (audio_step_lowers ending input) (Nat.sub_le _ 1)
  · intro s action _ ending counted
    cases action with
    | main signalled ok => cases counted
    | network input => cases counted
    | audio input => exact audio_step_lowers ending input

def Alone (s : ProcessState) : Prop :=
  Behind 4 s ∧ s.networkReturned = true ∧ s.audioReturned = true

theorem step_keeps_alone (action : Action) (succeeds : action.Succeeds) (alone : Alone s) :
    Alone (processStep ctx ops s action) := by
  obtain ⟨ending, network, audio⟩ := alone
  refine ⟨step_keeps_behind (Nat.le_refl 4) action succeeds ending, ?_⟩
  cases action with
  | main signalled ok =>
      obtain ⟨sameNetwork, sameAudio⟩ := late_move_threads ending.2 (main_step_moves s signalled ok)
      rw [processStep]
      unfold ProcessState.networkReturned ProcessState.audioReturned at *
      rw [sameNetwork, sameAudio]
      exact ⟨network, audio⟩
  | network input =>
      refine ⟨network_returned_stays input network, ?_⟩
      obtain ⟨moved, step, -⟩ := network_action_frame ctx ops s input
      rw [step]
      exact audio
  | audio input =>
      refine ⟨?_, audio_returned_stays input audio⟩
      obtain ⟨moved, step, -⟩ := audio_action_frame ctx ops s input
      rw [step]
      exact network

theorem main_counts : Countdown.Counts (processStep ctx ops) Action.Succeeds Alone
    Action.isMain (fun s => 10 - s.main.stage) := by
  constructor
  · intro s action succeeds alone
    exact step_keeps_alone action succeeds alone
  · intro s action succeeds alone
    cases action with
    | main signalled ok =>
        have good : ok = true := succeeds
        rw [good]
        have onward := (main_step_late alone.1.2 signalled).1
        exact Nat.sub_le_sub_left onward 10
    | network input =>
        obtain ⟨network, step, -⟩ := network_action_frame ctx ops s input
        rw [step]
    | audio input =>
        obtain ⟨audio, step, -⟩ := audio_action_frame ctx ops s input
        rw [step]
  · intro s action succeeds alone counted
    cases action with
    | main signalled ok =>
        have good : ok = true := succeeds
        rw [good]
        exact (main_step_late alone.1.2 signalled).2 alone.2.1 alone.2.2
    | network input => cases counted
    | audio input => cases counted

theorem network_rank_bound (s : ProcessState) : s.networkRank ≤ 6 := by
  unfold ProcessState.networkRank
  cases s.network with
  | none => exact Nat.zero_le 6
  | some pc => cases pc <;> simp [NetworkPc.rank]

theorem audio_rank_bound (s : ProcessState) : s.audioRank ≤ 3 := by
  unfold ProcessState.audioRank
  cases s.audio with
  | none => exact Nat.zero_le 3
  | some pc => cases pc <;> simp [AudioPc.rank]

/-- Once `main` has come to the first join, the end takes at most six more steps of the
network thread, three of the audio thread and five of `main`, whatever is received and
whichever sends and callbacks fail: then the process has released everything and exits
with success. -/
theorem shutdown_completes (ctx : AoipCtx) (ops : AudioOps) (before threads last : List Action)
    (stopping : (processRun ctx ops processStart before).main = .joinNetwork)
    (joins : ∀ action ∈ threads ++ last, action.Succeeds)
    (network : 6 ≤ threads.countP Action.isNetwork) (audio : 3 ≤ threads.countP Action.isAudio)
    (main : 5 ≤ last.countP Action.isMain) :
    (processRun ctx ops processStart (before ++ threads ++ last)).main = .exited 0 ∧
      (processRun ctx ops processStart (before ++ threads ++ last)).released =
        [.audioDevice, .sockets, .queue] := by
  have ordered := run_keeps_ordered ctx ops before
  have split : processRun ctx ops processStart (before ++ threads ++ last) =
      last.foldl (processStep ctx ops) (threads.foldl (processStep ctx ops)
        (processRun ctx ops processStart before)) := by
    rw [processRun, List.foldl_append, List.foldl_append]
    rfl
  rw [split]
  generalize processRun ctx ops processStart before = s at *
  have stopped : Behind 5 s := ⟨ordered, by rw [stopping]; decide⟩
  have ending : Behind 4 s := ⟨ordered, Nat.le_of_succ_le stopped.2⟩
  have first : ∀ action ∈ threads, action.Succeeds := fun action member =>
    joins action (List.mem_append_left last member)
  obtain ⟨onward, networkZero⟩ := Countdown.run_reaches_zero network_counts threads s ending first
    (Nat.le_trans (network_rank_bound s) network)
  obtain ⟨further, audioZero⟩ := Countdown.run_reaches_zero audio_counts threads s stopped first
    (Nat.le_trans (audio_rank_bound s) audio)
  generalize threads.foldl (processStep ctx ops) s = joined at *
  have alone : Alone joined :=
    ⟨onward, network_rank_zero onward networkZero, audio_rank_zero further audioZero⟩
  obtain ⟨⟨⟨still, late⟩, -⟩, zero⟩ := Countdown.run_reaches_zero main_counts last joined alone
    (fun action member => joins action (List.mem_append_right threads member))
    (by have far := further.2; omega)
  generalize last.foldl (processStep ctx ops) joined = final at *
  have exited : final.main = .exited 0 := last_stage (by omega)
  refine ⟨exited, ?_⟩
  rw [still.released, exited]
  rfl

theorem sample_threads_succeed : ∀ action ∈ sampleThreads, action.Succeeds := by
  intro action member
  simp only [sampleThreads, List.mem_append, List.mem_replicate] at member
  rcases member with ⟨-, rfl⟩ | ⟨-, rfl⟩
  · trivial
  · trivial

theorem sample_shutdown_completes :
    (sampleProcess (sampleSignal ++ sampleThreads ++ sampleLast)).main = .exited 0 := by
  have joins : ∀ action ∈ sampleThreads ++ sampleLast, action.Succeeds := by
    intro action member
    rcases List.mem_append.mp member with thread | last
    · exact sample_threads_succeed action thread
    · rw [List.eq_of_mem_replicate last]
      rfl
  exact (shutdown_completes (sampleAoipCtx aoipModePlayback) ⟨true, false⟩ sampleSignal
    sampleThreads sampleLast (by decide +kernel) joins (by decide) (by decide) (by decide)).1

end

/-! ## A signal while the thread waits for an Announce -/

section

variable {ctx : AoipCtx} {ops : AudioOps}

end

end AoipCore.Process
