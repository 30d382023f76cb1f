import AoipCore.Network.Loop

/-!
# The audio thread (`audio_cb_run`)

The thread opens the device, calls one callback of the program every millisecond
until it is told to stop, and closes the device. The names of the two loops are
those of the audio side: in playback mode the network's packets are recorded with
`ao_read`, in record mode the packets to be sent come from `ao_write`. What the
callbacks return is up to the program; the calls are logged.
-/

namespace AoipCore.Audio

open ControlLoop AoipCore.Timer AoipCore.Network

set_option autoImplicit false

inductive AudioCall where
  | aoOpen
  | aoRead
  | aoWrite
  | aoClose
  deriving DecidableEq, Repr

/-- `ret` is what the callback returns if this pass calls it. -/
structure AudioPass where
  stop : Bool
  now : NsTime
  ret : Int32
  deriving DecidableEq, Repr

structure AudioLoopState where
  audioTimer : NsTime
  calls : List AudioCall
  deriving DecidableEq, Repr

/-- The body of both loops, which differ in the callback. -/
def audioPass (callback : AudioCall) : Body AudioLoopState AudioPass Int32 := fun s pass =>
  if pass.stop then .leave 0 s
  else if nsSub pass.now s.audioTimer ≥ nsMsec then
    let calls := s.calls ++ [callback]
    if pass.ret < 0 then .leave (-1) { s with calls := calls }
    else .next { audioTimer := pass.now, calls := calls }
  else .next s

def audioRecordLoop (start : AudioLoopState) (passes : List AudioPass) :
    Flow AudioLoopState Int32 :=
  run (audioPass .aoRead) start passes

def audioPlaybackLoop (start : AudioLoopState) (passes : List AudioPass) :
    Flow AudioLoopState Int32 :=
  run (audioPass .aoWrite) start passes

/-- Which of the two callbacks that may be `NULL` are set. -/
structure AudioOps where
  aoRead : Bool
  aoWrite : Bool
  deriving DecidableEq, Repr

structure AudioRun where
  openRet : Int32
  start : NsTime
  passes : List AudioPass
  closeRet : Int32
  deriving DecidableEq, Repr

structure AudioResult where
  ret : Int32
  calls : List AudioCall
  deriving DecidableEq, Repr

def closeDevice (env : AudioRun) (calls : List AudioCall) : AudioResult where
  ret := if env.closeRet < 0 then env.closeRet else 0
  calls := calls ++ [.aoClose]

/-- What `audio_cb_run` does behind a loop; none while the loop goes on. -/
def afterLoop (env : AudioRun) : Flow AudioLoopState Int32 → Option AudioResult
  | .next _ => none
  | .leave ret s => some (if ret < 0 then ⟨ret, s.calls⟩ else closeDevice env s.calls)

def audioCbRun (aoipMode : UInt8) (ops : AudioOps) (env : AudioRun) : Option AudioResult :=
  if env.openRet < 0 then some ⟨env.openRet, [.aoOpen]⟩
  else if aoipMode = aoipModeNone then some (closeDevice env [.aoOpen])
  else if aoipMode = aoipModePlayback ∧ ops.aoRead = true then
    afterLoop env (audioRecordLoop ⟨env.start, [.aoOpen]⟩ env.passes)
  else if aoipMode = aoipModeRecord ∧ ops.aoWrite = true then
    afterLoop env (audioPlaybackLoop ⟨env.start, [.aoOpen]⟩ env.passes)
  else some ⟨-1, [.aoOpen]⟩

/-! ## A loop and its callback -/

/-- The results of the callback until `audio_stop_flag` is set, if none of them
ends the loop. -/
def dueResults (timer : NsTime) : List AudioPass → List Int32
  | [] => []
  | pass :: rest =>
      if pass.stop then []
      else if nsSub pass.now timer ≥ nsMsec then pass.ret :: dueResults pass.now rest
      else dueResults timer rest

/-- A loop that ends has called its callback and nothing else, and fails exactly
if the callback does. -/
theorem audio_loop_leaves {callback : AudioCall} {s final : AudioLoopState}
    {passes : List AudioPass} {ret : Int32}
    (left : run (audioPass callback) s passes = .leave ret final) :
    (∃ count, final.calls = s.calls ++ List.replicate count callback) ∧
      (ret < 0 ↔ ∃ result ∈ dueResults s.audioTimer passes, result < 0) := by
  induction passes generalizing s with
  | nil => simp [run] at left
  | cons pass rest ih =>
      rw [run, audioPass] at left
      rw [dueResults]
      split_ifs at left ⊢ with stop due failed
      · cases left
        exact ⟨⟨0, by simp⟩, by simp⟩
      · cases left
        constructor
        · exact ⟨1, rfl⟩
        · exact ⟨fun _ => ⟨pass.ret, List.mem_cons_self, failed⟩, fun _ => by decide⟩
      · obtain ⟨⟨count, called⟩, fails⟩ := ih left
        constructor
        · exact ⟨count + 1, by rw [called, List.append_assoc, List.replicate_succ]; rfl⟩
        · rw [fails]
          simp [failed]
      · exact ih left

/-! ## Open and close -/

/-- A device that was opened is closed once, last of all; one that was not is left
alone. -/
structure Paired (openRet : Int32) (calls : List AudioCall) : Prop where
  opened : ¬openRet < 0 →
    ∃ between, calls = .aoOpen :: (between ++ [.aoClose]) ∧
      .aoOpen ∉ between ∧ .aoClose ∉ between
  refused : openRet < 0 → .aoClose ∉ calls

theorem paired_closed {env : AudioRun} (opened : ¬env.openRet < 0) (callback : AudioCall)
    (loops : callback = .aoRead ∨ callback = .aoWrite) (count : Nat) :
    Paired env.openRet (closeDevice env (.aoOpen :: List.replicate count callback)).calls := by
  have absent : ∀ other ∈ List.replicate count callback,
      other = .aoRead ∨ other = .aoWrite := by
    intro other member
    rw [List.eq_of_mem_replicate member]
    exact loops
  constructor
  · intro _
    refine ⟨List.replicate count callback, rfl, ?_, ?_⟩
    · intro member
      simpa using absent _ member
    · intro member
      simpa using absent _ member
  · intro refused
    exact absurd refused opened

theorem not_paired_unclosed {openRet : Int32} {calls : List AudioCall} (opened : ¬openRet < 0)
    (unclosed : .aoClose ∉ calls) : ¬Paired openRet calls := by
  intro paired
  obtain ⟨between, closed, -⟩ := paired.opened opened
  apply unclosed
  rw [closed]
  simp

theorem after_loop_paired_iff {callback : AudioCall} {env : AudioRun} {result : AudioResult}
    (opened : ¬env.openRet < 0) (loops : callback = .aoRead ∨ callback = .aoWrite)
    (finished : afterLoop env (run (audioPass callback) ⟨env.start, [.aoOpen]⟩ env.passes) =
      some result) :
    Paired env.openRet result.calls ↔ ∀ ret ∈ dueResults env.start env.passes, ¬ret < 0 := by
  cases outcome : run (audioPass callback) ⟨env.start, [.aoOpen]⟩ env.passes with
  | next s => simp [outcome, afterLoop] at finished
  | leave ret final =>
      obtain ⟨⟨count, called⟩, fails⟩ := audio_loop_leaves outcome
      rw [outcome, afterLoop] at finished
      obtain rfl := Option.some.inj finished
      split_ifs with failed
      · have unclosed : AudioCall.aoClose ∉ final.calls := by
          rw [called]
          intro member
          rcases List.mem_cons.mp member with impossible | later
          · cases impossible
          · rw [← List.eq_of_mem_replicate later] at loops
            simp at loops
        obtain ⟨bad, due, negative⟩ := fails.mp failed
        constructor
        · intro paired
          exact absurd paired (not_paired_unclosed opened unclosed)
        · intro good
          exact absurd negative (good bad due)
      · rw [called]
        constructor
        · intro _ good due negative
          exact failed (fails.mpr ⟨good, due, negative⟩)
        · intro _
          exact paired_closed opened callback loops count

/-- The mode and the callbacks lead to a close: the mode needs no callback, or it
has one that does not fail. -/
def ReachesClose (aoipMode : UInt8) (ops : AudioOps) (env : AudioRun) : Prop :=
  aoipMode = aoipModeNone ∨
    (((aoipMode = aoipModePlayback ∧ ops.aoRead = true) ∨
        (aoipMode = aoipModeRecord ∧ ops.aoWrite = true)) ∧
      ∀ ret ∈ dueResults env.start env.passes, ¬ret < 0)

theorem device_paired_iff {aoipMode : UInt8} {ops : AudioOps} {env : AudioRun}
    {result : AudioResult} (finished : audioCbRun aoipMode ops env = some result) :
    Paired env.openRet result.calls ↔ env.openRet < 0 ∨ ReachesClose aoipMode ops env := by
  unfold audioCbRun at finished
  unfold ReachesClose
  split_ifs at finished with refused unused reading writing
  · obtain rfl := Option.some.inj finished
    constructor
    · intro _
      exact .inl refused
    · intro _
      exact ⟨fun opened => absurd refused opened, fun _ => by simp⟩
  · obtain rfl := Option.some.inj finished
    constructor
    · intro _
      exact .inr (.inl unused)
    · intro _
      exact paired_closed refused .aoRead (.inl rfl) 0
  · rw [after_loop_paired_iff refused (.inl rfl) finished, or_iff_right refused,
      or_iff_right unused, and_iff_right (.inl reading)]
  · rw [after_loop_paired_iff refused (.inr rfl) finished, or_iff_right refused,
      or_iff_right unused, and_iff_right (.inr writing)]
  · obtain rfl := Option.some.inj finished
    have unclosed : ¬Paired env.openRet [.aoOpen] := not_paired_unclosed refused (by simp)
    constructor
    · intro paired
      exact absurd paired unclosed
    · intro condition
      rcases condition with failed | none | ⟨mode, -⟩
      · exact absurd failed refused
      · exact absurd none unused
      · exact absurd mode (not_or.mpr ⟨reading, writing⟩)

/-- One pass that calls `ao_read` after a millisecond, and one that sees
`audio_stop_flag`. -/
def sampleAudioRun (ret : Int32) : AudioRun where
  openRet := 0
  start := 1000
  passes := [⟨false, 1001000, ret⟩, ⟨true, 2001000, 0⟩]
  closeRet := 0

theorem sample_device_paired :
    ∃ result, audioCbRun aoipModePlayback ⟨true, false⟩ (sampleAudioRun 0) = some result ∧
      Paired 0 result.calls := by
  have finished : audioCbRun aoipModePlayback ⟨true, false⟩ (sampleAudioRun 0) =
      some ⟨0, [.aoOpen, .aoRead, .aoClose]⟩ := by
    decide
  have due : dueResults (sampleAudioRun 0).start (sampleAudioRun 0).passes = [0] := by
    decide
  have quiet : ReachesClose aoipModePlayback ⟨true, false⟩ (sampleAudioRun 0) := by
    refine .inr ⟨.inl ⟨rfl, rfl⟩, ?_⟩
    intro ret member
    rw [due] at member
    rw [List.mem_singleton.mp member]
    decide
  exact ⟨_, finished, (device_paired_iff finished).mpr (.inr quiet)⟩

/-- A read that fails ends the thread with the device open. -/
theorem sample_device_left_open :
    audioCbRun aoipModePlayback ⟨true, false⟩ (sampleAudioRun (-1)) =
        some ⟨-1, [.aoOpen, .aoRead]⟩ ∧
      ¬Paired (sampleAudioRun (-1)).openRet [.aoOpen, .aoRead] :=
  ⟨by decide, not_paired_unclosed (by decide) (by decide)⟩

end AoipCore.Audio
