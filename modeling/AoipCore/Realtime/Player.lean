import AoipCore.Library.PacedQueue
import AoipCore.Pacing
import AoipCore.System

/-!
# `rtpdump` in real time

So far a schedule says only who moves next. Here every step has a time, and the audio
thread is the loop that calls `rtpdump_ao_read` when a millisecond has passed. The
program takes one packet a millisecond at best, so what it drops depends on the
source: one that is a little too fast overflows the queue in the long run, one that is
slow enough for the loop never does.
-/

namespace AoipCore.Realtime

open PacedQueue Linearise AoipCore.Host AoipCore.Timer AoipCore.Queue AoipCore.Playback
  AoipCore.Record AoipCore.Wav AoipCore.Rtpdump AoipCore.Dump AoipCore.System AoipCore.Pacing

set_option autoImplicit false

/-- Both threads of the program. `audioTimer` belongs to `audio_record_loop`, which
has left once `ended` is set. The rest are logs: the calls of `rtpdump_ao_read`, the
datagrams received and dropped, and the times of the last step, of the last datagram
and of the last reading of the clock in the loop. -/
structure PlayerState where
  dump : DumpState
  audioTimer : NsTime
  ended : Bool
  calls : Nat
  received : Nat
  dropped : Nat
  now : NsTime
  arrived : NsTime
  polled : NsTime

def playerStart (queue : AoipQueue) (audio : AudioCtx) (now : NsTime) : PlayerState where
  dump := dumpStart queue audio
  audioTimer := now
  ended := false
  calls := 0
  received := 0
  dropped := 0
  now := now
  arrived := now
  polled := now

inductive PlayerAction where
  | network (event : RecvResult)
  | audio (stop : Bool) (outside : UInt8)
  deriving DecidableEq, Repr

def arrives (rtpPacketLength : UInt16) : NetworkPc → RecvResult → Bool
  | .idle, .datagram bytes => 0 < (bytes.take rtpPacketLength.toNat).length
  | _, _ => false

/-- The datagram in hand finds the queue full in this step. -/
def drops (s : PlaybackState) : Bool :=
  match s.network with
  | .received _ _ => queueFull s.queue
  | _ => false

/-- The step ends a call that has failed, and with it the loop. -/
def fails : DumpPc → Bool
  | .finished ret => ret < 0
  | _ => false

/-- A step at a time. Between two calls the audio thread tests the flag, reads the
clock and begins the next call if it is due. -/
def playerStep (accepts : Nat → Option Nat) (rtpPacketLength : UInt16) (s : PlayerState) :
    NsTime × PlayerAction → PlayerState
  | (time, .network event) =>
      let arriving := arrives rtpPacketLength s.dump.playback.network event
      { s with
        dump := dumpAction accepts rtpPacketLength s.dump (.network event time)
        received := s.received + arriving.toNat
        dropped := s.dropped + (drops s.dump.playback).toNat
        arrived := if arriving then time else s.arrived
        now := time }
  | (time, .audio stop outside) =>
      if s.ended then { s with now := time }
      else if s.dump.dump = .idle then
        if stop then { s with ended := true, now := time }
        else if nsSub time s.audioTimer ≥ nsMsec then
          { s with
            dump := dumpAction accepts rtpPacketLength s.dump (.dump outside)
            audioTimer := time
            calls := s.calls + 1
            polled := time
            now := time }
        else { s with polled := time, now := time }
      else
        { s with
          dump := dumpAction accepts rtpPacketLength s.dump (.dump outside)
          ended := fails s.dump.dump
          now := time }

def playerRun (accepts : Nat → Option Nat) (rtpPacketLength : UInt16) (s : PlayerState)
    (schedule : List (NsTime × PlayerAction)) : PlayerState :=
  schedule.foldl (playerStep accepts rtpPacketLength) s

/-! ## Every datagram and every call is accounted for -/

theorem network_step_accounts (rtpPacketLength : UInt16) (s : PlaybackState) (event : RecvResult)
    (reading : NsTime) :
    let after := networkStep rtpPacketLength s event reading
    after.seen = s.seen ∧
      after.accepted.length + (inHand after.network).length + (drops s).toNat =
        s.accepted.length + (inHand s.network).length +
          (arrives rtpPacketLength s.network event).toNat := by
  unfold networkStep drops
  cases pc : s.network with
  | idle =>
      cases event with
      | datagram bytes =>
          dsimp only
          split_ifs with some
          · refine ⟨rfl, ?_⟩
            rw [arrives, decide_eq_true some]
            rfl
          · refine ⟨rfl, ?_⟩
            rw [arrives, decide_eq_false some, pc]
      | again => exact ⟨rfl, by rw [pc]; rfl⟩
      | failed => exact ⟨rfl, by rw [pc]; rfl⟩
  | received slot datagram =>
      dsimp only
      cases full : queueFull s.queue with
      | true => exact ⟨rfl, rfl⟩
      | false =>
          refine ⟨rfl, ?_⟩
          change (s.accepted ++ [datagram]).length + 0 + 0 = s.accepted.length + 1 + 0
          rw [List.length_append, List.length_singleton]
  | _ => exact ⟨rfl, rfl⟩

section

variable {accepts : Nat → Option Nat} {rtpPacketLength : UInt16}

theorem step_stays_explained (small : rtpPacketLength.toNat ≤ 65532) {s : DumpState}
    (explained : ∃ r, Explained accepts rtpPacketLength s r) (action : DumpAction) :
    ∃ r, Explained accepts rtpPacketLength (dumpAction accepts rtpPacketLength s action) r := by
  obtain ⟨r, explained⟩ := explained
  have linearises : Linearises (dumpAction accepts rtpPacketLength) recorderEvent
      (recorderNext accepts rtpPacketLength) (Explained accepts rtpPacketLength) :=
    dump_steps_linearise small
  cases visible : recorderEvent s action with
  | none => exact ⟨r, linearises.silent s r action explained visible⟩
  | some happened =>
      obtain ⟨reached, -, onward⟩ := linearises.visible s r action happened explained visible
      exact ⟨reached, onward⟩

/-- A call takes one packet, when it ends; it has found one if it has not ended at once. -/
theorem dump_step_takes {s : DumpState} (explained : ∃ r, Explained accepts rtpPacketLength s r)
    (outside : UInt8) :
    let after := dumpAction accepts rtpPacketLength s (.dump outside)
    after.playback.accepted = s.playback.accepted ∧
      after.playback.network = s.playback.network ∧
      ((s.dump = .idle ∧ queueEmpty s.playback.queue = true ∧ after.dump = .idle ∧
          after.playback.seen = s.playback.seen) ∨
        (after.dump ≠ .idle ∧ after.playback.seen = s.playback.seen) ∨
        (s.dump ≠ .idle ∧ after.dump = .idle ∧
          after.playback.seen.length = s.playback.seen.length + 1)) := by
  obtain ⟨r, -, -, -, knows⟩ := explained
  obtain ⟨accepted, network⟩ := dump_step_frame accepts s outside
  refine ⟨accepted, network, ?_⟩
  unfold dumpAction dumpStep
  cases pc : s.dump with
  | idle =>
      dsimp only
      cases empty : queueEmpty s.playback.queue with
      | true => exact .inl ⟨rfl, rfl, rfl, rfl⟩
      | false => exact .inr (.inl ⟨nofun, rfl⟩)
  | testing slot i ret =>
      dsimp only
      split_ifs <;> exact .inr (.inl ⟨nofun, rfl⟩)
  | gathering slot i ret tmp =>
      dsimp only
      cases (frameOffsets i)[tmp.length]? <;> exact .inr (.inl ⟨nofun, rfl⟩)
  | finished ret =>
      rw [pc] at knows
      obtain ⟨slot, count, dumping, -⟩ := knows
      refine .inr (.inr ⟨nofun, rfl, ?_⟩)
      change (s.playback.seen ++ oldest s.playback.queue).length = s.playback.seen.length + 1
      rw [oldest, dumping.waiting, List.length_append]
      rfl

theorem waiting_split {s : DumpState} (explained : ∃ r, Explained accepts rtpPacketLength s r) :
    ∃ underWay ≤ 1,
      s.playback.accepted.length + (inHand s.playback.network).length =
        s.playback.seen.length + (held s.playback.queue).length + underWay := by
  obtain ⟨r, ⟨published, invariant⟩, -⟩ := explained
  refine ⟨(underway s.playback.network).length + (inHand s.playback.network).length, ?_, ?_⟩
  · cases s.playback.network <;> first | exact Nat.zero_le 1 | exact Nat.le_refl 1
  · rw [accepted_bytes invariant, List.length_append, List.length_append, List.length_map,
      held_bytes_length]
    omega

theorem held_limit (q : AoipQueue) : (held q).length ≤ 511 := by
  have below : RingFifo.pending dataQueueSlotNum q.head.toNat q.tail.toNat < 512 :=
    Nat.mod_lt _ (by decide)
  rw [held_length]
  omega

structure Accounts (accepts : Nat → Option Nat) (rtpPacketLength : UInt16) (s : PlayerState) :
    Prop where
  explained : ∃ r, Explained accepts rtpPacketLength s.dump r
  received : s.received = s.dump.playback.accepted.length +
    (inHand s.dump.playback.network).length + s.dropped
  calls : s.dump.playback.seen.length + (if s.dump.dump = .idle then 0 else 1) ≤ s.calls

theorem player_start_accounts (slots : Bool) (data : Nat → Bool) (time : Nat → UInt32)
    {queue : AoipQueue} (created : aoipQueueInit slots data rtpPacketLength time = some queue)
    (audio : AudioCtx) (start : NsTime) :
    Accounts accepts rtpPacketLength (playerStart queue audio start) := by
  have invariant := invariant_start slots data rtpPacketLength time queue created
  exact ⟨⟨_, ⟨[], invariant⟩, rfl, rfl, rfl⟩, rfl, le_rfl⟩

theorem step_keeps_accounts (small : rtpPacketLength.toNat ≤ 65532) {s : PlayerState}
    (accounts : Accounts accepts rtpPacketLength s) (action : NsTime × PlayerAction) :
    Accounts accepts rtpPacketLength (playerStep accepts rtpPacketLength s action) := by
  obtain ⟨explained, received, calls⟩ := accounts
  obtain ⟨time, action⟩ := action
  cases action with
  | network event =>
      obtain ⟨seen, balance⟩ :=
        network_step_accounts rtpPacketLength s.dump.playback event time
      refine ⟨step_stays_explained small explained (.network event time), ?_, ?_⟩
      · change s.received + _ = (networkStep rtpPacketLength s.dump.playback event
          time).accepted.length + (inHand (networkStep rtpPacketLength s.dump.playback event
          time).network).length + (s.dropped + _)
        omega
      · change (networkStep rtpPacketLength s.dump.playback event time).seen.length + _ ≤ s.calls
        rw [seen]
        exact calls
  | audio stop outside =>
      have stays := step_stays_explained small explained (.dump outside)
      obtain ⟨accepted, network, taking⟩ := dump_step_takes explained outside
      unfold playerStep
      dsimp only
      split_ifs with ended idle stopped due
      · exact ⟨explained, received, calls⟩
      · exact ⟨explained, received, calls⟩
      · rw [if_pos idle] at calls
        refine ⟨stays, ?_, ?_⟩
        · dsimp only
          rw [accepted, network]
          exact received
        · dsimp only
          rcases taking with ⟨-, -, ends, same⟩ | ⟨begun, same⟩ | ⟨busy, -⟩
          · rw [if_pos ends, same]
            omega
          · rw [if_neg begun, same]
            omega
          · exact absurd idle busy
      · exact ⟨explained, received, calls⟩
      · rw [if_neg idle] at calls
        refine ⟨stays, ?_, ?_⟩
        · dsimp only
          rw [accepted, network]
          exact received
        · dsimp only
          rcases taking with ⟨free, -⟩ | ⟨goesOn, same⟩ | ⟨-, ends, more⟩
          · exact absurd free idle
          · rw [if_neg goesOn, same]
            exact calls
          · rw [if_pos ends, more]
            omega

/-! ## The reader takes one packet a millisecond at best -/

def BeginsCall (s : PlayerState) : NsTime × PlayerAction → Prop
  | (_, .network _) => False
  | (time, .audio stop _) =>
      s.ended = false ∧ s.dump.dump = .idle ∧ stop = false ∧ nsSub time s.audioTimer ≥ nsMsec

instance (s : PlayerState) : (action : NsTime × PlayerAction) → Decidable (BeginsCall s action)
  | (_, .network _) => inferInstanceAs (Decidable False)
  | (_, .audio _ _) => inferInstanceAs (Decidable (_ ∧ _ ∧ _ ∧ _))

/-- The clock does not go back, and calls begin `late` or more after they are due. -/
def Lagging (late : Nat) (s : PlayerState) (action : NsTime × PlayerAction) : Prop :=
  s.now.toNat ≤ action.1.toNat ∧
    (BeginsCall s action → s.audioTimer.toNat + 1000000 + late ≤ action.1.toNat)

instance (late : Nat) (s : PlayerState) (action : NsTime × PlayerAction) :
    Decidable (Lagging late s action) := inferInstanceAs (Decidable (_ ∧ _))

/-- The calls so far have taken their time. -/
structure Paced (start late : Nat) (s : PlayerState) : Prop where
  spent : start + s.calls * (1000000 + late) ≤ s.audioTimer.toNat
  past : s.audioTimer.toNat ≤ s.now.toNat

theorem step_keeps_pace {start late : Nat} {s : PlayerState} (paced : Paced start late s)
    {action : NsTime × PlayerAction} (lagging : Lagging late s action) :
    Paced start late (playerStep accepts rtpPacketLength s action) := by
  obtain ⟨spent, past⟩ := paced
  obtain ⟨time, action⟩ := action
  obtain ⟨forward, begins⟩ := lagging
  have later : s.audioTimer.toNat ≤ time.toNat := past.trans forward
  cases action with
  | network event => exact ⟨spent, later⟩
  | audio stop outside =>
      unfold playerStep
      dsimp only
      split_ifs with ended idle stopped due
      · exact ⟨spent, later⟩
      · exact ⟨spent, later⟩
      · have call := begins ⟨Bool.eq_false_of_not_eq_true ended, idle,
          Bool.eq_false_of_not_eq_true stopped, due⟩
        refine ⟨?_, le_rfl⟩
        dsimp only at call ⊢
        rw [Nat.add_mul, Nat.one_mul]
        omega
      · exact ⟨spent, later⟩
      · exact ⟨spent, later⟩

end

/-- In every run the packets that are neither dropped nor still waiting have cost the
reader a millisecond each, and what each of its calls was late besides, and at most 512
can wait. So a source that sends a packet a millisecond is too fast for a reader that is
ever late: the datagrams that have to be dropped grow with the time. -/
theorem reader_falls_behind (accepts : Nat → Option Nat) (slots : Bool) (data : Nat → Bool)
    (rtpPacketLength : UInt16) (small : rtpPacketLength.toNat ≤ 65532) (time : Nat → UInt32)
    (queue : AoipQueue) (created : aoipQueueInit slots data rtpPacketLength time = some queue)
    (audio : AudioCtx) (start : NsTime) (late : Nat) (schedule : List (NsTime × PlayerAction))
    (lagging : Along (playerStep accepts rtpPacketLength) (Lagging late)
      (playerStart queue audio start) schedule) :
    let s := playerRun accepts rtpPacketLength (playerStart queue audio start) schedule
    ∃ waiting ≤ 512, s.received = s.dropped + s.dump.playback.seen.length + waiting ∧
      (s.received - s.dropped - waiting) * (1000000 + late) ≤ s.now.toNat - start.toNat := by
  intro s
  have both : Accounts accepts rtpPacketLength s ∧ Paced start.toNat late s := by
    apply along_invariant (fun s => Accounts accepts rtpPacketLength s ∧
      Paced start.toNat late s) _ lagging
    · refine ⟨player_start_accounts slots data time created audio start, ?_, le_rfl⟩
      rw [playerStart, Nat.zero_mul, Nat.add_zero]
    · rintro s action ⟨accounts, paced⟩ allowed
      exact ⟨step_keeps_accounts small accounts action, step_keeps_pace paced allowed⟩
  obtain ⟨⟨explained, received, calls⟩, spent, past⟩ := both
  obtain ⟨underWay, single, split⟩ := waiting_split explained
  have room := held_limit s.dump.playback.queue
  refine ⟨(held s.dump.playback.queue).length + underWay, by omega, by omega, ?_⟩
  have taken : s.received - s.dropped - ((held s.dump.playback.queue).length + underWay) ≤
      s.calls := by
    split_ifs at calls <;> omega
  have cost := Nat.mul_le_mul_right (1000000 + late) taken
  omega

/-- A packet is received, and taken by a call that begins half a microsecond late. -/
def sampleLateCall : List (NsTime × PlayerAction) :=
  List.replicate 7 (0, .network (.datagram [1])) ++ List.replicate 4 (1000500, .audio false 0)

theorem sample_reader_falls_behind :
    let s := playerRun takesAll 13 (playerStart (emptyQueue 13 fun _ => 0) sampleAudio 0)
      sampleLateCall
    (s.received, s.calls, s.dump.playback.seen.length, s.now) = (1, 1, 1, 1000500) ∧
      ∃ waiting ≤ 512, s.received = s.dropped + s.dump.playback.seen.length + waiting ∧
        (s.received - s.dropped - waiting) * (1000000 + 500) ≤ s.now.toNat - (0 : NsTime).toNat :=
  ⟨by decide +kernel, reader_falls_behind takesAll true (fun _ => true) 13 (by decide) (fun _ => 0)
    (emptyQueue 13 fun _ => 0) (by simp [aoipQueueInit]) sampleAudio 0 500 sampleLateCall
    (by decide +kernel)⟩

/-! ## A source that is slow enough loses nothing -/

/-- The program as a paced queue: what waits has been received and neither dropped nor
taken. -/
def clocked (s : PlayerState) : Clocked where
  now := s.now.toNat
  waiting := s.received - s.dropped - s.dump.playback.seen.length
  arrived := s.arrived.toNat
  armed := s.audioTimer.toNat
  polled := s.polled.toNat
  busy := s.dump.dump ≠ .idle

/-- The loop reads the clock at least every `gap`, and datagrams come more than a
millisecond and two gaps apart. -/
def Attended (rtpPacketLength : UInt16) (gap : Nat) (s : PlayerState) :
    NsTime × PlayerAction → Prop
  | (time, action) =>
      s.now.toNat ≤ time.toNat ∧ time.toNat ≤ s.polled.toNat + gap ∧
        match action with
        | .network event => arrives rtpPacketLength s.dump.playback.network event = true →
            s.received = 0 ∨ s.arrived.toNat + 1000000 + 2 * gap < time.toNat
        | .audio _ _ => True

instance (rtpPacketLength : UInt16) (gap : Nat) (s : PlayerState) :
    (action : NsTime × PlayerAction) → Decidable (Attended rtpPacketLength gap s action)
  | (_, .network _) => inferInstanceAs (Decidable (_ ∧ _ ∧ (_ → _)))
  | (_, .audio _ _) => inferInstanceAs (Decidable (_ ∧ _ ∧ True))

theorem drops_when_full {s : PlaybackState} (drop : drops s = true) : queueFull s.queue = true := by
  unfold drops at drop
  cases pc : s.network <;> rw [pc] at drop <;> first | exact drop | cases drop

section

variable {accepts : Nat → Option Nat} {rtpPacketLength : UInt16} {gap : Nat} {s : PlayerState}

/-- The network thread: a datagram arrives, or nothing changes. -/
theorem network_step_is_paced (accounts : Accounts accepts rtpPacketLength s)
    (whole : s.dropped = 0) (kept : Kept 1000000 gap (clocked s)) {time : NsTime}
    {event : RecvResult} (attended : Attended rtpPacketLength gap s (time, .network event)) :
    Step 1000000 gap time.toNat (clocked s)
        (clocked (playerStep accepts rtpPacketLength s (time, .network event))) ∧
      (playerStep accepts rtpPacketLength s (time, .network event)).dropped = 0 := by
  obtain ⟨explained, received, -⟩ := accounts
  obtain ⟨underWay, single, split⟩ := waiting_split explained
  obtain ⟨-, -, spaced⟩ := attended
  have few : s.received - s.dropped - s.dump.playback.seen.length ≤ 2 := kept.few
  have room : drops s.dump.playback = false := by
    cases drop : drops s.dump.playback with
    | false => rfl
    | true =>
        have full := (full_iff_capacity _).mp (drops_when_full drop)
        have size : queueCapacity = 511 := rfl
        omega
  have seen := (network_step_accounts rtpPacketLength s.dump.playback event time).1
  have stays : (playerStep accepts rtpPacketLength s (time, .network event)).dropped = 0 := by
    change s.dropped + (drops s.dump.playback).toNat = 0
    rw [room, whole]
    rfl
  refine ⟨?_, stays⟩
  have count : (clocked (playerStep accepts rtpPacketLength s (time, .network event))).waiting =
      s.received + (arrives rtpPacketLength s.dump.playback.network event).toNat - s.dropped -
        s.dump.playback.seen.length := by
    change _ - (playerStep accepts rtpPacketLength s (time, .network event)).dropped -
      (networkStep rtpPacketLength s.dump.playback event time).seen.length = _
    rw [stays, whole, seen]
    rfl
  have arrived : (clocked (playerStep accepts rtpPacketLength s (time, .network event))).arrived =
      (if arrives rtpPacketLength s.dump.playback.network event then time else s.arrived).toNat :=
    rfl
  cases arriving : arrives rtpPacketLength s.dump.playback.network event with
  | true =>
      rw [arriving] at count arrived
      have next : clocked (playerStep accepts rtpPacketLength s (time, .network event)) =
          { clocked s with
            now := time.toNat
            waiting := (clocked s).waiting + 1
            arrived := time.toNat } := by
        refine Clocked.ext rfl ?_ arrived rfl rfl rfl
        rw [count]
        change s.received + 1 - s.dropped - s.dump.playback.seen.length =
          s.received - s.dropped - s.dump.playback.seen.length + 1
        omega
      rw [next]
      apply Step.arrive
      rcases spaced arriving with first | apart
      · left
        change s.received - s.dropped - s.dump.playback.seen.length = 0
        omega
      · exact .inr apart
  | false =>
      rw [arriving] at count arrived
      have next : clocked (playerStep accepts rtpPacketLength s (time, .network event)) =
          { clocked s with now := time.toNat } :=
        Clocked.ext rfl count arrived rfl rfl rfl
      rw [next]
      exact Step.quiet

/-- The audio thread: a poll, a call that begins or ends, or a step inside a call. -/
theorem audio_step_is_paced (accounts : Accounts accepts rtpPacketLength s)
    (kept : Kept 1000000 gap (clocked s)) {time : NsTime} {stop : Bool} {outside : UInt8}
    (attended : Attended rtpPacketLength gap s (time, .audio stop outside)) :
    Step 1000000 gap time.toNat (clocked s)
        (clocked (playerStep accepts rtpPacketLength s (time, .audio stop outside))) ∧
      (playerStep accepts rtpPacketLength s (time, .audio stop outside)).dropped = s.dropped := by
  obtain ⟨explained, received, -⟩ := accounts
  obtain ⟨underWay, single, split⟩ := waiting_split explained
  obtain ⟨forward, -, -⟩ := attended
  have past : s.audioTimer.toNat ≤ time.toNat := by
    have ordered : s.audioTimer.toNat ≤ s.polled.toNat := kept.ordered
    have polled : s.polled.toNat ≤ s.now.toNat := kept.past
    omega
  obtain ⟨-, -, taking⟩ := dump_step_takes explained outside
  unfold playerStep
  dsimp only
  split_ifs with ended idle stopped due
  · exact ⟨Step.quiet, rfl⟩
  · exact ⟨Step.quiet, rfl⟩
  · have free : (clocked s).busy = false := decide_eq_false (not_not.mpr idle)
    refine ⟨?_, rfl⟩
    rcases taking with ⟨-, empty, ends, same⟩ | ⟨begun, same⟩ | ⟨busy, -⟩
    · -- the call has found nothing, so at most the datagram under way is waiting
      have nothing : (held s.dump.playback.queue).length = 0 := by
        rw [held_empty empty]
        rfl
      have few : (clocked s).waiting ≤ 1 := by
        change s.received - s.dropped - s.dump.playback.seen.length ≤ 1
        omega
      refine (Step.idle free few).of_eq (Clocked.ext rfl ?_ rfl rfl rfl ?_)
      · exact congrArg (fun seen => s.received - s.dropped - seen.length) same
      · rw [free]
        exact decide_eq_false (not_not.mpr ends)
    · refine (Step.begin free).of_eq (Clocked.ext rfl ?_ rfl rfl rfl ?_)
      · exact congrArg (fun seen => s.received - s.dropped - seen.length) same
      · exact decide_eq_true begun
    · exact absurd idle busy
  · have free : (clocked s).busy = false := decide_eq_false (not_not.mpr idle)
    rw [due_iff past] at due
    exact ⟨Step.early free (not_le.mp due), rfl⟩
  · refine ⟨?_, rfl⟩
    have busy : (clocked s).busy = true := decide_eq_true idle
    rcases taking with ⟨free, -⟩ | ⟨goesOn, same⟩ | ⟨-, ends, more⟩
    · exact absurd free idle
    · refine Step.quiet.of_eq (Clocked.ext rfl ?_ rfl rfl rfl ?_)
      · exact congrArg (fun seen => s.received - s.dropped - seen.length) same
      · rw [busy]
        exact decide_eq_true goesOn
    · refine (Step.finish busy).of_eq (Clocked.ext rfl ?_ rfl rfl rfl (decide_eq_false
        (not_not.mpr ends)))
      change s.received - s.dropped - _ = s.received - s.dropped - s.dump.playback.seen.length - 1
      rw [more]
      omega

theorem step_is_paced (accounts : Accounts accepts rtpPacketLength s) (whole : s.dropped = 0)
    (kept : Kept 1000000 gap (clocked s)) {action : NsTime × PlayerAction}
    (attended : Attended rtpPacketLength gap s action) :
    Step 1000000 gap action.1.toNat (clocked s)
        (clocked (playerStep accepts rtpPacketLength s action)) ∧
      (playerStep accepts rtpPacketLength s action).dropped = 0 := by
  obtain ⟨time, action⟩ := action
  cases action with
  | network event => exact network_step_is_paced accounts whole kept attended
  | audio stop outside =>
      obtain ⟨step, same⟩ := audio_step_is_paced accounts kept attended
      exact ⟨step, same.trans whole⟩

end

/-- If the loop reads the clock at least every `gap` and datagrams come more than a
millisecond and two gaps apart, none is ever dropped and no more than two wait. -/
theorem slow_source_loses_nothing (accepts : Nat → Option Nat) (slots : Bool) (data : Nat → Bool)
    (rtpPacketLength : UInt16) (small : rtpPacketLength.toNat ≤ 65532) (time : Nat → UInt32)
    (queue : AoipQueue) (created : aoipQueueInit slots data rtpPacketLength time = some queue)
    (audio : AudioCtx) (start : NsTime) (gap : Nat) (schedule : List (NsTime × PlayerAction))
    (attended : Along (playerStep accepts rtpPacketLength) (Attended rtpPacketLength gap)
      (playerStart queue audio start) schedule) :
    let s := playerRun accepts rtpPacketLength (playerStart queue audio start) schedule
    s.dropped = 0 ∧ s.received ≤ s.dump.playback.seen.length + 2 ∧
      s.received = s.dump.playback.accepted.length + (inHand s.dump.playback.network).length := by
  intro s
  have all : Accounts accepts rtpPacketLength s ∧ s.dropped = 0 ∧
      Kept 1000000 gap (clocked s) := by
    apply along_invariant (fun s => Accounts accepts rtpPacketLength s ∧ s.dropped = 0 ∧
      Kept 1000000 gap (clocked s)) _ attended
    · refine ⟨player_start_accounts slots data time created audio start, rfl, ?_⟩
      exact ⟨le_rfl, le_rfl, Nat.le_add_right _ _, fun _ => rfl, Nat.zero_le 2, nofun⟩
    · rintro s action ⟨accounts, whole, kept⟩ allowed
      obtain ⟨step, stays⟩ := step_is_paced accounts whole kept allowed
      exact ⟨step_keeps_accounts small accounts action, stays,
        step_keeps kept allowed.1 allowed.2.1 step⟩
  obtain ⟨accounts, whole, kept⟩ := all
  have few : s.received - s.dropped - s.dump.playback.seen.length ≤ 2 := kept.few
  have received := accounts.received
  exact ⟨whole, by omega, by omega⟩

/-- The loop reads the clock every 0.3 ms, and two datagrams come 1.7 ms apart. -/
def sampleSlow : List (NsTime × PlayerAction) :=
  List.replicate 7 (0, .network (.datagram [1])) ++
    [(300000, .audio false 0), (600000, .audio false 0), (900000, .audio false 0)] ++
    List.replicate 4 (1200000, .audio false 0) ++ [(1500000, .audio false 0)] ++
    List.replicate 7 (1700000, .network (.datagram [2])) ++
    [(1800000, .audio false 0), (2100000, .audio false 0)] ++
    List.replicate 4 (2400000, .audio false 0)

theorem sample_slow_source :
    let s := playerRun takesAll 13 (playerStart (emptyQueue 13 fun _ => 0) sampleAudio 0) sampleSlow
    (s.received, s.dump.playback.seen.length) = (2, 2) ∧ s.dropped = 0 :=
  ⟨by decide +kernel, (slow_source_loses_nothing takesAll true (fun _ => true) 13 (by decide)
    (fun _ => 0) (emptyQueue 13 fun _ => 0) (by simp [aoipQueueInit]) sampleAudio 0 300000 sampleSlow
    (by decide +kernel)).1⟩

end AoipCore.Realtime
