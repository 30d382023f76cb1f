import AoipCore.Library.PacedQueue
import AoipCore.Linearised
import AoipCore.Pacing

/-!
# `tonegen` in real time

The audio thread calls `tonegen_ao_write` when a millisecond has passed, the network
thread tests the queue in every pass of its loop and sends one packet. If it comes
round twice a millisecond and `sendto` takes every packet, no call finds the queue full.
-/

namespace AoipCore.Realtime

open PacedQueue AoipCore.Host AoipCore.Timer AoipCore.Queue AoipCore.Record AoipCore.Pacing

set_option autoImplicit false

/-- Both threads of the program. `audioTimer` belongs to `audio_playback_loop`, which has
left once `ended` is set. The rest are logs: the calls of `tonegen_ao_write`, those
that found the queue full, and the times of the last step and of the last test of the
queue by the network thread. -/
structure GeneratorState where
  record : RecordState
  audioTimer : NsTime
  ended : Bool
  calls : Nat
  refused : Nat
  now : NsTime
  polled : NsTime

def generatorStart (queue : AoipQueue) (now : NsTime) : GeneratorState where
  record := recordStart queue
  audioTimer := now
  ended := false
  calls := 0
  refused := 0
  now := now
  polled := now

inductive GeneratorAction where
  | audio (stop : Bool) (byte : UInt8)
  | sender (fresh : UInt32) (outcome : SendResult)
  deriving DecidableEq, Repr

/-- A step at a time. Between two calls the audio thread tests the flag, reads the clock
and, if the next call is due, begins it with its test of the queue, all in one step.
`tonegen_ao_write` never fails, so only the flag ends the loop. -/
def generatorStep (s : GeneratorState) : NsTime × GeneratorAction → GeneratorState
  | (time, .audio stop byte) =>
      if s.ended then { s with now := time }
      else if s.record.producer = .idle then
        if stop then { s with ended := true, now := time }
        else if nsSub time s.audioTimer ≥ nsMsec then
          { s with
            record := producerStep s.record time byte
            audioTimer := time
            calls := s.calls + 1
            refused := s.refused + (queueFull s.record.queue).toNat
            now := time }
        else { s with now := time }
      else { s with record := producerStep s.record time byte, now := time }
  | (time, .sender fresh outcome) =>
      { s with
        record := senderStep s.record fresh outcome
        polled := if s.record.sender = .idle then time else s.polled
        now := time }

def generatorRun (s : GeneratorState) (schedule : List (NsTime × GeneratorAction)) :
    GeneratorState :=
  schedule.foldl generatorStep s

/-! ## Every call is accounted for -/

def generating : ProducerPc → Nat
  | .idle => 0
  | _ => 1

/-- The payload that is being generated behind the next step: at the start of a call
one begins unless the queue is full. -/
def generatingNext (s : RecordState) : Nat :=
  match s.producer with
  | .idle => 1 - (queueFull s.queue).toNat
  | _ => 1

theorem producer_step_counts (s : RecordState) (reading : NsTime) (byte : UInt8) :
    let after := producerStep s reading byte
    after.sender = s.sender ∧ after.sent = s.sent ∧
      after.produced.length + generating after.producer =
        s.produced.length + generatingNext s := by
  unfold producerStep generatingNext
  cases pc : s.producer with
  | idle =>
      dsimp only
      cases full : queueFull s.queue with
      | true => exact ⟨rfl, rfl, congrArg (s.produced.length + generating ·) pc⟩
      | false => exact ⟨rfl, rfl, rfl⟩
  | filling slot written =>
      dsimp only
      split_ifs <;> exact ⟨rfl, rfl, rfl⟩
  | counted written =>
      refine ⟨rfl, rfl, ?_⟩
      change (s.produced ++ [written]).length + 0 = s.produced.length + 1
      rw [List.length_append, List.length_singleton]
  | _ => exact ⟨rfl, rfl, rfl⟩

theorem generating_next_of_busy {s : RecordState} (busy : s.producer ≠ .idle) :
    generatingNext s = 1 ∧ generating s.producer = 1 := by
  unfold generatingNext
  cases pc : s.producer with
  | idle => exact absurd pc busy
  | _ => exact ⟨rfl, rfl⟩

def sending : SenderPc → Bool
  | .found _ => true
  | .stamped _ _ => true
  | .sequenced _ _ => true
  | _ => false

/-- A pass of the sender finds the queue empty or takes up a packet, which it sends if
`sendto` takes it. -/
theorem sender_step_counts (s : RecordState) (fresh : UInt32) :
    let after := senderStep s fresh .sent
    after.producer = s.producer ∧ after.produced = s.produced ∧
      ((s.sender = .idle ∧ queueEmpty s.queue = true ∧ sending after.sender = false ∧
          after.sent = s.sent) ∨
        (s.sender = .idle ∧ sending after.sender = true ∧ after.sent = s.sent) ∨
        (s.sender ≠ .idle ∧ sending after.sender = sending s.sender ∧ after.sent = s.sent) ∨
        (s.sender ≠ .idle ∧ sending s.sender = true ∧ sending after.sender = false ∧
          after.sent.length = s.sent.length + 1)) := by
  unfold senderStep
  cases pc : s.sender with
  | idle =>
      dsimp only
      cases empty : queueEmpty s.queue with
      | true => exact ⟨rfl, rfl, .inl ⟨rfl, rfl, congrArg sending pc, rfl⟩⟩
      | false => exact ⟨rfl, rfl, .inr (.inl ⟨rfl, rfl, rfl⟩)⟩
  | sequenced slot stamped =>
      refine ⟨rfl, rfl, .inr (.inr (.inr ⟨nofun, rfl, rfl, ?_⟩))⟩
      exact List.length_append
  | stopped => exact ⟨rfl, rfl, .inr (.inr (.inl ⟨nofun, congrArg sending pc, rfl⟩))⟩
  | _ => exact ⟨rfl, rfl, .inr (.inr (.inl ⟨nofun, rfl, rfl⟩))⟩

structure Books (start : NsTime) (s : GeneratorState) : Prop where
  invariant : ∃ released, RecordInvariant s.record released
  calls : s.calls = s.record.produced.length + generating s.record.producer + s.refused
  spent : start.toNat + s.calls * 1000000 ≤ s.audioTimer.toNat
  past : s.audioTimer.toNat ≤ s.now.toNat

theorem step_keeps_books {start : NsTime} {s : GeneratorState} (books : Books start s)
    {action : NsTime × GeneratorAction} (forward : s.now.toNat ≤ action.1.toNat)
    (sends : ∀ fresh outcome, action.2 = .sender fresh outcome → outcome = .sent) :
    Books start (generatorStep s action) := by
  obtain ⟨⟨released, invariant⟩, calls, spent, past⟩ := books
  obtain ⟨time, action⟩ := action
  have later : s.audioTimer.toNat ≤ time.toNat := past.trans forward
  cases action with
  | sender fresh outcome =>
      obtain rfl := sends fresh outcome rfl
      obtain ⟨producer, produced, -⟩ := sender_step_counts s.record fresh
      refine ⟨sender_step_invariant invariant fresh .sent, ?_, spent, later⟩
      change s.calls = (senderStep s.record fresh .sent).produced.length +
        generating (senderStep s.record fresh .sent).producer + s.refused
      rw [producer, produced]
      exact calls
  | audio stop byte =>
      have kept := producer_step_invariant invariant time byte
      obtain ⟨-, -, counts⟩ := producer_step_counts s.record time byte
      unfold generatorStep
      dsimp only
      split_ifs with ended idle stopped due
      · exact ⟨⟨released, invariant⟩, calls, spent, later⟩
      · exact ⟨⟨released, invariant⟩, calls, spent, later⟩
      · have passed : s.audioTimer.toNat + 1000000 ≤ time.toNat := (due_iff later nsMsec).mp due
        have next : generatingNext s.record = 1 - (queueFull s.record.queue).toNat := by
          rw [generatingNext, idle]
        have none : generating s.record.producer = 0 := by
          rw [idle]
          rfl
        refine ⟨⟨released, kept⟩, ?_, ?_, le_rfl⟩
        · dsimp only
          rw [counts, next]
          cases queueFull s.record.queue with
          | true =>
              change s.calls + 1 = s.record.produced.length + 0 + (s.refused + 1)
              omega
          | false =>
              change s.calls + 1 = s.record.produced.length + 1 + (s.refused + 0)
              omega
        · dsimp only
          rw [Nat.add_mul, Nat.one_mul, ← Nat.add_assoc]
          exact (Nat.add_le_add_right spent 1000000).trans passed
      · exact ⟨⟨released, invariant⟩, calls, spent, later⟩
      · obtain ⟨next, now⟩ := generating_next_of_busy idle
        refine ⟨⟨released, kept⟩, ?_, spent, later⟩
        dsimp only
        omega

/-! ## A prompt sender keeps up -/

/-- The program as a paced queue: the producer is the caller of `tonegen_ao_write`, the
consumer the network thread, which has no period of its own. -/
def generatorClocked (s : GeneratorState) : Clocked where
  now := s.now.toNat
  waiting := s.calls - s.refused - s.record.sent.length
  arrived := s.audioTimer.toNat
  armed := s.polled.toNat
  polled := s.polled.toNat
  busy := sending s.record.sender

/-- The network thread tests the queue at least every `gap`, and `sendto` takes every
packet. -/
def Prompt (gap : Nat) (s : GeneratorState) (action : NsTime × GeneratorAction) : Prop :=
  (s.now.toNat ≤ action.1.toNat ∧ action.1.toNat ≤ s.polled.toNat + gap) ∧
    match action.2 with
    | .audio _ _ => True
    | .sender _ outcome => outcome = .sent

instance (gap : Nat) (s : GeneratorState) :
    (action : NsTime × GeneratorAction) → Decidable (Prompt gap s action)
  | (_, .audio _ _) => inferInstanceAs (Decidable (_ ∧ True))
  | (_, .sender _ _) => inferInstanceAs (Decidable (_ ∧ _))

theorem generating_single (pc : ProducerPc) : generating pc ≤ 1 := by
  cases pc <;> first | exact Nat.zero_le 1 | exact Nat.le_refl 1

section

variable {start : NsTime} {gap : Nat} {s : GeneratorState}

theorem unsent_split (books : Books start s) :
    s.record.produced.length + unreleased s.record.sender =
      s.record.sent.length + (held s.record.queue).length := by
  obtain ⟨⟨released, invariant⟩, -⟩ := books
  have length := unsent_length invariant
  have progress := invariant.progress
  have bounded := invariant.holds.bounded
  rw [items, List.length_mapIdx] at bounded
  rw [List.length_drop] at length
  omega

theorem sent_at_most (books : Books start s) :
    s.record.sent.length ≤ s.record.produced.length := by
  obtain ⟨⟨released, invariant⟩, -⟩ := books
  by_contra more
  obtain ⟨payload, produced, -⟩ := invariant.delivered s.record.produced.length _
    (List.getElem?_eq_getElem (not_le.mp more))
  rw [List.getElem?_eq_none le_rfl] at produced
  cases produced

theorem audio_step_is_prompt (books : Books start s) (whole : s.refused = 0)
    (twice : 2 * gap < 1000000) (kept : Kept 0 gap (generatorClocked s)) {time : NsTime}
    {stop : Bool} {byte : UInt8} (forward : s.now.toNat ≤ time.toNat) :
    Step 0 gap time.toNat (generatorClocked s)
        (generatorClocked (generatorStep s (time, .audio stop byte))) ∧
      (generatorStep s (time, .audio stop byte)).refused = 0 := by
  have split := unsent_split books
  have most := sent_at_most books
  obtain ⟨-, calls, -, past⟩ := books
  obtain ⟨sender, sent, -⟩ := producer_step_counts s.record time byte
  have few : s.calls - s.refused - s.record.sent.length ≤ 2 := kept.few
  have later : s.audioTimer.toNat ≤ time.toNat := past.trans forward
  unfold generatorStep
  dsimp only
  split_ifs with ended idle stopped due
  · exact ⟨Step.quiet, whole⟩
  · exact ⟨Step.quiet, whole⟩
  · have passed : s.audioTimer.toNat + 1000000 ≤ time.toNat := (due_iff later nsMsec).mp due
    have room : queueFull s.record.queue = false := by
      rw [not_full_iff_room]
      have size : queueCapacity = 511 := rfl
      have single : unreleased s.record.sender ≤ 1 := by
        cases s.record.sender <;> first | exact Nat.zero_le 1 | exact Nat.le_refl 1
      omega
    rw [room]
    refine ⟨?_, whole⟩
    refine (Step.arrive (.inr ?_)).of_eq (Clocked.ext rfl ?_ rfl rfl rfl ?_)
    · change s.audioTimer.toNat + 0 + 2 * gap < time.toNat
      omega
    · change s.calls + 1 - (s.refused + 0) - (producerStep s.record time byte).sent.length =
        s.calls - s.refused - s.record.sent.length + 1
      rw [sent]
      omega
    · exact congrArg sending sender
  · exact ⟨Step.quiet, whole⟩
  · refine ⟨Step.quiet.of_eq (Clocked.ext rfl ?_ rfl rfl rfl ?_), whole⟩
    · exact congrArg (fun sent => s.calls - s.refused - sent.length) sent
    · exact congrArg sending sender

theorem sender_step_is_prompt (books : Books start s) {time : NsTime} {fresh : UInt32} :
    Step 0 gap time.toNat (generatorClocked s)
      (generatorClocked (generatorStep s (time, .sender fresh .sent))) := by
  have split := unsent_split books
  obtain ⟨-, calls, -, -⟩ := books
  obtain ⟨-, -, cases⟩ := sender_step_counts s.record fresh
  have polled : (generatorClocked (generatorStep s (time, .sender fresh .sent))).polled =
      (if s.record.sender = .idle then time else s.polled).toNat := rfl
  rcases cases with ⟨idle, empty, free, same⟩ | ⟨idle, begun, same⟩ | ⟨busy, goesOn, same⟩ |
    ⟨busy, began, ends, more⟩
  · rw [if_pos idle] at polled
    have waits : sending s.record.sender = false := by
      rw [idle]
      rfl
    have nothing : (held s.record.queue).length = 0 := by
      rw [held_empty empty]
      rfl
    have few : (generatorClocked s).waiting ≤ 1 := by
      change s.calls - s.refused - s.record.sent.length ≤ 1
      have single := generating_single s.record.producer
      omega
    refine (Step.idle waits few).of_eq (Clocked.ext rfl ?_ rfl polled polled ?_)
    · exact congrArg (fun sent => s.calls - s.refused - sent.length) same
    · exact free.trans waits.symm
  · rw [if_pos idle] at polled
    have waits : sending s.record.sender = false := by
      rw [idle]
      rfl
    refine (Step.begin waits).of_eq (Clocked.ext rfl ?_ rfl polled polled begun)
    exact congrArg (fun sent => s.calls - s.refused - sent.length) same
  · rw [if_neg busy] at polled
    refine Step.quiet.of_eq (Clocked.ext rfl ?_ rfl polled polled goesOn)
    exact congrArg (fun sent => s.calls - s.refused - sent.length) same
  · rw [if_neg busy] at polled
    refine (Step.finish began).of_eq (Clocked.ext rfl ?_ rfl polled polled ends)
    change s.calls - s.refused - (senderStep s.record fresh .sent).sent.length =
      s.calls - s.refused - s.record.sent.length - 1
    rw [more]
    omega

end

/-- If the network thread tests the queue more than twice a millisecond and `sendto` takes
every packet, no call of `tonegen_ao_write` finds the queue full, no more than two
payloads wait, and the packets sent stand for no more than the time that has passed. -/
theorem prompt_sender_keeps_up (slots : Bool) (data : Nat → Bool) (packetLength : UInt16)
    (time : Nat → UInt32) (queue : AoipQueue)
    (configured : tonegenPacketLength = some packetLength)
    (created : aoipQueueInit slots data packetLength time = some queue) (start : NsTime)
    (gap : Nat) (twice : 2 * gap < 1000000) (schedule : List (NsTime × GeneratorAction))
    (prompt : Along generatorStep (Prompt gap) (generatorStart queue start) schedule) :
    let s := generatorRun (generatorStart queue start) schedule
    s.refused = 0 ∧ s.calls ≤ s.record.sent.length + 2 ∧
      s.record.sent.length * 1000000 ≤ s.now.toNat - start.toNat := by
  intro s
  have all : Books start s ∧ s.refused = 0 ∧ Kept 0 gap (generatorClocked s) := by
    apply along_invariant (fun s => Books start s ∧ s.refused = 0 ∧
      Kept 0 gap (generatorClocked s)) _ prompt
    · refine ⟨⟨⟨0, record_start_invariant slots data packetLength time queue configured created⟩,
        rfl, ?_, le_rfl⟩, rfl, le_rfl, le_rfl, Nat.le_add_right _ _, fun _ => rfl, Nat.zero_le 2,
        nofun⟩
      rw [generatorStart, Nat.zero_mul, Nat.add_zero]
    · rintro s ⟨time, action⟩ ⟨books, whole, kept⟩ ⟨⟨forward, attended⟩, sends⟩
      cases action with
      | audio stop byte =>
          obtain ⟨step, stays⟩ := audio_step_is_prompt books whole twice kept forward
          exact ⟨step_keeps_books books forward nofun, stays, step_keeps kept forward attended step⟩
      | sender fresh outcome =>
          obtain rfl : outcome = .sent := sends
          have step : Step 0 gap time.toNat (generatorClocked s)
              (generatorClocked (generatorStep s (time, .sender fresh .sent))) :=
            sender_step_is_prompt books
          refine ⟨step_keeps_books books forward ?_, whole, step_keeps kept forward attended step⟩
          intro fresh outcome same
          cases same
          rfl
  obtain ⟨books, whole, kept⟩ := all
  have few : s.calls - s.refused - s.record.sent.length ≤ 2 := kept.few
  have most := sent_at_most books
  obtain ⟨-, calls, spent, past⟩ := books
  have rounds : s.record.sent.length * 1000000 ≤ s.calls * 1000000 :=
    Nat.mul_le_mul_right 1000000 (by omega)
  refine ⟨whole, by omega, Nat.le_sub_of_add_le' ?_⟩
  exact (Nat.add_le_add_left rounds start.toNat).trans (spent.trans past)

/-- A payload is generated and sent, with tests of the queue every 0.4 ms. -/
def samplePrompt : List (NsTime × GeneratorAction) :=
  [(400000, .sender 7 .sent), (800000, .sender 7 .sent)] ++
    List.replicate 294 (1000000, .audio false 5) ++ List.replicate 5 (1200000, .sender 7 .sent)

theorem sample_prompt_sender :
    let s := generatorRun (generatorStart sampleQueue 0) samplePrompt
    (s.calls, s.record.produced.length, s.record.sent.length) = (1, 1, 1) ∧ s.refused = 0 :=
  ⟨by decide +kernel, (prompt_sender_keeps_up true (fun _ => true) 300 (fun _ => 0) sampleQueue
    (by decide) sample_queue_created 0 400000 (by decide) samplePrompt (by decide +kernel)).1⟩

end AoipCore.Realtime
