import AoipCore.Playback
import AoipCore.Record

/-!
# The RTP part of one pass of `network_loop`

`playbackBranch` and `recordBranch` run the branch of a mode from start to end,
on the queue as the audio thread left it. The pipelines cut the same branches
into single accesses to shared memory; the two theorems below say that a thread
that takes its steps without being interrupted computes the branch.
-/

namespace AoipCore.Network

open AoipCore.Host AoipCore.Timer AoipCore.Rtp AoipCore.Queue AoipCore.Playback AoipCore.Record

set_option autoImplicit false

/-- The `AOIP_MODE_PLAYBACK` branch: the queue and the next `seq`. -/
def playbackBranch (rtpPacketLength : UInt16) (queue : AoipQueue) (seq : UInt16)
    (event : RecvResult) (reading : NsTime) : AoipQueue × UInt16 :=
  match event with
  | .datagram bytes =>
      let slot := queueWritePtr queue
      let datagram := bytes.take rtpPacketLength.toNat
      if datagram.length > 0 then
        let queue := queue.put slot 0 datagram
        if !queueFull queue then
          let queue := queue.setLen slot (UInt16.ofNat datagram.length)
          let queue := queue.setSeq slot seq
          let queue := queue.setTstamp slot reading
          (queueWriteNext queue, (seq + 1) &&& 0xffff)
        else (queue, seq)
      else (queue, seq)
  | _ => (queue, seq)

/-- How the `AOIP_MODE_RECORD` branch ends: behind the branch, with `continue`,
or with `break`. -/
inductive RtpFlow where
  | onward
  | again
  | failed
  deriving DecidableEq, Repr

structure RecordResult where
  queue : AoipQueue
  tstamp : UInt32
  sent : List Bytes
  flow : RtpFlow
  deriving DecidableEq

theorem put_timestamp_each (timestamp : UInt32) (each : QueueSlot) :
    (putTimestamp each.data timestamp).length = each.data.length :=
  put_timestamp_length _ _

theorem put_sequence_each (each : QueueSlot) :
    (putSequence each.data each.seq).length = each.data.length :=
  put_sequence_length _ _

def recordBranch (queue : AoipQueue) (tstamp fresh : UInt32) (outcome : SendResult) :
    RecordResult :=
  if !queueEmpty queue then
    let slot := queueReadPtr queue
    let tstamp := nextTstamp tstamp fresh
    let queue := queue.patch slot (fun each => putTimestamp each.data tstamp)
      (put_timestamp_each tstamp)
    let queue := queue.patch slot (fun each => putSequence each.data each.seq) put_sequence_each
    let datagram := (queue.slotAt slot).data.take (queue.slotAt slot).len.toNat
    match outcome with
    | .sent =>
        { queue := queueReadNext queue, tstamp := tstamp, sent := [datagram], flow := .onward }
    | .again => { queue := queue, tstamp := tstamp, sent := [], flow := .again }
    | .failed => { queue := queue, tstamp := tstamp, sent := [], flow := .failed }
  else { queue := queue, tstamp := tstamp, sent := [], flow := .onward }

/-- The playback branch is a run of the network thread alone, from `idle` to
`idle`. -/
theorem playback_branch_steps (rtpPacketLength : UInt16) (s : PlaybackState)
    (polling : s.network = .idle) (event : RecvResult) (reading : NsTime) :
    ∃ count after,
      playbackRun rtpPacketLength s (List.replicate count (.network event reading)) = after ∧
        after.network = .idle ∧ after.reader = s.reader ∧
        (after.queue, after.seq) = playbackBranch rtpPacketLength s.queue s.seq event reading := by
  obtain ⟨queue, seq, network, reader, accepted, seen⟩ := s
  obtain rfl : network = .idle := polling
  cases event with
  | again => exact ⟨1, _, rfl, rfl, rfl, rfl⟩
  | failed => exact ⟨1, _, rfl, rfl, rfl, rfl⟩
  | datagram bytes =>
      unfold playbackBranch
      dsimp only
      split_ifs with arrived room
      · refine ⟨7, _, rfl, ?_⟩
        simp only [playbackRun, List.replicate_succ, List.replicate_zero, List.foldl_cons,
          List.foldl_nil, playbackStep, networkStep, if_pos arrived, if_pos room, and_self]
      · refine ⟨2, _, rfl, ?_⟩
        simp only [playbackRun, List.replicate_succ, List.replicate_zero, List.foldl_cons,
          List.foldl_nil, playbackStep, networkStep, if_pos arrived, if_neg room, and_self]
      · refine ⟨1, _, rfl, ?_⟩
        simp only [playbackRun, List.replicate_succ, List.replicate_zero, List.foldl_cons,
          List.foldl_nil, playbackStep, networkStep, if_neg arrived, and_self]

/-- The record branch is a run of the sender alone: back to `idle`, or to
`stopped` if the branch breaks the loop. -/
theorem record_branch_steps (s : RecordState) (polling : s.sender = .idle) (fresh : UInt32)
    (outcome : SendResult) :
    ∃ count after, recordRun s (List.replicate count (.sender fresh outcome)) = after ∧
      after.queue = (recordBranch s.queue s.tstamp fresh outcome).queue ∧
      after.tstamp = (recordBranch s.queue s.tstamp fresh outcome).tstamp ∧
      after.sent = s.sent ++ (recordBranch s.queue s.tstamp fresh outcome).sent ∧
      after.producer = s.producer ∧
      after.sender =
        if (recordBranch s.queue s.tstamp fresh outcome).flow = .failed then .stopped
        else .idle := by
  obtain ⟨queue, audioSeq, tstamp, producer, sender, produced, sent, offered⟩ := s
  obtain rfl : sender = .idle := polling
  by_cases waiting : (!queueEmpty queue) = true
  · simp only [recordBranch, if_pos waiting]
    cases outcome with
    | sent =>
        refine ⟨5, _, rfl, ?_⟩
        simp [recordRun, List.replicate_succ, recordStep, senderStep, waiting]
    | again =>
        refine ⟨4, _, rfl, ?_⟩
        simp [recordRun, List.replicate_succ, recordStep, senderStep, waiting]
    | failed =>
        refine ⟨4, _, rfl, ?_⟩
        simp [recordRun, List.replicate_succ, recordStep, senderStep, waiting]
  · simp only [recordBranch, if_neg waiting]
    refine ⟨1, _, rfl, ?_⟩
    simp [recordRun, recordStep, senderStep, waiting]

end AoipCore.Network
