import AoipCore.Network.Timeouts

/-!
# Sending again after `EAGAIN`

A blocked `sendto` ends the pass, and the next pass starts the branch over: the
counter advances once more and the slot at `tail` is stamped anew. The run with
refused attempts is compared with the run whose first attempt succeeds, while
the audio thread goes on publishing in between.
-/

namespace AoipCore.Network

open ControlLoop AoipCore.Host AoipCore.Timer AoipCore.Ptp AoipCore.Queue AoipCore.Record
  AoipCore.Rtp AoipCore.Sap AoipCore.Timestamp

set_option autoImplicit false

/-! ## One attempt -/

def stampedSlot (tstamp : UInt32) (slot : QueueSlot) : QueueSlot :=
  { slot with data := putSequence (putTimestamp slot.data tstamp) slot.seq }

def stampedDatagram (tstamp : UInt32) (slot : QueueSlot) : Bytes :=
  (stampedSlot tstamp slot).data.take slot.len.toNat

theorem stamped_slot_size (tstamp : UInt32) (slot : QueueSlot) :
    (stampedSlot tstamp slot).data.length = slot.data.length := by
  simp [stampedSlot]

def stampTail (tstamp : UInt32) (queue : AoipQueue) : AoipQueue :=
  queue.modify queue.tail.toNat (stampedSlot tstamp) (stamped_slot_size tstamp)

theorem stamped_again (first second : UInt32) (slot : QueueSlot) :
    stampedDatagram second (stampedSlot first slot) = stampedDatagram second slot := by
  unfold stampedDatagram stampedSlot
  dsimp only
  rw [put_timestamp_again]

theorem patches_stamp (tstamp : UInt32) (queue : AoipQueue) :
    (queue.patch (queueReadPtr queue) (fun each => putTimestamp each.data tstamp)
        (put_timestamp_each tstamp)).patch (queueReadPtr queue)
        (fun each => putSequence each.data each.seq) put_sequence_each =
      stampTail tstamp queue := by
  unfold AoipQueue.patch AoipQueue.modify stampTail AoipQueue.modify
  simp only [List.modify_modify_eq]
  rfl

theorem record_branch_again {queue : AoipQueue} (waiting : queueEmpty queue = false)
    (tstamp fresh : UInt32) :
    recordBranch queue tstamp fresh .again =
      { queue := stampTail (nextTstamp tstamp fresh) queue
        tstamp := nextTstamp tstamp fresh
        sent := []
        flow := .again } := by
  unfold recordBranch
  simp only [waiting, Bool.not_false, if_true, patches_stamp]

theorem record_branch_sent {queue : AoipQueue} (waiting : queueEmpty queue = false)
    (tstamp fresh : UInt32) :
    recordBranch queue tstamp fresh .sent =
      { queue := queueReadNext (stampTail (nextTstamp tstamp fresh) queue)
        tstamp := nextTstamp tstamp fresh
        sent := [stampedDatagram (nextTstamp tstamp fresh) (queue.slotAt queue.tail.toNat)]
        flow := .onward } := by
  have written : (stampTail (nextTstamp tstamp fresh) queue).slotAt (queueReadPtr queue) =
      stampedSlot (nextTstamp tstamp fresh) (queue.slotAt queue.tail.toNat) :=
    tail_slot_written queue _ _
  unfold recordBranch
  simp only [waiting, Bool.not_false, if_true, patches_stamp, written]
  rfl

def freshTstamp (ctx : AoipCtx) (ptp : PtpState) : UInt32 :=
  ctx.nsToRtpTstamp (ptpTime ptp.sync.now ptp.ptpc.ptpOffset) ctx.audioSamplingRate

theorem rtp_stage_record {ctx : AoipCtx} (record : ctx.aoipMode = aoipModeRecord)
    (s : MainState) (pass : MainPass) :
    rtpStage ctx s pass =
      ({ s with
          queue := (recordBranch (pass.audio s.queue) s.tstamp (freshTstamp ctx s.ptp)
            pass.rtpSend).queue
          tstamp := (recordBranch (pass.audio s.queue) s.tstamp (freshTstamp ctx s.ptp)
            pass.rtpSend).tstamp
          rtpSent := s.rtpSent ++ (recordBranch (pass.audio s.queue) s.tstamp
            (freshTstamp ctx s.ptp) pass.rtpSend).sent },
        (recordBranch (pass.audio s.queue) s.tstamp (freshTstamp ctx s.ptp) pass.rtpSend).flow) := by
  have distinct : aoipModeRecord ≠ aoipModePlayback := by decide
  unfold rtpStage
  dsimp only
  rw [record, if_neg distinct, if_pos rfl]
  rfl

/-! ## The sender's part of the state -/

structure SenderPart where
  queue : AoipQueue
  tstamp : UInt32
  rtpSent : List Bytes

def senderPart (s : MainState) : SenderPart where
  queue := s.queue
  tstamp := s.tstamp
  rtpSent := s.rtpSent

theorem after_ptp_sender (ctx : AoipCtx) (msg : SapMsg) (s : MainState) (pass : MainPass) :
    senderPart (afterPtp ctx msg s pass).state = senderPart (rtpStage ctx s pass).1 := by
  have announced : ∀ s, senderPart (sapStage msg s pass.sapSend).state = senderPart s := by
    intro s
    unfold sapStage
    dsimp only
    split_ifs <;> rfl
  have tested : ∀ s, senderPart (timeoutStage s).state = senderPart s := by
    intro s
    unfold timeoutStage
    split_ifs <;> rfl
  unfold afterPtp
  dsimp only
  cases (rtpStage ctx s pass).2 with
  | again => rfl
  | failed => rfl
  | onward =>
      have kept := announced (rtpStage ctx s pass).1
      cases outcome : sapStage msg (rtpStage ctx s pass).1 pass.sapSend with
      | leave exit final =>
          rw [outcome] at kept
          exact kept
      | next following =>
          rw [outcome] at kept
          exact (tested following).trans kept

theorem sent_pass_sender {ctx : AoipCtx} (msg : SapMsg) (record : ctx.aoipMode = aoipModeRecord)
    (s : MainState) (pass : MainPass) {ptp : PtpState} (running : pass.stop = false)
    (passed : ptpPass s.ptp pass.poll = .next ptp)
    (waiting : queueEmpty (pass.audio s.queue) = false) (sent : pass.rtpSend = .sent) :
    senderPart (mainPass ctx msg s pass).state =
      let tstamp := nextTstamp s.tstamp (freshTstamp ctx ptp)
      let queue := pass.audio s.queue
      { queue := queueReadNext (stampTail tstamp queue)
        tstamp := tstamp
        rtpSent := s.rtpSent ++ [stampedDatagram tstamp (queue.slotAt queue.tail.toNat)] } := by
  have behind : mainPass ctx msg s pass = afterPtp ctx msg (received s pass ptp) pass := by
    simp only [mainPass, running, if_neg Bool.false_ne_true, passed, received]
  rw [behind, after_ptp_sender, rtp_stage_record record, sent]
  unfold received
  dsimp only
  rw [record_branch_sent waiting]
  rfl

def refusedState (ctx : AoipCtx) (s : MainState) (pass : MainPass) : MainState :=
  let ptp := (ptpPass s.ptp pass.poll).state
  let stamp := nextTstamp s.tstamp (freshTstamp ctx ptp)
  { received s pass ptp with
    queue := stampTail stamp (pass.audio s.queue)
    tstamp := stamp }

/-- A refused attempt has advanced the counter and stamped the slot. -/
theorem refused_pass_step {ctx : AoipCtx} (msg : SapMsg) (record : ctx.aoipMode = aoipModeRecord)
    (s : MainState) (pass : MainPass) (running : pass.stop = false)
    (passed : ptpPass s.ptp pass.poll = .next (ptpPass s.ptp pass.poll).state)
    (waiting : queueEmpty (pass.audio s.queue) = false) (refused : pass.rtpSend = .again) :
    mainPass ctx msg s pass = .next (refusedState ctx s pass) := by
  have stage := rtp_stage_record record (received s pass (ptpPass s.ptp pass.poll).state) pass
  have branch := record_branch_again waiting s.tstamp
    (freshTstamp ctx (ptpPass s.ptp pass.poll).state)
  rw [refused] at stage
  unfold received at stage
  dsimp only at stage
  rw [branch] at stage
  rw [main_pass_again running passed (by rw [received, stage]), received, stage]
  simp [refusedState, received]

/-! ## Refused attempts and the one that succeeds -/

def attempts (first : MainPass) : List MainPass → List MainPass
  | [] => [{ first with rtpSend := .sent }]
  | following :: rest => { first with rtpSend := .again } :: attempts following rest

def freshTstamps (ctx : AoipCtx) (ptp : PtpState) : List MainPass → List UInt32
  | [] => []
  | pass :: rest =>
      let after := (ptpPass ptp pass.poll).state
      freshTstamp ctx after :: freshTstamps ctx after rest

/-- The loop is in record mode and keeps running through all the passes, a packet
waits in the first, and the audio thread does nothing but publish afterwards. -/
structure Attempting (ctx : AoipCtx) (s : MainState) (first : MainPass) (further : List MainPass) :
    Prop where
  record : ctx.aoipMode = aoipModeRecord
  running : ∀ pass ∈ first :: further, pass.stop = false
  heard : ∃ ptp, run ptpPass s.ptp ((first :: further).map MainPass.poll) = .next ptp
  waiting : queueEmpty (first.audio s.queue) = false
  publishing : ∀ pass ∈ further, ∀ queue, Publishes queue (pass.audio queue)

/-- The packet at the tail of `queue` has been sent with the timestamp `stamp`. -/
structure Delivered (queue : AoipQueue) (s final : MainState) (stamp : UInt32) : Prop where
  counted : final.tstamp = stamp
  sent : final.rtpSent = s.rtpSent ++ [stampedDatagram stamp (queue.slotAt queue.tail.toNat)]
  released : Publishes (queueReadNext queue) final.queue

theorem heard_first {ptp final : PtpState} {poll : PtpPoll} {rest : List PtpPoll}
    (heard : run ptpPass ptp (poll :: rest) = .next final) :
    ptpPass ptp poll = .next (ptpPass ptp poll).state ∧
      run ptpPass (ptpPass ptp poll).state rest = .next final := by
  rw [run] at heard
  cases outcome : ptpPass ptp poll with
  | next after =>
      rw [outcome] at heard
      exact ⟨rfl, heard⟩
  | leave failure after => simp [outcome] at heard

theorem accepted_delivers {ctx : AoipCtx} (msg : SapMsg) {s : MainState} {pass : MainPass}
    (attempting : Attempting ctx s pass []) :
    Delivered (pass.audio s.queue) s (mainPass ctx msg s { pass with rtpSend := .sent }).state
      (nextTstamp s.tstamp (freshTstamp ctx (ptpPass s.ptp pass.poll).state)) := by
  obtain ⟨final, heard⟩ := attempting.heard
  have running := attempting.running pass List.mem_cons_self
  have left := sent_pass_sender msg attempting.record s { pass with rtpSend := .sent } running
    (heard_first heard).1 attempting.waiting rfl
  constructor
  · exact congrArg SenderPart.tstamp left
  · exact congrArg SenderPart.rtpSent left
  · rw [show (mainPass ctx msg s { pass with rtpSend := .sent }).state.queue = _ from
      congrArg SenderPart.queue left]
    exact publishes_released_store attempting.waiting _ _

theorem attempting_further {ctx : AoipCtx} {s : MainState} {first following : MainPass}
    {rest : List MainPass} (attempting : Attempting ctx s first (following :: rest)) :
    Attempting ctx (refusedState ctx s first) following rest := by
  obtain ⟨final, heard⟩ := attempting.heard
  have publishes := attempting.publishing following List.mem_cons_self
    (refusedState ctx s first).queue
  constructor
  · exact attempting.record
  · intro pass member
    exact attempting.running pass (List.mem_cons_of_mem _ member)
  · exact ⟨final, (heard_first heard).2⟩
  · exact (publishes_oldest publishes attempting.waiting).1
  · intro pass member
    exact attempting.publishing pass (List.mem_cons_of_mem _ member)

/-- By induction on the refused attempts: each leaves a queue from which the same
packet is sent, stamped by a counter one step further. -/
theorem attempts_deliver {ctx : AoipCtx} (msg : SapMsg) {s : MainState} {first : MainPass}
    {further : List MainPass} (attempting : Attempting ctx s first further) :
    Delivered (first.audio s.queue) s (run (mainPass ctx msg) s (attempts first further)).state
      ((freshTstamps ctx s.ptp (first :: further)).foldl nextTstamp s.tstamp) := by
  induction further generalizing s first with
  | nil =>
      rw [attempts, run_single]
      exact accepted_delivers msg attempting
  | cons following rest ih =>
      obtain ⟨final, heard⟩ := attempting.heard
      have running := attempting.running first List.mem_cons_self
      have step : mainPass ctx msg s { first with rtpSend := .again } =
          .next (refusedState ctx s first) :=
        refused_pass_step msg attempting.record s { first with rtpSend := .again } running
          (heard_first heard).1 attempting.waiting rfl
      have publishes := attempting.publishing following List.mem_cons_self
        (refusedState ctx s first).queue
      have delivered := ih (attempting_further attempting)
      have oldest := (publishes_oldest publishes attempting.waiting).2
      have stamped : (refusedState ctx s first).queue.slotAt
          (refusedState ctx s first).queue.tail.toNat = stampedSlot _ _ :=
        tail_slot_written (first.audio s.queue) _
          (stamped_slot_size (refusedState ctx s first).tstamp)
      rw [attempts, run_next step, freshTstamps, List.foldl_cons]
      constructor
      · exact delivered.counted
      · rw [delivered.sent, oldest, stamped, stamped_again]
        rfl
      · have unread := publishes_released_store attempting.waiting
          (stampedSlot (refusedState ctx s first).tstamp)
          (stamped_slot_size (refusedState ctx s first).tstamp)
        have released := publishes_release publishes attempting.waiting
        exact publishes_trans unread (publishes_trans released delivered.released)

/-! ## Two runs compared -/

/-- The datagrams of the next attempts, all of them accepted, with what the clock
gives for each. -/
def sendNext (queue : AoipQueue) (tstamp : UInt32) : List UInt32 → List Bytes
  | [] => []
  | fresh :: rest =>
      let result := recordBranch queue tstamp fresh .sent
      result.sent ++ sendNext result.queue result.tstamp rest

theorem publishes_stamp {before after : AoipQueue} (publishes : Publishes before after)
    (waiting : queueEmpty before = false) (stamp : UInt32) :
    Publishes (stampTail stamp before) (stampTail stamp after) := by
  have oldest := (publishes_oldest publishes waiting).2
  have tails : after.tail.toNat = before.tail.toNat := by rw [publishes.tail]
  constructor
  · exact publishes.tail
  · exact publishes.added
  · intro index member
    by_cases same : index = before.tail.toNat
    · have written := tail_slot_written after (stampedSlot stamp) (stamped_slot_size stamp)
      have original := tail_slot_written before (stampedSlot stamp) (stamped_slot_size stamp)
      have stamped := congrArg (stampedSlot stamp) oldest
      rw [← written, ← original] at stamped
      change (stampTail stamp after).slotAt after.tail.toNat =
        (stampTail stamp before).slotAt before.tail.toNat at stamped
      rw [same]
      rwa [tails] at stamped
    · unfold stampTail
      rw [slot_at_modify_other _ _ _ _ _ same,
        slot_at_modify_other _ _ _ _ _ (by rwa [tails])]
      exact publishes.kept index member

theorem send_next_publishes {before after : AoipQueue} (publishes : Publishes before after)
    (tstamp : UInt32) (freshes : List UInt32) (enough : freshes.length ≤ (held before).length) :
    sendNext after tstamp freshes = sendNext before tstamp freshes := by
  induction freshes generalizing before after tstamp with
  | nil => rfl
  | cons fresh rest ih =>
      have waiting : queueEmpty before = false := by
        obtain ⟨oldest, member⟩ := List.exists_mem_of_length_pos
          (Nat.lt_of_lt_of_le (Nat.succ_pos _) enough)
        exact held_waiting member
      obtain ⟨present, oldest⟩ := publishes_oldest publishes waiting
      have left := publishes_release (publishes_stamp publishes waiting (nextTstamp tstamp fresh))
        waiting
      have shorter : rest.length ≤
          (held (queueReadNext (stampTail (nextTstamp tstamp fresh) before))).length := by
        have count : (held before).length = (held (queueReadNext before)).length + 1 := by
          rw [held_release waiting, List.length_cons]
        have same : held (queueReadNext (stampTail (nextTstamp tstamp fresh) before)) =
            held (queueReadNext before) := rfl
        rw [List.length_cons] at enough
        rw [same]
        omega
      rw [sendNext, sendNext, record_branch_sent waiting, record_branch_sent present]
      dsimp only
      rw [oldest, ih left _ shorter]

/-- The state after the refused attempts and the accepted one, against that after
an accepted first attempt. -/
structure RetryAtomic (ctx : AoipCtx) (msg : SapMsg) (s : MainState) (first : MainPass)
    (further : List MainPass) : Prop where
  datagram : (run (mainPass ctx msg) s (attempts first further)).state.rtpSent =
    (run (mainPass ctx msg) s (attempts first [])).state.rtpSent
  tstamp : (run (mainPass ctx msg) s (attempts first further)).state.tstamp =
    (run (mainPass ctx msg) s (attempts first [])).state.tstamp
  tail : (run (mainPass ctx msg) s (attempts first further)).state.queue.tail =
    (run (mainPass ctx msg) s (attempts first [])).state.queue.tail
  next : ∀ freshes, freshes.length < (held (first.audio s.queue)).length →
    sendNext (run (mainPass ctx msg) s (attempts first further)).state.queue
        (run (mainPass ctx msg) s (attempts first further)).state.tstamp freshes =
      sendNext (run (mainPass ctx msg) s (attempts first [])).state.queue
        (run (mainPass ctx msg) s (attempts first [])).state.tstamp freshes

theorem attempting_alone {ctx : AoipCtx} {s : MainState} {first : MainPass}
    {further : List MainPass} (attempting : Attempting ctx s first further) :
    Attempting ctx s first [] := by
  obtain ⟨final, heard⟩ := attempting.heard
  constructor
  · exact attempting.record
  · intro pass member
    rw [List.mem_singleton.mp member]
    exact attempting.running first List.mem_cons_self
  · exact ⟨_, (run_single ptpPass s.ptp first.poll).trans (heard_first heard).1⟩
  · exact attempting.waiting
  · intro pass member
    cases member

theorem retry_atomic_counter {ctx : AoipCtx} (msg : SapMsg) {s : MainState} {first : MainPass}
    {further : List MainPass} (attempting : Attempting ctx s first further) :
    RetryAtomic ctx msg s first further ↔
      (freshTstamps ctx s.ptp (first :: further)).foldl nextTstamp s.tstamp =
        nextTstamp s.tstamp (freshTstamp ctx (ptpPass s.ptp first.poll).state) := by
  have retried := attempts_deliver msg attempting
  have alone := attempts_deliver msg (attempting_alone attempting)
  have once : (freshTstamps ctx s.ptp [first]).foldl nextTstamp s.tstamp =
      nextTstamp s.tstamp (freshTstamp ctx (ptpPass s.ptp first.poll).state) := rfl
  rw [once] at alone
  constructor
  · intro atomic
    rw [← retried.counted, ← alone.counted]
    exact atomic.tstamp
  · intro returned
    rw [returned] at retried
    constructor
    · rw [retried.sent, alone.sent]
    · rw [retried.counted, alone.counted]
    · rw [retried.released.tail, alone.released.tail]
    · intro freshes fewer
      have enough : freshes.length ≤ (held (queueReadNext (first.audio s.queue))).length := by
        rw [held_release attempting.waiting, List.length_cons] at fewer
        omega
      rw [retried.counted, alone.counted, send_next_publishes retried.released _ _ enough,
        send_next_publishes alone.released _ _ enough]

/-! ## When the counter comes back -/

/-- What the clock gives for attempt number `attempt`; the first has number zero. -/
def clockAt (ctx : AoipCtx) (ptp : PtpState) (passes : List MainPass) (attempt : Nat) : Nat :=
  ((freshTstamps ctx ptp passes).getD attempt 0).toNat

theorem fresh_tstamps_length (ctx : AoipCtx) (ptp : PtpState) (passes : List MainPass) :
    (freshTstamps ctx ptp passes).length = passes.length := by
  induction passes generalizing ptp with
  | nil => rfl
  | cons pass rest ih => rw [freshTstamps, List.length_cons, ih, List.length_cons]

/-- The runs agree exactly if the timestamp of the first attempt, which is that of `tstamp`
before it or of the clock, comes back in the attempt that succeeds. That is a matter of
the number of refused attempts and of what the clock gives at some of them. -/
theorem retry_atomic_iff {ctx : AoipCtx} (msg : SapMsg) {s : MainState} {first : MainPass}
    {further : List MainPass} (attempting : Attempting ctx s first further) :
    let clock := clockAt ctx s.ptp (first :: further)
    RetryAtomic ctx msg s first further ↔
      CounterReturns (firstStamp s.tstamp.toNat clock) clock further.length := by
  intro clock
  have stamp : (nextTstamp s.tstamp (freshTstamp ctx (ptpPass s.ptp first.poll).state)).toNat =
      firstStamp s.tstamp.toNat clock := next_tstamp_nat _ _
  have counted := fold_is_counter
    (nextTstamp s.tstamp (freshTstamp ctx (ptpPass s.ptp first.poll).state))
    (freshTstamps ctx (ptpPass s.ptp first.poll).state further) clock (by
      intro attempt fresh found
      change ((_ :: freshTstamps ctx _ further).getD (attempt + 1) 0).toNat = _
      rw [List.getD_cons_succ, List.getD_eq_getElem?_getD, found]
      rfl)
  rw [fresh_tstamps_length, stamp] at counted
  rw [retry_atomic_counter msg attempting, ← counter_returns_iff, ← counted, ← stamp,
    UInt32.toNat_inj]
  rfl

/-! A packet of 300 bytes is published before the first attempt. -/

def sampleAttempt (reading : NsTime) : MainPass :=
  { quietPass false reading with
    audio := fun queue => queueWriteNext (queue.setLen queue.head.toNat 300) }

def sampleClock : Nat → Nat :=
  clockAt (sampleAoipCtx aoipModeRecord) sampleMainStart.ptp
    [sampleAttempt 1364320000, quietPass false 1364330000, quietPass false 1364340000]

/-- The first timestamp is 65488; the second is 0, and 1364.34 ms are 65488 samples. -/
theorem sample_retry_returns :
    RetryAtomic (sampleAoipCtx aoipModeRecord) sampleAnnouncement
      { sampleMainStart with tstamp := 65440 } (sampleAttempt 1364320000)
      [quietPass false 1364330000, quietPass false 1364340000] := by
  have attempting : Attempting (sampleAoipCtx aoipModeRecord)
      { sampleMainStart with tstamp := 65440 } (sampleAttempt 1364320000)
      [quietPass false 1364330000, quietPass false 1364340000] := by
    refine ⟨rfl, by decide +kernel, ⟨_, rfl⟩, by decide +kernel, ?_⟩
    intro pass member queue
    have idle : pass.audio queue = queue := by
      rcases List.mem_cons.mp member with rfl | later
      · rfl
      · rw [List.mem_singleton.mp later]
        rfl
    rw [idle]
    exact publishes_refl queue
  apply (retry_atomic_iff sampleAnnouncement attempting).mpr
  change CounterReturns 65488 sampleClock 2
  have reads : ReadsClock 65488 sampleClock 2 := .first (by decide)
  have reading : sampleClock 2 = 65488 := by decide +kernel
  exact .inr (.inr ⟨2, le_rfl, reads, fun attempt inside _ => inside, .inl ⟨rfl, reading⟩⟩)

/-- At the start of the loop and a millisecond on the clock: the first attempt is stamped
48, the second 96. -/
theorem sample_retry_restamped :
    (run (mainPass (sampleAoipCtx aoipModeRecord) sampleAnnouncement) sampleMainStart
        (attempts (sampleAttempt 1000500) [])).state.rtpSent.map rtpTimestamp = [48] ∧
      (run (mainPass (sampleAoipCtx aoipModeRecord) sampleAnnouncement) sampleMainStart
        (attempts (sampleAttempt 1000500) [quietPass false 1001000])).state.rtpSent.map
          rtpTimestamp = [96] ∧
      ¬RetryAtomic (sampleAoipCtx aoipModeRecord) sampleAnnouncement sampleMainStart
        (sampleAttempt 1000500) [quietPass false 1001000] := by
  have alone : (run (mainPass (sampleAoipCtx aoipModeRecord) sampleAnnouncement) sampleMainStart
      (attempts (sampleAttempt 1000500) [])).state.rtpSent.map rtpTimestamp = [48] := by
    decide +kernel
  have retried : (run (mainPass (sampleAoipCtx aoipModeRecord) sampleAnnouncement) sampleMainStart
      (attempts (sampleAttempt 1000500) [quietPass false 1001000])).state.rtpSent.map
        rtpTimestamp = [96] := by
    decide +kernel
  refine ⟨alone, retried, ?_⟩
  intro atomic
  rw [atomic.datagram, alone] at retried
  cases retried

end AoipCore.Network
