import AoipCore.Network.Branches

/-!
# The synchronisation source of a record-mode stream

`aoip_queue_init` reads the clock once for each of the 512 slots and stores the
reading as the SSRC of that slot; no later store reaches these four bytes.
Packet number `n` leaves from slot `n % 512`, so it carries the reading that
was made for this slot. The packet length is any that has room for the 288 bytes
of a tone packet behind the header.
-/

namespace AoipCore.Network

open ByteBuffer RingFifo AoipCore.Host AoipCore.Timer AoipCore.Rtp AoipCore.Queue AoipCore.Record

set_option autoImplicit false

def ProducerFills (q : AoipQueue) : ProducerPc → Prop
  | .idle => True
  | .roomFound slot => slot = q.head.toNat ∧ queueFull q = false
  | .lenSet slot =>
      slot = q.head.toNat ∧ queueFull q = false ∧ (q.slotAt q.head.toNat).len = q.dataLen
  | .seqSet slot =>
      slot = q.head.toNat ∧ queueFull q = false ∧ (q.slotAt q.head.toNat).len = q.dataLen
  | .filling slot _ =>
      slot = q.head.toNat ∧ queueFull q = false ∧ (q.slotAt q.head.toNat).len = q.dataLen
  | .counted _ => queueFull q = false ∧ (q.slotAt q.head.toNat).len = q.dataLen

structure SourceInvariant (time : Nat → UInt32) (s : RecordState) (released : Nat) : Prop where
  roomy : 300 ≤ s.queue.dataLen.toNat
  sources : ∀ index < dataQueueSlotNum, rtpSsrc (s.queue.slotAt index).data = time index
  holds : Holds s.queue QueueSlot.len (s.produced.map fun _ => s.queue.dataLen) released
  position : s.queue.tail.toNat = released % dataQueueSlotNum
  progress : s.sent.length = released + unreleased s.sender
  carried : ∀ index datagram, s.sent[index]? = some datagram →
    rtpSsrc datagram = time (index % dataQueueSlotNum)
  producer : ProducerFills s.queue s.producer
  sender : SenderKnows s.queue s.sender

theorem source_start {packetLength : UInt16} (roomy : 300 ≤ packetLength.toNat)
    (time : Nat → UInt32) :
    SourceInvariant time (recordStart (emptyQueue packetLength time)) 0 := by
  refine ⟨roomy, ?_, holds_empty packetLength time QueueSlot.len, rfl, rfl, by simp [recordStart],
    trivial, trivial⟩
  intro index inside
  rw [recordStart, empty_queue_slot_inside packetLength time inside, freshSlot]
  apply build_rtp_hdr_ssrc
  rw [List.length_replicate, rtpHdrSize]
  omega

/-! ## Stores of either thread -/

section Stores

variable {time : Nat → UInt32} {s : RecordState} {released : Nat}

theorem sources_store {q : AoipQueue} (same : ∀ index < dataQueueSlotNum,
      rtpSsrc (q.slotAt index).data = time index)
    {index : Nat} (inside : index < dataQueueSlotNum) (change : QueueSlot → QueueSlot)
    (keeps : ∀ each, (change each).data.length = each.data.length)
    (untouched : ∀ each, slice (change each).data 8 4 = slice each.data 8 4) :
    ∀ other < dataQueueSlotNum,
      rtpSsrc ((q.modify index change keeps).slotAt other).data = time other := by
  have kept := (rtp_ssrc_congr (untouched (q.slotAt index))).trans (same index inside)
  exact each_slot_store (fun index slot => index < dataQueueSlotNum →
    rtpSsrc slot.data = time index) same inside change keeps fun _ => kept

theorem producer_source_store (invariant : SourceInvariant time s released)
    (change : QueueSlot → QueueSlot)
    (keeps : ∀ each, (change each).data.length = each.data.length)
    (untouched : ∀ each, slice (change each).data 8 4 = slice each.data 8 4) (pc : ProducerPc)
    (fills : ProducerFills (s.queue.modify s.queue.head.toNat change keeps) pc) :
    SourceInvariant time
      { s with queue := s.queue.modify s.queue.head.toNat change keeps, producer := pc }
      released where
  roomy := invariant.roomy
  sources := sources_store invariant.sources s.queue.headIn change keeps untouched
  holds := holds_store invariant.holds _ _ keeps s.queue.headIn (.inl (head_not_held s.queue))
  position := invariant.position
  progress := invariant.progress
  carried := invariant.carried
  producer := fills
  sender := sender_knows_publishes invariant.sender (publishes_store s.queue change keeps)

theorem producer_fills_releases {q after : AoipQueue} {pc : ProducerPc}
    (fills : ProducerFills q pc) (releases : Releases q after) : ProducerFills after pc := by
  have room := releases.room
  cases pc with
  | idle => trivial
  | roomFound slot =>
      rw [ProducerFills, releases.head]
      exact ⟨fills.1, room fills.2⟩
  | lenSet slot =>
      rw [ProducerFills, releases.slot, releases.head, releases.sized]
      exact ⟨fills.1, room fills.2.1, fills.2.2⟩
  | seqSet slot =>
      rw [ProducerFills, releases.slot, releases.head, releases.sized]
      exact ⟨fills.1, room fills.2.1, fills.2.2⟩
  | filling slot written =>
      rw [ProducerFills, releases.slot, releases.head, releases.sized]
      exact ⟨fills.1, room fills.2.1, fills.2.2⟩
  | counted written =>
      rw [ProducerFills, releases.slot, releases.sized]
      exact ⟨room fills.1, fills.2⟩

theorem sender_source_store (invariant : SourceInvariant time s released)
    (waiting : queueEmpty s.queue = false) (change : QueueSlot → Bytes)
    (keeps : ∀ each, (change each).length = each.data.length)
    (untouched : ∀ each, slice (change each) 8 4 = slice each.data 8 4) (tstamp : UInt32)
    (pc : SenderPc) (same : unreleased pc = unreleased s.sender)
    (knows : SenderKnows (s.queue.patch s.queue.tail.toNat change keeps) pc) :
    SourceInvariant time
      { s with
        tstamp := tstamp
        queue := s.queue.patch s.queue.tail.toNat change keeps
        sender := pc }
      released where
  roomy := invariant.roomy
  sources := sources_store invariant.sources s.queue.tailIn _ keeps untouched
  holds := holds_store invariant.holds _ _ keeps s.queue.tailIn (.inr rfl)
  position := invariant.position
  progress := by rw [same, ← invariant.progress]
  carried := invariant.carried
  producer := producer_fills_releases invariant.producer (releases_store waiting _ keeps)
  sender := knows

end Stores

/-! ## Every step keeps the sources -/

theorem producer_step_source {time : Nat → UInt32} {s : RecordState} {released : Nat}
    (invariant : SourceInvariant time s released) (reading : NsTime) (byte : UInt8) :
    SourceInvariant time (producerStep s reading byte) released := by
  have fills := invariant.producer
  unfold producerStep
  cases pc : s.producer with
  | idle =>
      dsimp only
      split_ifs with room
      · exact { invariant with producer := ⟨rfl, by simpa using room⟩ }
      · exact invariant
  | roomFound slot =>
      rw [pc] at fills
      obtain ⟨rfl, room⟩ := fills
      refine producer_source_store invariant _ _ ?_ _ ?_
      · exact fun _ => rfl
      refine ⟨rfl, room, ?_⟩
      rw [head_slot_written]
      rfl
  | lenSet slot =>
      rw [pc] at fills
      obtain ⟨rfl, room, len⟩ := fills
      refine producer_source_store invariant _ _ ?_ _ ?_
      · exact fun _ => rfl
      refine ⟨rfl, room, ?_⟩
      rw [head_slot_written]
      exact len
  | seqSet slot =>
      rw [pc] at fills
      obtain ⟨rfl, room, len⟩ := fills
      refine producer_source_store invariant _ _ ?_ _ ?_
      · exact fun _ => rfl
      refine ⟨rfl, room, ?_⟩
      rw [head_slot_written]
      exact len
  | filling slot written =>
      rw [pc] at fills
      obtain ⟨rfl, room, len⟩ := fills
      dsimp only
      split_ifs
      · refine producer_source_store invariant _ _ ?_ _ ?_
        · intro each
          apply slice_write_outside
          left
          rw [queueRtpHdrOffset]
          omega
        · refine ⟨rfl, room, ?_⟩
          rw [head_slot_written]
          exact len
      · exact { invariant with producer := ⟨room, len⟩ }
  | counted written =>
      rw [pc] at fills
      obtain ⟨room, len⟩ := fills
      have published := holds_publish invariant.holds room
      rw [len] at published
      refine { invariant with
        holds := ?_
        producer := trivial
        sender := sender_knows_publishes invariant.sender (publishes_next room) }
      rw [List.map_append]
      exact published

/-- The slot at `tail` is sent with its whole header. -/
theorem oldest_carries_source {time : Nat → UInt32} {s : RecordState} {released : Nat}
    (invariant : SourceInvariant time s released) (waiting : queueEmpty s.queue = false) :
    rtpSsrc ((s.queue.slotAt s.queue.tail.toNat).data.take
      (s.queue.slotAt s.queue.tail.toNat).len.toNat) = time (released % dataQueueSlotNum) := by
  have oldest := holds_oldest invariant.holds waiting
  obtain ⟨payload, -, len⟩ := List.mem_map.mp (List.mem_of_getElem? oldest)
  have roomy := invariant.roomy
  rw [← len, ← invariant.position, ← invariant.sources _ s.queue.tailIn]
  apply rtp_ssrc_congr
  apply slice_take
  omega

theorem sender_step_source {time : Nat → UInt32} {s : RecordState} {released : Nat}
    (invariant : SourceInvariant time s released) (fresh : UInt32) (outcome : SendResult) :
    ∃ released, SourceInvariant time (senderStep s fresh outcome) released := by
  have knows := invariant.sender
  have progress := invariant.progress
  unfold senderStep
  cases pc : s.sender with
  | idle =>
      rw [pc] at progress
      dsimp only
      split_ifs with waiting
      · exact ⟨released, { invariant with
          progress := progress
          sender := ⟨rfl, by simpa using waiting⟩ }⟩
      · exact ⟨released, invariant⟩
  | found slot =>
      rw [pc] at knows
      obtain ⟨rfl, waiting⟩ := knows
      exact ⟨released, sender_source_store invariant waiting _ _
        (fun _ => put_timestamp_outside _ _ _ _ (.inr (by decide))) _ _ (by rw [pc]; rfl)
        ⟨rfl, waiting⟩⟩
  | stamped slot fresh =>
      rw [pc] at knows
      obtain ⟨rfl, waiting⟩ := knows
      refine ⟨released, sender_source_store invariant waiting _ _
        (fun _ => put_sequence_outside _ _ _ _ (.inr (by decide))) _ _ (by rw [pc]; rfl)
        ⟨rfl, waiting, ?_⟩⟩
      have room : 4 ≤ (s.queue.slotAt s.queue.tail.toNat).data.length := by
        have roomy := invariant.roomy
        rw [slot_at_data_length]
        omega
      rw [AoipQueue.patch, tail_slot_written]
      exact put_sequence_sequence _ _ room
  | sequenced slot fresh =>
      rw [pc] at knows progress
      obtain ⟨rfl, waiting, -⟩ := knows
      cases outcome with
      | again => exact ⟨released, { invariant with progress := progress, sender := trivial }⟩
      | failed => exact ⟨released, { invariant with progress := progress, sender := trivial }⟩
      | sent =>
          have source := oldest_carries_source invariant waiting
          have count : s.sent.length = released := progress
          refine ⟨released, { invariant with
            progress := ?_
            carried := ?_
            sender := waiting }⟩
          · rw [List.length_append, count]
            rfl
          · intro index datagram present
            rcases log_entry_cases present with earlier | ⟨rfl, rfl⟩
            · exact invariant.carried index datagram earlier
            · rw [count]
              exact source
  | delivered =>
      rw [pc] at knows progress
      refine ⟨released + 1, { invariant with
        holds := holds_release invariant.holds knows
        position := ?_
        progress := progress
        producer := producer_fills_releases invariant.producer (releases_next knows)
        sender := trivial }⟩
      change ((s.queue.tail + 1) &&& s.queue.mask).toNat = _
      rw [masked_next _ _ s.queue.tailIn s.queue.maskIs, invariant.position, next,
        Nat.mod_add_mod]
  | stopped => exact ⟨released, invariant⟩

theorem record_run_source {time : Nat → UInt32} {s : RecordState} {released : Nat}
    (invariant : SourceInvariant time s released) (schedule : List RecordAction) :
    ∃ released, SourceInvariant time (recordRun s schedule) released := by
  unfold recordRun
  apply List.foldlRecOn (motive := fun s => ∃ released, SourceInvariant time s released) schedule _
    ⟨released, invariant⟩
  rintro s ⟨released, invariant⟩ action -
  cases action with
  | producer reading byte => exact ⟨released, producer_step_source invariant reading byte⟩
  | sender fresh outcome => exact sender_step_source invariant fresh outcome

/-! ## Runs of any length -/

/-- Both threads are between two calls, and the queue is empty. -/
structure AtRest (s : RecordState) : Prop where
  producer : s.producer = .idle
  sender : s.sender = .idle
  empty : s.queue.head = s.queue.tail

/-- While the producer fills its slot, it leaves the indices and the sender alone. -/
structure SameRing (s after : RecordState) : Prop where
  head : after.queue.head = s.queue.head
  tail : after.queue.tail = s.queue.tail
  mask : after.queue.mask = s.queue.mask
  sender : after.sender = s.sender
  sent : after.sent = s.sent

theorem run_append (s : RecordState) (first second : List RecordAction) :
    recordRun s (first ++ second) = recordRun (recordRun s first) second :=
  List.foldl_append

theorem filling_completes (slot count : Nat) (s : RecordState) (written : Bytes)
    (filling : s.producer = .filling slot written) (left : written.length + count = tonePayloadSize) :
    ∃ bytes, (recordRun s (List.replicate count (.producer 0 0))).producer = .filling slot bytes ∧
      bytes.length = tonePayloadSize ∧
      SameRing s (recordRun s (List.replicate count (.producer 0 0))) := by
  induction count generalizing s written with
  | zero => exact ⟨written, filling, left, rfl, rfl, rfl, rfl, rfl⟩
  | succ count ih =>
      have more : written.length < tonePayloadSize := by omega
      have step : producerStep s 0 0 =
          { s with
            queue := s.queue.put slot (queueRtpHdrOffset + written.length) [0]
            producer := .filling slot (written ++ [0]) } := by
        simp only [producerStep, filling, if_pos more]
      obtain ⟨bytes, done, full, ring⟩ := ih (producerStep s 0 0) (written ++ [0])
        (by rw [step]) (by rw [List.length_append, List.length_singleton]; omega)
      rw [List.replicate_succ]
      refine ⟨bytes, done, full, ?_⟩
      have before : SameRing s (producerStep s 0 0) := by
        rw [step]
        exact ⟨rfl, rfl, rfl, rfl, rfl⟩
      exact ⟨ring.head.trans before.head, ring.tail.trans before.tail, ring.mask.trans before.mask,
        ring.sender.trans before.sender, ring.sent.trans before.sent⟩

theorem producer_publishes {s : RecordState} (idle : s.producer = .idle)
    (room : queueFull s.queue = false) :
    ∃ schedule, (recordRun s schedule).producer = .idle ∧
      (recordRun s schedule).sender = s.sender ∧ (recordRun s schedule).sent = s.sent ∧
      (recordRun s schedule).queue.tail = s.queue.tail ∧
      (recordRun s schedule).queue.head = (s.queue.head + 1) &&& s.queue.mask ∧
      (recordRun s schedule).queue.mask = s.queue.mask := by
  have opening : ∃ slot, (recordRun s (List.replicate 4 (.producer 0 0))).producer =
      .filling slot [] ∧ SameRing s (recordRun s (List.replicate 4 (.producer 0 0))) := by
    refine ⟨queueWritePtr s.queue, ?_, ?_⟩
    · simp [recordRun, recordStep, producerStep, idle, room, List.replicate_succ]
    · constructor <;>
        simp [recordRun, recordStep, producerStep, idle, room, List.replicate_succ,
          AoipQueue.setLen, AoipQueue.setSeq, AoipQueue.setTstamp, AoipQueue.modify]
  obtain ⟨slot, filling, first⟩ := opening
  obtain ⟨bytes, filled, full, second⟩ := filling_completes slot tonePayloadSize _ [] filling
    (Nat.zero_add _)
  rw [← run_append] at filled second
  refine ⟨List.replicate 4 (.producer 0 0) ++ List.replicate tonePayloadSize (.producer 0 0) ++
    List.replicate 2 (.producer 0 0), ?_⟩
  generalize List.replicate 4 (RecordAction.producer 0 0) ++
    List.replicate tonePayloadSize (RecordAction.producer 0 0) = schedule at filled second ⊢
  rw [run_append]
  generalize recordRun s schedule = now at filled second ⊢
  have counted : producerStep now 0 0 =
      { now with audioSeq := (now.audioSeq + 1) &&& 0xffff, producer := .counted bytes } := by
    simp only [producerStep, filled, if_neg (show ¬bytes.length < tonePayloadSize by omega)]
  have steps : recordRun now (List.replicate 2 (.producer 0 0)) =
      producerStep (producerStep now 0 0) 0 0 := rfl
  rw [steps, counted]
  refine ⟨rfl, second.sender.trans first.sender, second.sent.trans first.sent,
    second.tail.trans first.tail, ?_, second.mask.trans first.mask⟩
  change (now.queue.head + 1) &&& now.queue.mask = _
  rw [second.head, second.mask, first.head, first.mask]

theorem sender_releases {s : RecordState} (idle : s.sender = .idle)
    (waiting : queueEmpty s.queue = false) :
    ∃ schedule, (recordRun s schedule).producer = s.producer ∧
      (recordRun s schedule).sender = .idle ∧
      (recordRun s schedule).sent.length = s.sent.length + 1 ∧
      (recordRun s schedule).queue.head = s.queue.head ∧
      (recordRun s schedule).queue.tail = (s.queue.tail + 1) &&& s.queue.mask := by
  obtain ⟨count, after, run, queue, -, sent, producer, sender⟩ :=
    record_branch_steps s idle 0 .sent
  have passes : (!queueEmpty s.queue) = true := by rw [waiting]; rfl
  simp only [recordBranch, if_pos passes] at queue sent sender
  refine ⟨List.replicate count (.sender 0 .sent), ?_⟩
  rw [run, queue, sent, producer, sender, List.length_append]
  exact ⟨rfl, rfl, rfl, rfl, rfl⟩

theorem one_more_sent {s : RecordState} (rest : AtRest s) :
    ∃ schedule, AtRest (recordRun s schedule) ∧
      (recordRun s schedule).sent.length = s.sent.length + 1 := by
  have room := empty_not_full rest.empty
  obtain ⟨first, idle, sender, sent, tail, head, mask⟩ := producer_publishes rest.producer room
  have waiting : queueEmpty (recordRun s first).queue = false := by
    rw [queueEmpty, head, tail]
    exact room
  obtain ⟨second, producerIdle, senderIdle, count, sameHead, nextTail⟩ :=
    sender_releases (sender.trans rest.sender) waiting
  refine ⟨first ++ second, ?_⟩
  rw [run_append]
  refine ⟨⟨producerIdle.trans idle, senderIdle, ?_⟩, ?_⟩
  · rw [sameHead, nextTail, head, tail, mask, rest.empty]
  · rw [count, sent]

theorem many_sent {s : RecordState} (rest : AtRest s) (count : Nat) :
    ∃ schedule, AtRest (recordRun s schedule) ∧
      (recordRun s schedule).sent.length = s.sent.length + count := by
  induction count with
  | zero => exact ⟨[], rest, rfl⟩
  | succ count ih =>
      obtain ⟨first, resting, sent⟩ := ih
      obtain ⟨second, again, more⟩ := one_more_sent resting
      refine ⟨first ++ second, ?_⟩
      rw [run_append]
      exact ⟨again, by rw [more, sent]; rfl⟩

def SingleSource (sent : List Bytes) : Prop :=
  ∀ first ∈ sent, ∀ second ∈ sent, rtpSsrc first = rtpSsrc second

/-- Every record-mode run, in every interleaving, has one source exactly if the
clock stood still, as a 32-bit number of seconds, while the slots were set up. -/
theorem single_source_iff (slots : Bool) (data : Nat → Bool) (packetLength : UInt16)
    (time : Nat → UInt32) (queue : AoipQueue) (roomy : 300 ≤ packetLength.toNat)
    (created : aoipQueueInit slots data packetLength time = some queue) :
    (∀ schedule, SingleSource (recordRun (recordStart queue) schedule).sent) ↔
      ∀ first < dataQueueSlotNum, ∀ second < dataQueueSlotNum, time first = time second := by
  unfold aoipQueueInit at created
  split_ifs at created
  obtain rfl := Option.some.inj created
  have start := source_start roomy time
  constructor
  · intro single
    -- a run that has used every slot compares each of them with the first
    obtain ⟨schedule, -, count⟩ := many_sent
      (⟨rfl, rfl, rfl⟩ : AtRest (recordStart (emptyQueue packetLength time))) dataQueueSlotNum
    obtain ⟨released, invariant⟩ := record_run_source start schedule
    have one := single schedule
    generalize recordRun (recordStart (emptyQueue packetLength time)) schedule = s
      at invariant count one
    have all : s.sent.length = dataQueueSlotNum := count.trans (Nat.zero_add _)
    intro first firstInside second secondInside
    have source : ∀ (index : Nat) (inside : index < s.sent.length),
        rtpSsrc s.sent[index] = time (index % dataQueueSlotNum) := fun index inside =>
      invariant.carried index _ (List.getElem?_eq_getElem inside)
    have same := one s.sent[first] (List.getElem_mem (by omega)) s.sent[second]
      (List.getElem_mem (by omega))
    rw [source, source, Nat.mod_eq_of_lt firstInside, Nat.mod_eq_of_lt secondInside] at same
    exact same
  · intro steady schedule first firstSent second secondSent
    obtain ⟨released, invariant⟩ := record_run_source start schedule
    obtain ⟨index, found⟩ := List.mem_iff_getElem?.mp firstSent
    obtain ⟨other, otherFound⟩ := List.mem_iff_getElem?.mp secondSent
    rw [invariant.carried index first found, invariant.carried other second otherFound]
    exact steady _ (Nat.mod_lt _ (by decide)) _ (Nat.mod_lt _ (by decide))

theorem sample_single_source :
    aoipQueueInit true (fun _ => true) 300 (fun _ => 0) = some sampleQueue ∧
      ∀ schedule, SingleSource (recordRun (recordStart sampleQueue) schedule).sent := by
  refine ⟨sample_queue_created, ?_⟩
  have steady : ∀ first < dataQueueSlotNum, ∀ second < dataQueueSlotNum,
      (fun _ => 0 : Nat → UInt32) first = (fun _ => 0 : Nat → UInt32) second := fun _ _ _ _ => rfl
  exact (single_source_iff true (fun _ => true) 300 (fun _ => 0) sampleQueue (by decide)
    sample_queue_created).mpr steady

/-- The second turned after the first slot was set up. -/
def sampleTurning (index : Nat) : UInt32 := if index = 0 then 1311738121 else 1311738122

theorem sample_two_sources :
    (recordRun (recordStart (emptyQueue 300 sampleTurning)) (sampleTwo 1000)).sent.map rtpSsrc =
      [1311738121, 1311738122] := by
  decide +kernel

end AoipCore.Network
