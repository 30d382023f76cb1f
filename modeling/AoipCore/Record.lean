import AoipCore.Library.MachineInt
import AoipCore.Queue

/-!
# The record pipeline

The audio thread runs `tonegen_ao_write`, the network thread the
`AOIP_MODE_RECORD` branch of `network_loop`. As in playback each step is one
access to shared memory. Three parties store into a slot: the header is built
when the queue is set up, the producer fills the payload, and the sender
patches the sequence number and the timestamp of the slot at `tail`, possibly
again and again while `sendto` reports `EAGAIN`.
-/

namespace AoipCore.Record

open ByteBuffer MachineInt AoipCore.Host AoipCore.Timer AoipCore.Rtp AoipCore.Queue

set_option autoImplicit false

/-- The packet length under `tonegen_config`: `AUDIO_FORMAT_L24`,
`AUDIO_CHANNEL_STEREO`, 48 kHz and a packet time of 1000. -/
def tonegenPacketLength : Option UInt16 := rtpPacketLength 24 2 48000 1000

def tonePayloadSize : Nat := 288

inductive ProducerPc where
  | idle
  | roomFound (slot : Nat)
  | lenSet (slot : Nat)
  | seqSet (slot : Nat)
  | filling (slot : Nat) (written : Bytes)
  | counted (written : Bytes)
  deriving DecidableEq, Repr

/-- `fresh` is the value `ns_to_rtp_tstamp` gives, or would have given, for
this attempt. -/
inductive SenderPc where
  | idle
  | found (slot : Nat)
  | stamped (slot : Nat) (fresh : UInt32)
  | sequenced (slot : Nat) (fresh : UInt32)
  | delivered
  | stopped
  deriving DecidableEq, Repr

/-- `produced` logs the payloads in the order they were published, `sent` the
datagrams `sendto` accepted and `offered` the value of `fresh` for each. -/
structure RecordState where
  queue : AoipQueue
  audioSeq : UInt16
  tstamp : UInt32
  producer : ProducerPc
  sender : SenderPc
  produced : List Bytes
  sent : List Bytes
  offered : List UInt32
  deriving DecidableEq

def recordStart (queue : AoipQueue) : RecordState where
  queue := queue
  audioSeq := 0
  tstamp := 0
  producer := .idle
  sender := .idle
  produced := []
  sent := []
  offered := []

/-- One step of `tonegen_ao_write`; `byte` is what the tone generator gives. -/
def producerStep (s : RecordState) (reading : NsTime) (byte : UInt8) : RecordState :=
  match s.producer with
  | .idle =>
      if !queueFull s.queue then { s with producer := .roomFound (queueWritePtr s.queue) } else s
  | .roomFound slot =>
      { s with queue := s.queue.setLen slot s.queue.dataLen, producer := .lenSet slot }
  | .lenSet slot =>
      { s with queue := s.queue.setSeq slot s.audioSeq, producer := .seqSet slot }
  | .seqSet slot =>
      { s with queue := s.queue.setTstamp slot reading, producer := .filling slot [] }
  | .filling slot written =>
      if written.length < tonePayloadSize then
        { s with
          queue := s.queue.put slot (queueRtpHdrOffset + written.length) [byte]
          producer := .filling slot (written ++ [byte]) }
      else { s with audioSeq := (s.audioSeq + 1) &&& 0xffff, producer := .counted written }
  | .counted written =>
      { s with
        queue := queueWriteNext s.queue
        producer := .idle
        produced := s.produced ++ [written] }

/-- The new value of `tstamp`; zero also means that it was never set. -/
def nextTstamp (tstamp fresh : UInt32) : UInt32 :=
  if tstamp ≠ 0 then (tstamp + 48) &&& 0xffff else fresh

/-- One step of the sender; `outcome` is what `sendto` reports. -/
def senderStep (s : RecordState) (fresh : UInt32) (outcome : SendResult) : RecordState :=
  match s.sender with
  | .idle =>
      if !queueEmpty s.queue then { s with sender := .found (queueReadPtr s.queue) } else s
  | .found slot =>
      { s with
        tstamp := nextTstamp s.tstamp fresh
        queue := s.queue.patch slot
          (fun each => putTimestamp each.data (nextTstamp s.tstamp fresh))
          (fun _ => put_timestamp_length _ _)
        sender := .stamped slot fresh }
  | .stamped slot fresh =>
      { s with
        queue := s.queue.patch slot (fun each => putSequence each.data each.seq)
          (fun _ => put_sequence_length _ _)
        sender := .sequenced slot fresh }
  | .sequenced slot fresh =>
      match outcome with
      | .sent =>
          { s with
            sender := .delivered
            sent := s.sent ++
              [(s.queue.slotAt slot).data.take (s.queue.slotAt slot).len.toNat]
            offered := s.offered ++ [fresh] }
      | .again => { s with sender := .idle }
      | .failed => { s with sender := .stopped }
  | .delivered => { s with queue := queueReadNext s.queue, sender := .idle }
  | .stopped => s

inductive RecordAction where
  | producer (reading : NsTime) (byte : UInt8)
  | sender (fresh : UInt32) (outcome : SendResult)
  deriving DecidableEq, Repr

def recordStep (s : RecordState) : RecordAction → RecordState
  | .producer reading byte => producerStep s reading byte
  | .sender fresh outcome => senderStep s fresh outcome

def recordRun (s : RecordState) (schedule : List RecordAction) : RecordState :=
  schedule.foldl recordStep s

/-! ## What each thread relies on -/

structure Item where
  len : UInt16
  seq : UInt16
  front : Bytes
  payload : Bytes
  deriving DecidableEq, Repr

def slotItem (slot : QueueSlot) : Item where
  len := slot.len
  seq := slot.seq
  front := slice slot.data 0 2
  payload := slice slot.data queueRtpHdrOffset tonePayloadSize

/-- RTP version 2 without options, and payload type 98. -/
def hdrFront : Bytes := [0x80, 98]

def itemOf (index : Nat) (payload : Bytes) : Item where
  len := 300
  seq := UInt16.ofNat index
  front := hdrFront
  payload := payload

def items (produced : List Bytes) : List Item := produced.mapIdx itemOf

/-- What the producer knows at each point, `count` packets having been
published. -/
def ProducerKnows (q : AoipQueue) (audioSeq : UInt16) (count : Nat) : ProducerPc → Prop
  | .idle => audioSeq = UInt16.ofNat count
  | .roomFound slot => audioSeq = UInt16.ofNat count ∧ slot = q.head.toNat ∧ queueFull q = false
  | .lenSet slot =>
      audioSeq = UInt16.ofNat count ∧ slot = q.head.toNat ∧ queueFull q = false ∧
        (q.slotAt q.head.toNat).len = 300
  | .seqSet slot =>
      audioSeq = UInt16.ofNat count ∧ slot = q.head.toNat ∧ queueFull q = false ∧
        (q.slotAt q.head.toNat).len = 300 ∧ (q.slotAt q.head.toNat).seq = UInt16.ofNat count
  | .filling slot written =>
      audioSeq = UInt16.ofNat count ∧ slot = q.head.toNat ∧ queueFull q = false ∧
        (q.slotAt q.head.toNat).len = 300 ∧ (q.slotAt q.head.toNat).seq = UInt16.ofNat count ∧
        written.length ≤ tonePayloadSize ∧
        slice (q.slotAt q.head.toNat).data queueRtpHdrOffset written.length = written
  | .counted written =>
      audioSeq = UInt16.ofNat (count + 1) ∧ queueFull q = false ∧
        slotItem (q.slotAt q.head.toNat) = itemOf count written

def SenderKnows (q : AoipQueue) : SenderPc → Prop
  | .idle => True
  | .found slot => slot = q.tail.toNat ∧ queueEmpty q = false
  | .stamped slot _ => slot = q.tail.toNat ∧ queueEmpty q = false
  | .sequenced slot _ =>
      slot = q.tail.toNat ∧ queueEmpty q = false ∧
        rtpSequence (q.slotAt q.tail.toNat).data = (q.slotAt q.tail.toNat).seq
  | .delivered => queueEmpty q = false
  | .stopped => True

def unreleased : SenderPc → Nat
  | .delivered => 1
  | _ => 0

/-- The datagram that carries packet number `index`. -/
structure Datagram (index : Nat) (payload datagram : Bytes) : Prop where
  size : datagram.length = 300
  version : rtpVersion datagram = 2
  payloadType : rtpPayloadType datagram = 98
  sequence : rtpSequence datagram = UInt16.ofNat index
  payload : datagram.drop rtpHdrSize = payload

structure RecordInvariant (s : RecordState) (released : Nat) : Prop where
  sized : s.queue.dataLen = 300
  front : ∀ index, slice (s.queue.slotAt index).data 0 2 = hdrFront
  holds : Holds s.queue slotItem (items s.produced) released
  progress : s.sent.length = released + unreleased s.sender
  delivered : ∀ index datagram, s.sent[index]? = some datagram →
    ∃ payload, s.produced[index]? = some payload ∧ Datagram index payload datagram
  producer : ProducerKnows s.queue s.audioSeq s.produced.length s.producer
  sender : SenderKnows s.queue s.sender

/-! The other thread's steps leave these facts alone. -/

theorem producer_knows_releases {q after : AoipQueue} {audioSeq : UInt16} {count : Nat}
    {pc : ProducerPc} (knows : ProducerKnows q audioSeq count pc) (releases : Releases q after) :
    ProducerKnows after audioSeq count pc := by
  have room := releases.room
  cases pc with
  | idle => exact knows
  | roomFound slot =>
      rw [ProducerKnows, releases.head]
      exact ⟨knows.1, knows.2.1, room knows.2.2⟩
  | lenSet slot =>
      rw [ProducerKnows, releases.slot, releases.head]
      exact ⟨knows.1, knows.2.1, room knows.2.2.1, knows.2.2.2⟩
  | seqSet slot =>
      rw [ProducerKnows, releases.slot, releases.head]
      exact ⟨knows.1, knows.2.1, room knows.2.2.1, knows.2.2.2⟩
  | filling slot written =>
      rw [ProducerKnows, releases.slot, releases.head]
      exact ⟨knows.1, knows.2.1, room knows.2.2.1, knows.2.2.2⟩
  | counted written =>
      rw [ProducerKnows, releases.slot]
      exact ⟨knows.1, room knows.2.1, knows.2.2⟩

theorem sender_knows_publishes {q after : AoipQueue} {pc : SenderPc} (knows : SenderKnows q pc)
    (publishes : Publishes q after) : SenderKnows after pc := by
  cases pc with
  | idle => trivial
  | found slot =>
      rw [SenderKnows, publishes.tail]
      exact ⟨knows.1, (publishes_oldest publishes knows.2).1⟩
  | stamped slot fresh =>
      rw [SenderKnows, publishes.tail]
      exact ⟨knows.1, (publishes_oldest publishes knows.2).1⟩
  | sequenced slot fresh =>
      obtain ⟨waiting, oldest⟩ := publishes_oldest publishes knows.2.1
      rw [SenderKnows, oldest, publishes.tail]
      exact ⟨knows.1, waiting, knows.2.2⟩
  | delivered => exact (publishes_oldest publishes knows).1
  | stopped => trivial

/-! ## The invariant is kept by every step -/

theorem front_store {q : AoipQueue} {front : Bytes}
    (same : ∀ index, slice (q.slotAt index).data 0 2 = front) {index : Nat}
    (inside : index < dataQueueSlotNum) (change : QueueSlot → QueueSlot)
    (keeps : ∀ each, (change each).data.length = each.data.length)
    (untouched : ∀ each, slice (change each).data 0 2 = slice each.data 0 2) :
    ∀ other, slice ((q.modify index change keeps).slotAt other).data 0 2 = front :=
  each_slot_store (fun _ slot => slice slot.data 0 2 = front) same inside change keeps
    ((untouched _).trans (same index))

theorem record_start_invariant (slots : Bool) (data : Nat → Bool) (packetLength : UInt16)
    (time : Nat → UInt32) (queue : AoipQueue)
    (configured : tonegenPacketLength = some packetLength)
    (created : aoipQueueInit slots data packetLength time = some queue) :
    RecordInvariant (recordStart queue) 0 := by
  have length : packetLength = 300 :=
    Option.some.inj (configured.symm.trans (by decide : tonegenPacketLength = some 300))
  subst length
  unfold aoipQueueInit at created
  split_ifs at created
  obtain rfl := Option.some.inj created
  have fresh : ∀ ssrc, slice (freshSlot 300 ssrc).data 0 2 = hdrFront := by
    intro ssrc
    apply build_rtp_hdr_front
    rw [List.length_replicate]
    exact Nat.le_of_ble_eq_true rfl
  refine ⟨rfl, ?_, holds_empty 300 time slotItem, rfl, by simp [recordStart], rfl, trivial⟩
  intro index
  obtain ⟨ssrc, initial⟩ := empty_queue_slot_at 300 time index
  rw [recordStart, initial, fresh]

theorem producer_store {s : RecordState} {released : Nat} (invariant : RecordInvariant s released)
    (change : QueueSlot → QueueSlot)
    (keeps : ∀ each, (change each).data.length = each.data.length)
    (untouched : ∀ each, slice (change each).data 0 2 = slice each.data 0 2) (pc : ProducerPc)
    (knows : ProducerKnows (s.queue.modify s.queue.head.toNat change keeps) s.audioSeq
      s.produced.length pc) :
    RecordInvariant
      { s with queue := s.queue.modify s.queue.head.toNat change keeps, producer := pc }
      released where
  sized := invariant.sized
  front := front_store invariant.front s.queue.headIn change keeps untouched
  holds := holds_store invariant.holds _ _ keeps s.queue.headIn (.inl (head_not_held s.queue))
  progress := invariant.progress
  delivered := invariant.delivered
  producer := knows
  sender := sender_knows_publishes invariant.sender (publishes_store s.queue change keeps)

theorem filled_item {slot : QueueSlot} {count : Nat} {written : Bytes} (len : slot.len = 300)
    (seq : slot.seq = UInt16.ofNat count) (front : slice slot.data 0 2 = hdrFront)
    (full : written.length = tonePayloadSize)
    (stored : slice slot.data queueRtpHdrOffset written.length = written) :
    slotItem slot = itemOf count written := by
  unfold slotItem itemOf
  rw [len, seq, front, ← full, stored]

theorem producer_step_invariant {s : RecordState} {released : Nat}
    (invariant : RecordInvariant s released) (reading : NsTime) (byte : UInt8) :
    RecordInvariant (producerStep s reading byte) released := by
  have knows := invariant.producer
  unfold producerStep
  cases pc : s.producer with
  | idle =>
      rw [pc] at knows
      dsimp only
      split_ifs with room
      · exact ⟨invariant.sized, invariant.front, invariant.holds, invariant.progress,
          invariant.delivered, ⟨knows, rfl, by simpa using room⟩, invariant.sender⟩
      · exact invariant
  | roomFound slot =>
      rw [pc] at knows
      obtain ⟨seq, rfl, room⟩ := knows
      refine producer_store invariant _ _ ?_ _ ?_
      · exact fun _ => rfl
      refine ⟨seq, rfl, room, ?_⟩
      rw [head_slot_written]
      exact invariant.sized
  | lenSet slot =>
      rw [pc] at knows
      obtain ⟨seq, rfl, room, len⟩ := knows
      refine producer_store invariant _ _ ?_ _ ?_
      · exact fun _ => rfl
      refine ⟨seq, rfl, room, ?_, ?_⟩
      · rw [head_slot_written]
        exact len
      · rw [head_slot_written]
        exact seq
  | seqSet slot =>
      rw [pc] at knows
      obtain ⟨seq, rfl, room, len, slotSeq⟩ := knows
      refine producer_store invariant _ _ ?_ _ ?_
      · exact fun _ => rfl
      refine ⟨seq, rfl, room, ?_, ?_, Nat.zero_le _, rfl⟩
      · rw [head_slot_written]
        exact len
      · rw [head_slot_written]
        exact slotSeq
  | filling slot written =>
      rw [pc] at knows
      obtain ⟨seq, rfl, room, len, slotSeq, bounded, stored⟩ := knows
      dsimp only
      split_ifs with more
      · refine producer_store invariant _ _ ?_ _ ?_
        · intro each
          apply slice_write_outside
          left
          simp only [queueRtpHdrOffset]
          omega
        · refine ⟨seq, rfl, room, ?_, ?_, ?_, ?_⟩
          · rw [head_slot_written]
            exact len
          · rw [head_slot_written]
            exact slotSeq
          · rw [List.length_append]
            exact more
          · have fits : queueRtpHdrOffset + written.length <
                (s.queue.slotAt s.queue.head.toNat).data.length := by
              rw [slot_at_data_length, invariant.sized]
              exact Nat.add_lt_add_left more queueRtpHdrOffset
            rw [head_slot_written, List.length_append, List.length_singleton,
              slice_write_next _ _ _ _ fits, stored]
      · have full : written.length = tonePayloadSize := by omega
        refine ⟨invariant.sized, invariant.front, invariant.holds, invariant.progress,
          invariant.delivered, ⟨?_, room, ?_⟩, invariant.sender⟩
        · rw [masked_word16, seq, UInt16.ofNat_add]
          rfl
        · exact filled_item len slotSeq (invariant.front _) full stored
  | counted written =>
      rw [pc] at knows
      obtain ⟨seq, room, item⟩ := knows
      refine ⟨invariant.sized, invariant.front, ?_, invariant.progress, ?_, ?_,
        sender_knows_publishes invariant.sender (publishes_next room)⟩
      · have published := holds_publish invariant.holds room
        rwa [item, items, ← List.mapIdx_concat] at published
      · intro index datagram found
        obtain ⟨payload, present, carried⟩ := invariant.delivered index datagram found
        refine ⟨payload, ?_, carried⟩
        rw [List.getElem?_append_left (List.getElem?_eq_some_iff.mp present).1, present]
      · rw [ProducerKnows, List.length_append]
        exact seq

/-- The sender finds the slots that wait for it as they were. -/
theorem producer_step_publishes {s : RecordState} {released : Nat}
    (invariant : RecordInvariant s released) (reading : NsTime) (byte : UInt8) :
    Publishes s.queue (producerStep s reading byte).queue := by
  have knows := invariant.producer
  unfold producerStep
  cases pc : s.producer with
  | idle =>
      dsimp only
      split_ifs <;> exact publishes_refl s.queue
  | roomFound slot =>
      rw [pc] at knows
      rw [knows.2.1]
      apply publishes_store
      exact fun _ => rfl
  | lenSet slot =>
      rw [pc] at knows
      rw [knows.2.1]
      apply publishes_store
      exact fun _ => rfl
  | seqSet slot =>
      rw [pc] at knows
      rw [knows.2.1]
      apply publishes_store
      exact fun _ => rfl
  | filling slot written =>
      rw [pc] at knows
      rw [knows.2.1]
      dsimp only
      split_ifs
      · exact publishes_store s.queue _ fun _ => write_at_length _ _ _
      · exact publishes_refl s.queue
  | counted written =>
      rw [pc] at knows
      exact publishes_next knows.2.1

theorem producer_run_publishes {s : RecordState} {released : Nat}
    (invariant : RecordInvariant s released) (steps : List (NsTime × UInt8)) :
    Publishes s.queue
      (recordRun s (steps.map fun step => .producer step.1 step.2)).queue := by
  induction steps generalizing s with
  | nil => exact publishes_refl s.queue
  | cons step rest ih =>
      exact publishes_trans (producer_step_publishes invariant step.1 step.2)
        (ih (producer_step_invariant invariant step.1 step.2))

theorem sender_store {s : RecordState} {released : Nat} (invariant : RecordInvariant s released)
    (waiting : queueEmpty s.queue = false) (change : QueueSlot → Bytes)
    (keeps : ∀ each, (change each).length = each.data.length)
    (unseen : ∀ each : QueueSlot, slotItem { each with data := change each } = slotItem each)
    (tstamp : UInt32) (pc : SenderPc) (same : unreleased pc = unreleased s.sender)
    (knows : SenderKnows (s.queue.patch s.queue.tail.toNat change keeps) pc) :
    RecordInvariant
      { s with
        tstamp := tstamp
        queue := s.queue.patch s.queue.tail.toNat change keeps
        sender := pc }
      released where
  sized := invariant.sized
  front := front_store invariant.front s.queue.tailIn _ keeps
    fun each => congrArg Item.front (unseen each)
  holds := holds_store invariant.holds _ _ keeps s.queue.tailIn (.inr (unseen _))
  progress := by rw [same, ← invariant.progress]
  delivered := invariant.delivered
  producer := producer_knows_releases invariant.producer (releases_store waiting _ keeps)
  sender := knows

theorem put_timestamp_item (slot : QueueSlot) (timestamp : UInt32) :
    slotItem { slot with data := putTimestamp slot.data timestamp } = slotItem slot := by
  unfold slotItem
  rw [put_timestamp_outside _ _ _ _ (.inl (by decide)),
    put_timestamp_outside _ _ _ _ (.inr (by decide))]

theorem put_sequence_item (slot : QueueSlot) (sequence : UInt16) :
    slotItem { slot with data := putSequence slot.data sequence } = slotItem slot := by
  unfold slotItem
  rw [put_sequence_outside _ _ _ _ (.inl (by decide)),
    put_sequence_outside _ _ _ _ (.inr (by decide))]

/-- `sendto` is given the whole buffer of the slot. -/
theorem item_sent_whole {slot : QueueSlot} {index : Nat} {payload : Bytes}
    (sized : slot.data.length = 300) (item : slotItem slot = itemOf index payload) :
    slot.data.take slot.len.toNat = slot.data := by
  have len : slot.len = 300 := congrArg Item.len item
  rw [len]
  exact List.take_of_length_le sized.le

theorem datagram_of_item {slot : QueueSlot} {index : Nat} {payload : Bytes}
    (sized : slot.data.length = 300) (item : slotItem slot = itemOf index payload)
    (patched : rtpSequence slot.data = slot.seq) :
    Datagram index payload (slot.data.take slot.len.toNat) := by
  have seq : slot.seq = UInt16.ofNat index := congrArg Item.seq item
  have front : slice slot.data 0 2 = hdrFront := congrArg Item.front item
  have stored : slice slot.data queueRtpHdrOffset tonePayloadSize = payload :=
    congrArg Item.payload item
  have byte : ∀ position, position < 2 → slot.data[position]? = hdrFront[position]? := by
    intro position inside
    rw [← front, slice_get _ _ _ _ inside, Nat.zero_add]
  rw [item_sent_whole sized item]
  refine ⟨sized, ?_, ?_, patched.trans seq, ?_⟩
  · rw [rtpVersion, field8, List.getD_eq_getElem?_getD, byte 0 (by decide)]
    rfl
  · rw [rtpPayloadType, field8, List.getD_eq_getElem?_getD, byte 1 (by decide)]
    rfl
  · rw [← stored, slice, List.take_of_length_le]
    · rfl
    · rw [List.length_drop, sized]
      decide

theorem slot_size {s : RecordState} {released : Nat} (invariant : RecordInvariant s released)
    (index : Nat) : (s.queue.slotAt index).data.length = 300 := by
  rw [slot_at_data_length, invariant.sized]
  rfl

theorem oldest_item {s : RecordState} {released : Nat} (invariant : RecordInvariant s released)
    (waiting : queueEmpty s.queue = false) :
    ∃ payload, s.produced[released]? = some payload ∧
      slotItem (s.queue.slotAt s.queue.tail.toNat) = itemOf released payload := by
  have oldest := holds_oldest invariant.holds waiting
  rw [items, List.getElem?_mapIdx] at oldest
  obtain ⟨payload, found, item⟩ := Option.map_eq_some_iff.mp oldest
  exact ⟨payload, found, item.symm⟩

theorem sender_step_invariant {s : RecordState} {released : Nat}
    (invariant : RecordInvariant s released) (fresh : UInt32) (outcome : SendResult) :
    ∃ released, RecordInvariant (senderStep s fresh outcome) released := by
  have knows := invariant.sender
  have progress := invariant.progress
  unfold senderStep
  cases pc : s.sender with
  | idle =>
      dsimp only
      split_ifs with waiting
      · refine ⟨released, invariant.sized, invariant.front, invariant.holds, ?_,
          invariant.delivered, invariant.producer, ⟨rfl, by simpa using waiting⟩⟩
        rwa [pc] at progress
      · exact ⟨released, invariant⟩
  | found slot =>
      rw [pc] at knows
      obtain ⟨rfl, waiting⟩ := knows
      exact ⟨released, sender_store invariant waiting _ _ (fun _ => put_timestamp_item _ _) _ _
        (by rw [pc]; rfl) ⟨rfl, waiting⟩⟩
  | stamped slot fresh =>
      rw [pc] at knows
      obtain ⟨rfl, waiting⟩ := knows
      refine ⟨released, sender_store invariant waiting _ _ (fun _ => put_sequence_item _ _) _ _
        (by rw [pc]; rfl) ⟨rfl, waiting, ?_⟩⟩
      have room : 4 ≤ (s.queue.slotAt s.queue.tail.toNat).data.length := by
        rw [slot_size invariant]
        decide
      rw [AoipQueue.patch, tail_slot_written]
      exact put_sequence_sequence _ _ room
  | sequenced slot fresh =>
      rw [pc] at knows progress
      obtain ⟨rfl, waiting, patched⟩ := knows
      cases outcome with
      | again =>
          exact ⟨released, invariant.sized, invariant.front, invariant.holds, progress,
            invariant.delivered, invariant.producer, trivial⟩
      | failed =>
          exact ⟨released, invariant.sized, invariant.front, invariant.holds, progress,
            invariant.delivered, invariant.producer, trivial⟩
      | sent =>
          obtain ⟨payload, found, item⟩ := oldest_item invariant waiting
          have sized := slot_size invariant s.queue.tail.toNat
          have carried := datagram_of_item sized item patched
          have count : s.sent.length = released := progress
          refine ⟨released, invariant.sized, invariant.front, invariant.holds, ?_, ?_,
            invariant.producer, waiting⟩
          · rw [List.length_append, count]
            rfl
          · intro index datagram present
            rcases RingFifo.log_entry_cases present with earlier | ⟨rfl, rfl⟩
            · exact invariant.delivered index datagram earlier
            · rw [count]
              exact ⟨payload, found, carried⟩
  | delivered =>
      rw [pc] at knows progress
      refine ⟨released + 1, invariant.sized, invariant.front,
        holds_release invariant.holds knows, progress, invariant.delivered,
        producer_knows_releases invariant.producer (releases_next knows), trivial⟩
  | stopped => exact ⟨released, invariant⟩

theorem record_run_invariant {queue : AoipQueue}
    (start : RecordInvariant (recordStart queue) 0) (schedule : List RecordAction) :
    ∃ released, RecordInvariant (recordRun (recordStart queue) schedule) released := by
  unfold recordRun
  apply List.foldlRecOn (motive := fun s => ∃ released, RecordInvariant s released) schedule _
    ⟨0, start⟩
  rintro s ⟨released, invariant⟩ action -
  cases action with
  | producer reading byte => exact ⟨released, producer_step_invariant invariant reading byte⟩
  | sender fresh outcome => exact sender_step_invariant invariant fresh outcome

/-- In every interleaving and for every pattern of send failures the datagrams
sent carry the packets produced, in order and without gap or repeat, packet
number `index` under the sequence number it was produced with. -/
theorem record_sends_in_order (slots : Bool) (data : Nat → Bool) (packetLength : UInt16)
    (time : Nat → UInt32) (queue : AoipQueue)
    (configured : tonegenPacketLength = some packetLength)
    (created : aoipQueueInit slots data packetLength time = some queue)
    (schedule : List RecordAction) :
    let s := recordRun (recordStart queue) schedule
    (∀ index datagram, s.sent[index]? = some datagram →
      ∃ payload, s.produced[index]? = some payload ∧ Datagram index payload datagram) ∧
    (∀ slot, s.producer = .lenSet slot → s.audioSeq = UInt16.ofNat s.produced.length) := by
  obtain ⟨released, invariant⟩ := record_run_invariant
    (record_start_invariant slots data packetLength time queue configured created) schedule
  refine ⟨invariant.delivered, ?_⟩
  intro slot numbering
  have knows := invariant.producer
  rw [numbering] at knows
  exact knows.1

/-- One packet of silence: the steps of one call of `tonegen_ao_write`. -/
def samplePacket : List RecordAction := List.replicate 294 (.producer 0 0)

def sampleSend (fresh : UInt32) : List RecordAction := List.replicate 5 (.sender fresh .sent)

def sampleQueue : AoipQueue := emptyQueue 300 fun _ => 0

theorem sample_queue_created : aoipQueueInit true (fun _ => true) 300 (fun _ => 0) = some sampleQueue := by
  simp [aoipQueueInit, sampleQueue]

theorem sample_record_sends_in_order :
    let s := recordRun (recordStart sampleQueue) (samplePacket ++ sampleSend 7)
    s.sent.length = 1 ∧ ∀ index datagram, s.sent[index]? = some datagram →
      ∃ payload, s.produced[index]? = some payload ∧ Datagram index payload datagram :=
  ⟨by decide +kernel, (record_sends_in_order true (fun _ => true) 300 (fun _ => 0) sampleQueue
    (by decide) sample_queue_created (samplePacket ++ sampleSend 7)).1⟩

/-! ## RTP timestamps -/

/-- The timestamp of the last datagram sent; `tstamp` starts at zero. -/
def lastTimestamp (sent : List Bytes) : UInt32 := (sent.getLast?.map rtpTimestamp).getD 0

/-- `tstamp` against the datagrams sent, when no send has met `EAGAIN`. -/
def TstampKnows (q : AoipQueue) (tstamp : UInt32) (sent : List Bytes) : SenderPc → Prop
  | .idle => tstamp = lastTimestamp sent
  | .found _ => tstamp = lastTimestamp sent
  | .stamped _ fresh =>
      tstamp = nextTstamp (lastTimestamp sent) fresh ∧
        rtpTimestamp (q.slotAt q.tail.toNat).data = tstamp
  | .sequenced _ fresh =>
      tstamp = nextTstamp (lastTimestamp sent) fresh ∧
        rtpTimestamp (q.slotAt q.tail.toNat).data = tstamp
  | .delivered => tstamp = lastTimestamp sent
  | .stopped => True

/-- Each datagram's timestamp is computed from that of the one before. -/
structure TstampInvariant (s : RecordState) : Prop where
  logged : s.offered.length = s.sent.length
  stepped : ∀ index earlier later fresh, s.sent[index]? = some earlier →
    s.sent[index + 1]? = some later → s.offered[index + 1]? = some fresh →
    rtpTimestamp later = nextTstamp (rtpTimestamp earlier) fresh
  current : TstampKnows s.queue s.tstamp s.sent s.sender

/-- The producer's steps change nothing that the sender's timestamps rest on. -/
theorem producer_step_frame {s : RecordState} {released : Nat}
    (invariant : RecordInvariant s released) (reading : NsTime) (byte : UInt8) :
    let after := producerStep s reading byte
    after.sent = s.sent ∧ after.offered = s.offered ∧ after.tstamp = s.tstamp ∧
      after.sender = s.sender ∧
      (queueEmpty s.queue = false →
        after.queue.slotAt after.queue.tail.toNat = s.queue.slotAt s.queue.tail.toNat) := by
  have publishes := producer_step_publishes invariant reading byte
  have own : (producerStep s reading byte).sent = s.sent ∧
      (producerStep s reading byte).offered = s.offered ∧
      (producerStep s reading byte).tstamp = s.tstamp ∧
      (producerStep s reading byte).sender = s.sender := by
    unfold producerStep
    cases s.producer with
    | idle => dsimp only; split_ifs <;> exact ⟨rfl, rfl, rfl, rfl⟩
    | roomFound slot => exact ⟨rfl, rfl, rfl, rfl⟩
    | lenSet slot => exact ⟨rfl, rfl, rfl, rfl⟩
    | seqSet slot => exact ⟨rfl, rfl, rfl, rfl⟩
    | filling slot written => dsimp only; split_ifs <;> exact ⟨rfl, rfl, rfl, rfl⟩
    | counted written => exact ⟨rfl, rfl, rfl, rfl⟩
  exact ⟨own.1, own.2.1, own.2.2.1, own.2.2.2, fun waiting =>
    (publishes_oldest publishes waiting).2⟩

theorem producer_step_tstamp {s : RecordState} {released : Nat}
    (invariant : RecordInvariant s released) (tstamps : TstampInvariant s) (reading : NsTime)
    (byte : UInt8) : TstampInvariant (producerStep s reading byte) := by
  obtain ⟨sent, offered, tstamp, sender, tail⟩ := producer_step_frame invariant reading byte
  have knows := invariant.sender
  have current := tstamps.current
  refine ⟨?_, ?_, ?_⟩
  · rw [offered, sent, tstamps.logged]
  · rw [offered, sent]
    exact tstamps.stepped
  · rw [sender, tstamp, sent]
    cases pc : s.sender with
    | idle => rwa [pc] at current
    | found slot => rwa [pc] at current
    | delivered => rwa [pc] at current
    | stopped => trivial
    | stamped slot fresh =>
        rw [pc] at current knows
        rw [TstampKnows, tail knows.2]
        exact current
    | sequenced slot fresh =>
        rw [pc] at current knows
        rw [TstampKnows, tail knows.2.1]
        exact current

theorem last_timestamp_append (sent : List Bytes) (datagram : Bytes) :
    lastTimestamp (sent ++ [datagram]) = rtpTimestamp datagram := by
  rw [lastTimestamp, List.getLast?_concat]
  rfl

theorem last_timestamp_get {sent : List Bytes} {index : Nat} {datagram : Bytes}
    (found : sent[index]? = some datagram) (last : sent.length = index + 1) :
    lastTimestamp sent = rtpTimestamp datagram := by
  rw [lastTimestamp, List.getLast?_eq_getElem?, last, Nat.add_sub_cancel, found]
  rfl

theorem sender_step_tstamp {s : RecordState} {released : Nat}
    (invariant : RecordInvariant s released) (tstamps : TstampInvariant s) (fresh : UInt32)
    (outcome : SendResult) (lasting : outcome ≠ .again) :
    TstampInvariant (senderStep s fresh outcome) := by
  have knows := invariant.sender
  have current := tstamps.current
  unfold senderStep
  cases pc : s.sender with
  | idle =>
      rw [pc] at current
      dsimp only
      split_ifs
      · exact ⟨tstamps.logged, tstamps.stepped, current⟩
      · exact tstamps
  | found slot =>
      rw [pc] at current knows
      obtain ⟨rfl, -⟩ := knows
      refine ⟨tstamps.logged, tstamps.stepped, ?_, ?_⟩
      · dsimp only
        rw [show s.tstamp = lastTimestamp s.sent from current]
      · have room : 8 ≤ (s.queue.slotAt s.queue.tail.toNat).data.length := by
          rw [slot_size invariant]
          decide
        dsimp only
        rw [AoipQueue.patch, tail_slot_written]
        exact put_timestamp_timestamp _ _ room
  | stamped slot fresh =>
      rw [pc] at current knows
      obtain ⟨rfl, -⟩ := knows
      refine ⟨tstamps.logged, tstamps.stepped, current.1, ?_⟩
      dsimp only
      rw [AoipQueue.patch, tail_slot_written]
      exact (put_sequence_timestamp _ _).trans current.2
  | sequenced slot fresh =>
      rw [pc] at current knows
      obtain ⟨rfl, waiting, -⟩ := knows
      cases outcome with
      | again => exact absurd rfl lasting
      | failed => exact ⟨tstamps.logged, tstamps.stepped, trivial⟩
      | sent =>
          obtain ⟨payload, -, item⟩ := oldest_item invariant waiting
          have whole := item_sent_whole (slot_size invariant s.queue.tail.toNat) item
          refine ⟨?_, ?_, ?_⟩
          · rw [List.length_append, List.length_append, tstamps.logged]
            rfl
          · intro index earlier later offered foundEarlier foundLater foundOffered
            dsimp only at foundEarlier foundLater foundOffered
            have bound := (List.getElem?_eq_some_iff.mp foundLater).1
            rw [List.length_append, List.length_singleton] at bound
            rw [List.getElem?_append_left (by omega)] at foundEarlier
            rcases Nat.lt_or_ge (index + 1) s.sent.length with inside | newest
            · rw [List.getElem?_append_left inside] at foundLater
              rw [List.getElem?_append_left (by rwa [tstamps.logged])] at foundOffered
              exact tstamps.stepped index earlier later offered foundEarlier foundLater foundOffered
            · have last : s.sent.length = index + 1 := by omega
              rw [← last, List.getElem?_concat_length] at foundLater
              rw [← last, ← tstamps.logged, List.getElem?_concat_length] at foundOffered
              obtain rfl := Option.some.inj foundLater
              obtain rfl := Option.some.inj foundOffered
              rw [whole, current.2, current.1, last_timestamp_get foundEarlier last]
          · rw [TstampKnows, last_timestamp_append, whole]
            exact current.2.symm
  | delivered =>
      rw [pc] at current
      exact ⟨tstamps.logged, tstamps.stepped, current⟩
  | stopped => exact tstamps

theorem record_run_tstamps {queue : AoipQueue} (start : RecordInvariant (recordStart queue) 0)
    (schedule : List RecordAction) (lasting : ∀ fresh, .sender fresh .again ∉ schedule) :
    (∃ released, RecordInvariant (recordRun (recordStart queue) schedule) released) ∧
      TstampInvariant (recordRun (recordStart queue) schedule) := by
  unfold recordRun
  apply List.foldlRecOn
    (motive := fun s => (∃ released, RecordInvariant s released) ∧ TstampInvariant s) schedule _
  · exact ⟨⟨0, start⟩, rfl, by simp [recordStart], rfl⟩
  · rintro s ⟨⟨released, invariant⟩, tstamps⟩ action scheduled
    cases action with
    | producer reading byte =>
        exact ⟨⟨released, producer_step_invariant invariant reading byte⟩,
          producer_step_tstamp invariant tstamps reading byte⟩
    | sender fresh outcome =>
        refine ⟨sender_step_invariant invariant fresh outcome, ?_⟩
        apply sender_step_tstamp invariant tstamps
        rintro rfl
        exact lasting fresh scheduled

/-- The next timestamp is 48 above this one: it has not reached 16 bits, or the
counter is zero and its new initial value happens to be 48. -/
def Continues (timestamp fresh : UInt32) : Prop :=
  (timestamp ≠ 0 ∧ (timestamp + 48).toNat < 2 ^ 16) ∨ (timestamp = 0 ∧ fresh = 48)

instance (timestamp fresh : UInt32) : Decidable (Continues timestamp fresh) :=
  inferInstanceAs (Decidable (_ ∨ _))

theorem masked_low_iff (value : UInt32) : value &&& 0xffff = value ↔ value.toNat < 2 ^ 16 := by
  have mask : (0xffff : UInt32).toNat = 2 ^ 16 - 1 := rfl
  rw [← UInt32.toNat_inj, UInt32.toNat_and, mask, Nat.and_two_pow_sub_one_eq_mod,
    Nat.mod_eq_iff_lt (by decide)]

theorem next_tstamp_continues_iff (timestamp fresh : UInt32) :
    nextTstamp timestamp fresh = timestamp + 48 ↔ Continues timestamp fresh := by
  unfold nextTstamp Continues
  by_cases unset : timestamp = 0
  · subst unset
    simp
  · rw [if_pos unset, masked_low_iff]
    simp [unset]

/-- Without `EAGAIN` the timestamp of every datagram after the first is 48
above the one before exactly when the masked counter neither wraps nor is taken
for uninitialised. -/
theorem timestamp_continues_iff (slots : Bool) (data : Nat → Bool) (packetLength : UInt16)
    (time : Nat → UInt32) (queue : AoipQueue)
    (configured : tonegenPacketLength = some packetLength)
    (created : aoipQueueInit slots data packetLength time = some queue)
    (schedule : List RecordAction) (lasting : ∀ fresh, .sender fresh .again ∉ schedule)
    (index : Nat) (earlier later : Bytes) (fresh : UInt32)
    (sentEarlier : (recordRun (recordStart queue) schedule).sent[index]? = some earlier)
    (sentLater : (recordRun (recordStart queue) schedule).sent[index + 1]? = some later)
    (offered : (recordRun (recordStart queue) schedule).offered[index + 1]? = some fresh) :
    rtpTimestamp later = rtpTimestamp earlier + 48 ↔ Continues (rtpTimestamp earlier) fresh := by
  have start := record_start_invariant slots data packetLength time queue configured created
  obtain ⟨-, tstamps⟩ := record_run_tstamps start schedule lasting
  rw [tstamps.stepped index earlier later fresh sentEarlier sentLater offered]
  exact next_tstamp_continues_iff _ fresh

def sampleTwo (fresh : UInt32) : List RecordAction :=
  samplePacket ++ samplePacket ++ sampleSend fresh ++ sampleSend fresh

def sampleSent (fresh : UInt32) : List Bytes :=
  (recordRun (recordStart sampleQueue) (sampleTwo fresh)).sent

theorem sample_two_lasting (fresh other : UInt32) : .sender other .again ∉ sampleTwo fresh := by
  simp only [sampleTwo, samplePacket, sampleSend, List.mem_append, List.mem_replicate,
    RecordAction.sender.injEq, reduceCtorEq, and_false, or_self, not_false_eq_true]

theorem sample_sent_get (index : Nat) (inside : index < 2) :
    (sampleSent 1000)[index]? = some ((sampleSent 1000).getD index []) := by
  have count : (sampleSent 1000).length = 2 := by decide +kernel
  rw [List.getD_eq_getElem?_getD, List.getElem?_eq_getElem (by rwa [count])]
  rfl

theorem sample_timestamp_continues :
    rtpTimestamp ((sampleSent 1000).getD 1 []) = rtpTimestamp ((sampleSent 1000).getD 0 []) + 48 ↔
      Continues (rtpTimestamp ((sampleSent 1000).getD 0 [])) 1000 :=
  timestamp_continues_iff true (fun _ => true) 300 (fun _ => 0) sampleQueue (by decide)
    sample_queue_created (sampleTwo 1000) (sample_two_lasting 1000) 0 _ _ 1000
    (sample_sent_get 0 (by decide)) (sample_sent_get 1 (by decide)) (by decide +kernel)

/-- A stream that starts at 65500 jumps back by 2 ^ 16 with its second packet. -/
theorem sample_timestamp_jumps :
    (∀ other, .sender other .again ∉ sampleTwo 65500) ∧
      (sampleSent 65500).map rtpTimestamp = [65500, 12] ∧ (12 : UInt32) ≠ 65500 + 48 :=
  ⟨sample_two_lasting 65500, by decide +kernel, by decide⟩

end AoipCore.Record
