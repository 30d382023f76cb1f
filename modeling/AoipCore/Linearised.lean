import AoipCore.Library.BoundedFifo
import AoipCore.Playback
import AoipCore.Record

/-!
# Both pipelines are a bounded queue

Seen from outside, the 512 slots and the two threads of either pipeline are a
queue of 511 places. An operation takes effect in one step: a packet is stored
when `head` moves and taken when `tail` moves; it is refused, or nothing is
found, at the test that says so. In between the other thread may do anything.
-/

namespace AoipCore.Queue

open RingFifo

set_option autoImplicit false

/-- One slot always stays empty. -/
def queueCapacity : Nat := dataQueueSlotNum - 1

theorem held_length (q : AoipQueue) :
    (held q).length = pending dataQueueSlotNum q.head.toNat q.tail.toNat := by
  rw [held, live, List.length_map, List.length_range]

theorem not_full_iff_room (q : AoipQueue) :
    queueFull q = false ↔ (held q).length < queueCapacity := by
  rw [not_full_iff, held_length, queueCapacity]
  have headIn := q.headIn
  have tailIn := q.tailIn
  rcases pending_cases headIn tailIn with count | count <;>
    rcases next_cases headIn with step | step <;> omega

theorem full_iff_capacity (q : AoipQueue) :
    queueFull q = true ↔ (held q).length = queueCapacity := by
  have room := not_full_iff_room q
  have around : pending dataQueueSlotNum q.head.toNat q.tail.toNat < dataQueueSlotNum :=
    Nat.mod_lt _ (by decide)
  rw [← held_length] at around
  have size : queueCapacity = dataQueueSlotNum - 1 := rfl
  cases full : queueFull q with
  | true =>
      rw [full] at room
      simp only [Bool.true_eq_false, false_iff] at room
      simp only [true_iff]
      omega
  | false =>
      have below := room.mp full
      simp only [Bool.false_eq_true, false_iff]
      omega

theorem held_empty {q : AoipQueue} (empty : queueEmpty q = true) : held q = [] := by
  cases contents : held q with
  | nil => rfl
  | cons index rest =>
      have member : index ∈ held q := by
        rw [contents]
        exact List.mem_cons_self
      rw [held_waiting member] at empty
      cases empty

end AoipCore.Queue

namespace AoipCore.Playback

open Linearise BoundedFifo ByteBuffer AoipCore.Queue AoipCore.Host AoipCore.Timer

set_option autoImplicit false

def heldBytes (q : AoipQueue) : List Bytes := (heldPackets q).map Packet.bytes

/-- The operation that takes effect in a step, with its answer. -/
def playbackEvent (s : PlaybackState) : PlaybackAction → Option (Event Bytes)
  | .network _ _ =>
      match s.network with
      | .received _ _ => if queueFull s.queue then some .refused else none
      | .counted datagram => some (.stored datagram)
      | _ => none
  | .reader =>
      match s.reader with
      | .idle => if queueEmpty s.queue then some .foundEmpty else none
      | .found _ => none
      | .reading _ _ len bytes => if bytes.length < len.toNat then none else some (.taken bytes)

theorem held_bytes_length (q : AoipQueue) : (heldBytes q).length = (held q).length := by
  rw [heldBytes, heldPackets, List.length_map, List.length_map]

theorem numbered_bytes (accepted : List Bytes) :
    (numbered accepted).map Packet.bytes = accepted := by
  apply List.ext_getElem?
  intro index
  rw [List.getElem?_map, numbered, List.getElem?_mapIdx, Option.map_map]
  cases accepted[index]? with
  | none => rfl
  | some datagram => rfl

theorem accepted_bytes {rtpPacketLength : UInt16} {s : PlaybackState} {published : List Bytes}
    (invariant : PlaybackInvariant rtpPacketLength s published) :
    s.accepted = s.seen.map Packet.bytes ++ heldBytes s.queue ++ underway s.network := by
  have split := congrArg (List.map Packet.bytes) (accepted_split invariant)
  rw [numbered_bytes, List.map_append, List.map_append, List.map_map] at split
  rw [split, heldBytes]
  congr 1
  exact List.map_id _

theorem network_step_logs (rtpPacketLength : UInt16) (s : PlaybackState) (event : RecvResult)
    (reading : NsTime) :
    let after := networkStep rtpPacketLength s event reading
    after.seen = s.seen ∧ ∃ added, after.accepted = s.accepted ++ added ∧
      underway s.network ++ added =
        ((playbackEvent s (.network event reading)).bind Event.storedItem).toList ++
          underway after.network := by
  unfold networkStep playbackEvent
  cases pc : s.network with
  | idle =>
      cases event with
      | again => exact ⟨rfl, [], (List.append_nil _).symm, by rw [pc]; rfl⟩
      | failed => exact ⟨rfl, [], (List.append_nil _).symm, by rw [pc]; rfl⟩
      | datagram bytes =>
          dsimp only
          split_ifs
          · exact ⟨rfl, [], (List.append_nil _).symm, rfl⟩
          · exact ⟨rfl, [], (List.append_nil _).symm, by rw [pc]; rfl⟩
  | received slot datagram =>
      dsimp only
      cases full : queueFull s.queue with
      | true => exact ⟨rfl, [], (List.append_nil _).symm, rfl⟩
      | false => exact ⟨rfl, [datagram], rfl, rfl⟩
  | roomFound slot datagram => exact ⟨rfl, [], (List.append_nil _).symm, rfl⟩
  | lenSet slot datagram => exact ⟨rfl, [], (List.append_nil _).symm, rfl⟩
  | seqSet slot datagram => exact ⟨rfl, [], (List.append_nil _).symm, rfl⟩
  | stamped datagram => exact ⟨rfl, [], (List.append_nil _).symm, rfl⟩
  | counted datagram => exact ⟨rfl, [], (List.append_nil _).symm, rfl⟩

theorem network_step_held {rtpPacketLength : UInt16} {s : PlaybackState} {published : List Bytes}
    (invariant : PlaybackInvariant rtpPacketLength s published) (event : RecvResult)
    (reading : NsTime) :
    heldBytes (networkStep rtpPacketLength s event reading).queue =
      heldBytes s.queue ++
        ((playbackEvent s (.network event reading)).bind Event.storedItem).toList := by
  obtain ⟨published, kept⟩ := network_step_invariant invariant event reading
  have before := accepted_bytes invariant
  have after := accepted_bytes kept
  obtain ⟨sameSeen, added, extended, moved⟩ := network_step_logs rtpPacketLength s event reading
  rw [sameSeen, extended, before, List.append_assoc, List.append_assoc, moved,
    List.append_assoc, List.append_cancel_left_eq, ← List.append_assoc,
    List.append_cancel_right_eq] at after
  exact after.symm

theorem reader_step_held {rtpPacketLength : UInt16} {s : PlaybackState} {published : List Bytes}
    (invariant : PlaybackInvariant rtpPacketLength s published) :
    heldBytes s.queue =
      ((playbackEvent s .reader).bind Event.takenItem).toList ++
        heldBytes (readerStep s).queue := by
  unfold playbackEvent
  cases pc : s.reader with
  | idle =>
      unfold readerStep
      rw [pc]
      dsimp only
      cases empty : queueEmpty s.queue <;> rfl
  | found slot =>
      unfold readerStep
      rw [pc]
      rfl
  | reading slot seq len bytes =>
      dsimp only
      split_ifs with more
      · unfold readerStep
        rw [pc]
        dsimp only
        rw [if_pos more]
        rfl
      · have released : readerStep s =
            { s with
              queue := queueReadNext s.queue
              reader := .idle
              seen := s.seen ++ [⟨seq, len, bytes⟩] } := by
          unfold readerStep
          rw [pc]
          dsimp only
          rw [if_neg more]
        have before := accepted_bytes invariant
        have after := accepted_bytes (reader_step_invariant invariant)
        rw [released] at after ⊢
        dsimp only at after ⊢
        rw [before, List.map_append, List.append_cancel_right_eq, List.append_assoc,
          List.append_cancel_left_eq] at after
        exact after

/-- The packets that wait are those of a queue as one thread would see it. -/
def Waiting (rtpPacketLength : UInt16) (s : PlaybackState) (waiting : List Bytes) : Prop :=
  (∃ published, PlaybackInvariant rtpPacketLength s published) ∧ waiting = heldBytes s.queue

theorem playback_steps_linearise (rtpPacketLength : UInt16) :
    Linearises (playbackStep rtpPacketLength) playbackEvent (next queueCapacity)
      (Waiting rtpPacketLength) := by
  constructor
  · intro s waiting action related silent
    obtain ⟨⟨published, invariant⟩, rfl⟩ := related
    cases action with
    | network event reading =>
        have held := network_step_held invariant event reading
        rw [silent] at held
        refine ⟨network_step_invariant invariant event reading, ?_⟩
        rw [playbackStep, held]
        exact (List.append_nil _).symm
    | reader =>
        have held := reader_step_held invariant
        rw [silent] at held
        exact ⟨⟨published, reader_step_invariant invariant⟩, held⟩
  · intro s waiting action happened related visible
    obtain ⟨⟨published, invariant⟩, rfl⟩ := related
    cases action with
    | network event reading =>
        have held := network_step_held invariant event reading
        have kept := network_step_invariant invariant event reading
        rw [visible] at held
        refine ⟨heldBytes (networkStep rtpPacketLength s event reading).queue, ?_, kept, rfl⟩
        have knows := invariant.network
        unfold playbackEvent at visible
        cases pc : s.network with
        | received slot datagram =>
            rw [pc] at visible
            dsimp only at visible
            split_ifs at visible with full
            obtain rfl := Option.some.inj visible
            rw [held]
            change next queueCapacity (heldBytes s.queue) .refused = some (heldBytes s.queue ++ [])
            rw [List.append_nil]
            apply next_refused
            rw [held_bytes_length]
            exact (full_iff_capacity s.queue).mp full
        | counted datagram =>
            rw [pc] at visible knows
            obtain rfl := Option.some.inj visible
            rw [held]
            apply next_stored
            rw [held_bytes_length]
            exact (not_full_iff_room s.queue).mp knows.2.2.1
        | idle => simp [pc] at visible
        | roomFound slot datagram => simp [pc] at visible
        | lenSet slot datagram => simp [pc] at visible
        | seqSet slot datagram => simp [pc] at visible
        | stamped datagram => simp [pc] at visible
    | reader =>
        have held := reader_step_held invariant
        have kept := reader_step_invariant invariant
        rw [visible] at held
        refine ⟨heldBytes (readerStep s).queue, ?_, ⟨published, kept⟩, rfl⟩
        unfold playbackEvent at visible
        cases pc : s.reader with
        | idle =>
            rw [pc] at visible
            dsimp only at visible
            split_ifs at visible with empty
            obtain rfl := Option.some.inj visible
            have none : heldBytes s.queue = [] := by
              rw [heldBytes, heldPackets, held_empty empty, List.map_nil, List.map_nil]
            have still : heldBytes (readerStep s).queue = heldBytes s.queue := held.symm
            rw [still, none]
            rfl
        | found slot => simp [pc] at visible
        | reading slot seq len bytes =>
            rw [pc] at visible
            dsimp only at visible
            split_ifs at visible
            obtain rfl := Option.some.inj visible
            rw [held]
            apply next_taken

theorem playback_step_seen (rtpPacketLength : UInt16) (s : PlaybackState)
    (action : PlaybackAction) :
    (playbackStep rtpPacketLength s action).seen.map Packet.bytes =
      s.seen.map Packet.bytes ++ ((playbackEvent s action).bind Event.takenItem).toList := by
  cases action with
  | network event reading =>
      rw [playbackStep, (network_step_logs rtpPacketLength s event reading).1]
      unfold playbackEvent
      cases s.network with
      | received slot datagram =>
          dsimp only
          split_ifs <;> exact (List.append_nil _).symm
      | _ => exact (List.append_nil _).symm
  | reader =>
      unfold playbackStep readerStep playbackEvent
      cases s.reader with
      | idle =>
          dsimp only
          cases queueEmpty s.queue <;> exact (List.append_nil _).symm
      | found slot => exact (List.append_nil _).symm
      | reading slot seq len bytes =>
          dsimp only
          split_ifs
          · exact (List.append_nil _).symm
          · exact List.map_append

/-- In every interleaving the playback pipeline is a queue of 511 places: a
datagram is refused exactly if 511 wait, the reader finds nothing exactly if none
waits, and what it takes is the oldest of them. -/
theorem playback_linearises (slots : Bool) (data : Nat → Bool) (rtpPacketLength : UInt16)
    (time : Nat → UInt32) (queue : AoipQueue)
    (created : aoipQueueInit slots data rtpPacketLength time = some queue)
    (schedule : List PlaybackAction) :
    let s := playbackRun rtpPacketLength (playbackStart queue) schedule
    let happened := events (playbackStep rtpPacketLength) playbackEvent (playbackStart queue) schedule
    follow (next queueCapacity) [] happened = some (heldBytes s.queue) ∧
      happened.filterMap Event.takenItem = s.seen.map Packet.bytes ∧
      happened.filterMap Event.storedItem ++ underway s.network = s.accepted := by
  have start := invariant_start slots data rtpPacketLength time queue created
  have nothing : heldBytes (playbackStart queue).queue = [] := by
    have none := accepted_bytes start
    exact (List.append_eq_nil_iff.mp (List.append_eq_nil_iff.mp none.symm).1).2
  obtain ⟨waiting, followed, ⟨published, invariant⟩, rfl⟩ :=
    run_linearises (playback_steps_linearise rtpPacketLength) schedule (playbackStart queue) []
      ⟨⟨[], start⟩, nothing.symm⟩
  have seen := events_logged (fun s : PlaybackState => s.seen.map Packet.bytes) Event.takenItem
    (playback_step_seen rtpPacketLength) schedule (playbackStart queue)
  have conserved := follow_conserves _ _ _ followed
  rw [List.nil_append] at conserved
  refine ⟨followed, seen.symm, ?_⟩
  rw [conserved, playbackRun, accepted_bytes invariant]
  congr 2
  exact seen.symm

theorem sample_playback_linearises :
    let s := playbackRun 12 (playbackStart (emptyQueue 12 fun _ => 0)) sampleSchedule
    let happened := events (playbackStep 12) playbackEvent
      (playbackStart (emptyQueue 12 fun _ => 0)) sampleSchedule
    happened = [.stored [0x80, 98, 7], .taken [0x80, 98, 7]] ∧
      follow (next queueCapacity) [] happened = some (heldBytes s.queue) :=
  ⟨by decide +kernel, (playback_linearises true (fun _ => true) 12 (fun _ => 0)
    (emptyQueue 12 fun _ => 0) (by simp [aoipQueueInit]) sampleSchedule).1⟩

end AoipCore.Playback

namespace AoipCore.Record

open Linearise BoundedFifo ByteBuffer AoipCore.Queue AoipCore.Host AoipCore.Timer AoipCore.Rtp

set_option autoImplicit false

/-- A refused call of `tonegen_ao_write` has no payload yet. The sender takes a
payload when it releases the slot whose datagram it has sent. -/
def recordEvent (s : RecordState) : RecordAction → Option (Event Bytes)
  | .producer _ _ =>
      match s.producer with
      | .idle => if queueFull s.queue then some .refused else none
      | .counted written => some (.stored written)
      | _ => none
  | .sender _ _ =>
      match s.sender with
      | .idle => if queueEmpty s.queue then some .foundEmpty else none
      | .delivered => some (.taken ((s.sent.getLastD []).drop rtpHdrSize))
      | _ => none

/-- The payloads produced and not released are those of a queue as one thread
would see it. -/
def Unsent (s : RecordState) (waiting : List Bytes) : Prop :=
  ∃ released, RecordInvariant s released ∧ waiting = s.produced.drop released

theorem unsent_length {s : RecordState} {released : Nat} (invariant : RecordInvariant s released) :
    (s.produced.drop released).length = (held s.queue).length := by
  have contents := congrArg List.length invariant.holds.contents
  rw [List.length_map, List.length_drop, items, List.length_mapIdx] at contents
  rw [List.length_drop]
  exact contents.symm

theorem record_step_produced (s : RecordState) (action : RecordAction) :
    (recordStep s action).produced =
      s.produced ++ ((recordEvent s action).bind Event.storedItem).toList := by
  cases action with
  | producer reading byte =>
      unfold recordStep producerStep recordEvent
      cases s.producer with
      | idle =>
          dsimp only
          cases queueFull s.queue <;> exact (List.append_nil _).symm
      | filling slot written =>
          dsimp only
          split_ifs <;> exact (List.append_nil _).symm
      | counted written => rfl
      | _ => exact (List.append_nil _).symm
  | sender fresh outcome =>
      unfold recordStep senderStep recordEvent
      cases s.sender with
      | idle =>
          dsimp only
          cases queueEmpty s.queue <;> exact (List.append_nil _).symm
      | sequenced slot fresh => cases outcome <;> exact (List.append_nil _).symm
      | _ => exact (List.append_nil _).symm

/-- The sender releases a slot exactly where it takes a payload. -/
theorem sender_step_released {s : RecordState} {fresh : UInt32} {outcome : SendResult}
    {released further : Nat} (invariant : RecordInvariant s released)
    (kept : RecordInvariant (senderStep s fresh outcome) further) :
    further = released +
      ((recordEvent s (.sender fresh outcome)).bind Event.takenItem).toList.length := by
  have before := invariant.progress
  have after := kept.progress
  unfold senderStep at after
  unfold recordEvent
  cases pc : s.sender with
  | idle =>
      rw [pc] at after before
      dsimp only at after
      cases empty : queueEmpty s.queue with
      | true =>
          rw [empty] at after
          simp only [Bool.not_true, Bool.false_eq_true, if_false, pc] at after
          simp [unreleased, Event.takenItem] at before after ⊢
          omega
      | false =>
          rw [empty] at after
          simp only [Bool.not_false, if_true] at after
          simp [unreleased] at before after ⊢
          omega
  | found slot =>
      rw [pc] at after before
      simp [unreleased] at before after ⊢
      omega
  | stamped slot fresh =>
      rw [pc] at after before
      simp [unreleased] at before after ⊢
      omega
  | sequenced slot fresh =>
      rw [pc] at after before
      cases outcome <;> (simp [unreleased] at before after ⊢; omega)
  | delivered =>
      rw [pc] at after before
      simp [unreleased, Event.takenItem] at before after ⊢
      omega
  | stopped =>
      rw [pc] at before
      simp only [pc] at after
      simp [unreleased] at before after ⊢
      omega

/-- The datagram sent last carries the oldest payload that is not released. -/
theorem delivered_payload {s : RecordState} {released : Nat} (invariant : RecordInvariant s released)
    (pc : s.sender = .delivered) :
    s.produced.drop released =
      (s.sent.getLastD []).drop rtpHdrSize :: s.produced.drop (released + 1) := by
  have progress := invariant.progress
  rw [pc] at progress
  have count : s.sent.length = released + 1 := progress
  have last : s.sent[released]? = some (s.sent.getLastD []) := by
    rw [List.getLastD_eq_getLast?, List.getLast?_eq_getElem?, count, Nat.add_sub_cancel]
    rw [List.getElem?_eq_getElem (by omega)]
    rfl
  obtain ⟨payload, found, datagram⟩ := invariant.delivered released _ last
  rw [datagram.payload]
  obtain ⟨inside, rfl⟩ := List.getElem?_eq_some_iff.mp found
  exact List.drop_eq_getElem_cons inside

theorem record_steps_linearise :
    Linearises recordStep recordEvent (next queueCapacity) Unsent := by
  constructor
  · intro s waiting action related silent
    obtain ⟨released, invariant, rfl⟩ := related
    cases action with
    | producer reading byte =>
        refine ⟨released, producer_step_invariant invariant reading byte, ?_⟩
        rw [record_step_produced, silent]
        exact congrArg (List.drop released) (List.append_nil _).symm
    | sender fresh outcome =>
        obtain ⟨further, kept⟩ := sender_step_invariant invariant fresh outcome
        have count := sender_step_released invariant kept
        rw [silent] at count
        refine ⟨further, kept, ?_⟩
        rw [record_step_produced, silent, count]
        exact congrArg (List.drop released) (List.append_nil _).symm
  · intro s waiting action happened related visible
    obtain ⟨released, invariant, rfl⟩ := related
    cases action with
    | producer reading byte =>
        have kept := producer_step_invariant invariant reading byte
        have knows := invariant.producer
        have bounded := invariant.holds.bounded
        rw [items, List.length_mapIdx] at bounded
        refine ⟨_, ?_, released, kept, rfl⟩
        rw [record_step_produced, visible]
        unfold recordEvent at visible
        cases pc : s.producer with
        | idle =>
            rw [pc] at visible
            dsimp only at visible
            split_ifs at visible with full
            obtain rfl := Option.some.inj visible
            change next queueCapacity _ .refused = some ((s.produced ++ []).drop released)
            rw [List.append_nil]
            apply next_refused
            rw [unsent_length invariant]
            exact (full_iff_capacity s.queue).mp full
        | counted written =>
            rw [pc] at visible knows
            obtain rfl := Option.some.inj visible
            change next queueCapacity _ (.stored written) =
              some ((s.produced ++ [written]).drop released)
            rw [List.drop_append_of_le_length bounded]
            apply next_stored
            rw [unsent_length invariant]
            exact (not_full_iff_room s.queue).mp knows.2.1
        | roomFound slot => simp [pc] at visible
        | lenSet slot => simp [pc] at visible
        | seqSet slot => simp [pc] at visible
        | filling slot written => simp [pc] at visible
    | sender fresh outcome =>
        obtain ⟨further, kept⟩ := sender_step_invariant invariant fresh outcome
        have count := sender_step_released invariant kept
        refine ⟨_, ?_, further, kept, rfl⟩
        rw [record_step_produced, count, visible]
        unfold recordEvent at visible
        cases pc : s.sender with
        | idle =>
            rw [pc] at visible
            dsimp only at visible
            split_ifs at visible with empty
            obtain rfl := Option.some.inj visible
            have none : s.produced.drop released = [] := by
              rw [← List.length_eq_zero_iff, unsent_length invariant, held_empty empty,
                List.length_nil]
            change next queueCapacity _ .foundEmpty = some ((s.produced ++ []).drop released)
            rw [List.append_nil, none]
            rfl
        | delivered =>
            rw [pc] at visible
            obtain rfl := Option.some.inj visible
            change next queueCapacity _ _ = some ((s.produced ++ []).drop (released + 1))
            rw [List.append_nil, delivered_payload invariant pc]
            apply next_taken
        | found slot => simp [pc] at visible
        | stamped slot fresh => simp [pc] at visible
        | sequenced slot fresh => simp [pc] at visible
        | stopped => simp [pc] at visible

/-- In every interleaving, and whatever `sendto` reports, the record pipeline is
a queue of 511 places: `tonegen_ao_write` gives up exactly if 511 payloads wait,
the sender finds nothing exactly if none waits, and what it sends and releases is
the oldest of them. -/
theorem record_linearises (slots : Bool) (data : Nat → Bool) (packetLength : UInt16)
    (time : Nat → UInt32) (queue : AoipQueue)
    (configured : tonegenPacketLength = some packetLength)
    (created : aoipQueueInit slots data packetLength time = some queue)
    (schedule : List RecordAction) :
    let s := recordRun (recordStart queue) schedule
    let happened := events recordStep recordEvent (recordStart queue) schedule
    let unsent := s.produced.drop (s.sent.length - unreleased s.sender)
    follow (next queueCapacity) [] happened = some unsent ∧
      happened.filterMap Event.storedItem = s.produced ∧
      happened.filterMap Event.takenItem =
        s.produced.take (s.sent.length - unreleased s.sender) := by
  have start := record_start_invariant slots data packetLength time queue configured created
  obtain ⟨waiting, followed, released, invariant, rest⟩ :=
    run_linearises record_steps_linearise schedule (recordStart queue) [] ⟨0, start, rfl⟩
  have produced := events_logged RecordState.produced Event.storedItem record_step_produced
    schedule (recordStart queue)
  have conserved := follow_conserves _ _ _ followed
  have progress := invariant.progress
  have count : (recordRun (recordStart queue) schedule).sent.length -
      unreleased (recordRun (recordStart queue) schedule).sender = released := by
    unfold recordRun
    omega
  dsimp only
  rw [count]
  subst rest
  refine ⟨followed, produced.symm, ?_⟩
  have whole := produced.trans conserved
  have split := List.take_append_drop released (recordRun (recordStart queue) schedule).produced
  exact (List.append_cancel_right (split.trans whole)).symm

theorem sample_record_linearises :
    let s := recordRun (recordStart sampleQueue) (samplePacket ++ sampleSend 7)
    let happened := events recordStep recordEvent (recordStart sampleQueue)
      (samplePacket ++ sampleSend 7)
    happened = [.stored (List.replicate 288 0), .taken (List.replicate 288 0)] ∧
      follow (next queueCapacity) [] happened =
        some (s.produced.drop (s.sent.length - unreleased s.sender)) :=
  ⟨by decide +kernel, (record_linearises true (fun _ => true) 300 (fun _ => 0) sampleQueue
    (by decide) sample_queue_created (samplePacket ++ sampleSend 7)).1⟩

end AoipCore.Record
