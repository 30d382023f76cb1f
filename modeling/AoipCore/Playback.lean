import AoipCore.Library.MachineInt
import AoipCore.Queue

/-!
# The playback pipeline

The network thread runs the `AOIP_MODE_PLAYBACK` branch of `network_loop`, the
audio thread reads the queue as `rtpdump_ao_read` does. Each step below is one
access to shared memory, and a schedule picks the thread that moves. `recv`
stores into the slot at `head` before the queue is tested for room, so the
argument rests on that slot never being held.
-/

namespace AoipCore.Playback

open ByteBuffer MachineInt AoipCore.Host AoipCore.Timer AoipCore.Queue

set_option autoImplicit false

structure Packet where
  seq : UInt16
  len : UInt16
  bytes : Bytes
  deriving DecidableEq, Repr

def slotPacket (slot : QueueSlot) : Packet where
  seq := slot.seq
  len := slot.len
  bytes := slot.data.take slot.len.toNat

def packetOf (index : Nat) (datagram : Bytes) : Packet where
  seq := UInt16.ofNat index
  len := UInt16.ofNat datagram.length
  bytes := datagram

def numbered (accepted : List Bytes) : List Packet := accepted.mapIdx packetOf

/-- Where the network thread stands after `recv` returned; the datagram is kept
for the log, the code keeps its length. -/
inductive NetworkPc where
  | idle
  | received (slot : Nat) (datagram : Bytes)
  | roomFound (slot : Nat) (datagram : Bytes)
  | lenSet (slot : Nat) (datagram : Bytes)
  | seqSet (slot : Nat) (datagram : Bytes)
  | stamped (datagram : Bytes)
  | counted (datagram : Bytes)
  deriving DecidableEq, Repr

inductive ReaderPc where
  | idle
  | found (slot : Nat)
  | reading (slot : Nat) (seq len : UInt16) (bytes : Bytes)
  deriving DecidableEq, Repr

/-- `accepted` logs the datagrams that found room, `seen` what the reader had
read of each slot when it released it. -/
structure PlaybackState where
  queue : AoipQueue
  seq : UInt16
  network : NetworkPc
  reader : ReaderPc
  accepted : List Bytes
  seen : List Packet
  deriving DecidableEq

def playbackStart (queue : AoipQueue) : PlaybackState where
  queue := queue
  seq := 0
  network := .idle
  reader := .idle
  accepted := []
  seen := []

def networkStep (rtpPacketLength : UInt16) (s : PlaybackState) (event : RecvResult)
    (reading : NsTime) : PlaybackState :=
  match s.network with
  | .idle =>
      match event with
      | .datagram bytes =>
          let datagram := bytes.take rtpPacketLength.toNat
          let slot := queueWritePtr s.queue
          if datagram.length > 0 then
            { s with queue := s.queue.put slot 0 datagram, network := .received slot datagram }
          else s
      | _ => s
  | .received slot datagram =>
      if !queueFull s.queue then
        { s with network := .roomFound slot datagram, accepted := s.accepted ++ [datagram] }
      else { s with network := .idle }
  | .roomFound slot datagram =>
      { s with
        queue := s.queue.setLen slot (UInt16.ofNat datagram.length)
        network := .lenSet slot datagram }
  | .lenSet slot datagram =>
      { s with queue := s.queue.setSeq slot s.seq, network := .seqSet slot datagram }
  | .seqSet slot datagram =>
      { s with queue := s.queue.setTstamp slot reading, network := .stamped datagram }
  | .stamped datagram =>
      { s with seq := (s.seq + 1) &&& 0xffff, network := .counted datagram }
  | .counted _ => { s with queue := queueWriteNext s.queue, network := .idle }

def readerStep (s : PlaybackState) : PlaybackState :=
  match s.reader with
  | .idle =>
      if !queueEmpty s.queue then { s with reader := .found (queueReadPtr s.queue) } else s
  | .found slot =>
      { s with reader := .reading slot (s.queue.slotAt slot).seq (s.queue.slotAt slot).len [] }
  | .reading slot seq len bytes =>
      if bytes.length < len.toNat then
        { s with
          reader := .reading slot seq len
            (bytes ++ [(s.queue.slotAt slot).data.getD bytes.length 0]) }
      else
        { s with
          queue := queueReadNext s.queue
          reader := .idle
          seen := s.seen ++ [⟨seq, len, bytes⟩] }

/-- One step of the thread the schedule picks, with what the system call made
in that step returns. -/
inductive PlaybackAction where
  | network (event : RecvResult) (reading : NsTime)
  | reader
  deriving DecidableEq, Repr

def playbackStep (rtpPacketLength : UInt16) (s : PlaybackState) : PlaybackAction → PlaybackState
  | .network event reading => networkStep rtpPacketLength s event reading
  | .reader => readerStep s

def playbackRun (rtpPacketLength : UInt16) (s : PlaybackState) (schedule : List PlaybackAction) :
    PlaybackState :=
  schedule.foldl (playbackStep rtpPacketLength) s

/-! ## What each thread relies on -/

def underway : NetworkPc → List Bytes
  | .idle => []
  | .received _ _ => []
  | .roomFound _ datagram => [datagram]
  | .lenSet _ datagram => [datagram]
  | .seqSet _ datagram => [datagram]
  | .stamped datagram => [datagram]
  | .counted datagram => [datagram]

/-- The slot holds the datagram, whose length fits `len`. -/
structure Carries (slot : QueueSlot) (datagram : Bytes) : Prop where
  short : datagram.length < 2 ^ 16
  stored : slot.data.take datagram.length = datagram

/-- What the network thread knows at each point, `count` datagrams having been
published. -/
def NetworkKnows (q : AoipQueue) (seq : UInt16) (count : Nat) : NetworkPc → Prop
  | .idle => seq = UInt16.ofNat count
  | .received slot datagram =>
      seq = UInt16.ofNat count ∧ slot = q.head.toNat ∧ Carries (q.slotAt q.head.toNat) datagram
  | .roomFound slot datagram =>
      seq = UInt16.ofNat count ∧ slot = q.head.toNat ∧
        Carries (q.slotAt q.head.toNat) datagram ∧ queueFull q = false
  | .lenSet slot datagram =>
      seq = UInt16.ofNat count ∧ slot = q.head.toNat ∧
        Carries (q.slotAt q.head.toNat) datagram ∧ queueFull q = false ∧
        (q.slotAt q.head.toNat).len = UInt16.ofNat datagram.length
  | .seqSet slot datagram =>
      seq = UInt16.ofNat count ∧ slot = q.head.toNat ∧ datagram.length < 2 ^ 16 ∧
        queueFull q = false ∧ slotPacket (q.slotAt q.head.toNat) = packetOf count datagram
  | .stamped datagram =>
      seq = UInt16.ofNat count ∧ datagram.length < 2 ^ 16 ∧
        queueFull q = false ∧ slotPacket (q.slotAt q.head.toNat) = packetOf count datagram
  | .counted datagram =>
      seq = UInt16.ofNat (count + 1) ∧ datagram.length < 2 ^ 16 ∧
        queueFull q = false ∧ slotPacket (q.slotAt q.head.toNat) = packetOf count datagram

/-- What the reader knows at each point: the slot it reads is the one at
`tail`, it is held, and what has been read is still what the slot holds. -/
def ReaderKnows (q : AoipQueue) : ReaderPc → Prop
  | .idle => True
  | .found slot => slot = q.tail.toNat ∧ queueEmpty q = false
  | .reading slot seq len bytes =>
      slot = q.tail.toNat ∧ queueEmpty q = false ∧
        seq = (q.slotAt q.tail.toNat).seq ∧ len = (q.slotAt q.tail.toNat).len ∧
        bytes.length ≤ len.toNat ∧ bytes = (q.slotAt q.tail.toNat).data.take bytes.length

structure PlaybackInvariant (rtpPacketLength : UInt16) (s : PlaybackState)
    (published : List Bytes) : Prop where
  sized : s.queue.dataLen = rtpPacketLength
  short : ∀ datagram ∈ published, datagram.length < 2 ^ 16
  log : s.accepted = published ++ underway s.network
  holds : Holds s.queue slotPacket (numbered published) s.seen.length
  delivered : s.seen <+: numbered published
  network : NetworkKnows s.queue s.seq published.length s.network
  reader : ReaderKnows s.queue s.reader

/-! The other thread's steps leave these facts alone. -/

theorem network_knows_releases {q after : AoipQueue} {seq : UInt16} {count : Nat}
    {pc : NetworkPc} (knows : NetworkKnows q seq count pc) (releases : Releases q after) :
    NetworkKnows after seq count pc := by
  have room := releases.room
  cases pc with
  | idle => exact knows
  | received slot datagram =>
      rw [NetworkKnows, releases.slot, releases.head]
      exact knows
  | roomFound slot datagram =>
      rw [NetworkKnows, releases.slot, releases.head]
      exact ⟨knows.1, knows.2.1, knows.2.2.1, room knows.2.2.2⟩
  | lenSet slot datagram =>
      rw [NetworkKnows, releases.slot, releases.head]
      exact ⟨knows.1, knows.2.1, knows.2.2.1, room knows.2.2.2.1, knows.2.2.2.2⟩
  | seqSet slot datagram =>
      rw [NetworkKnows, releases.slot, releases.head]
      exact ⟨knows.1, knows.2.1, knows.2.2.1, room knows.2.2.2.1, knows.2.2.2.2⟩
  | stamped datagram =>
      rw [NetworkKnows, releases.slot]
      exact ⟨knows.1, knows.2.1, room knows.2.2.1, knows.2.2.2⟩
  | counted datagram =>
      rw [NetworkKnows, releases.slot]
      exact ⟨knows.1, knows.2.1, room knows.2.2.1, knows.2.2.2⟩

theorem reader_knows_publishes {q after : AoipQueue} {pc : ReaderPc} (knows : ReaderKnows q pc)
    (publishes : Publishes q after) : ReaderKnows after pc := by
  cases pc with
  | idle => trivial
  | found slot =>
      rw [ReaderKnows, publishes.tail]
      exact ⟨knows.1, (publishes_oldest publishes knows.2).1⟩
  | reading slot seq len bytes =>
      obtain ⟨waiting, oldest⟩ := publishes_oldest publishes knows.2.1
      rw [ReaderKnows, oldest, publishes.tail]
      exact ⟨knows.1, waiting, knows.2.2⟩

/-! ## The invariant is kept by every step -/

theorem invariant_start (slots : Bool) (data : Nat → Bool) (rtpPacketLength : UInt16)
    (time : Nat → UInt32) (queue : AoipQueue)
    (created : aoipQueueInit slots data rtpPacketLength time = some queue) :
    PlaybackInvariant rtpPacketLength (playbackStart queue) [] := by
  unfold aoipQueueInit at created
  split_ifs at created
  obtain rfl := Option.some.inj created
  exact ⟨rfl, by simp, rfl, holds_empty rtpPacketLength time slotPacket, List.prefix_rfl, rfl,
    trivial⟩

theorem invariant_store {rtpPacketLength : UInt16} {s : PlaybackState} {published : List Bytes}
    (invariant : PlaybackInvariant rtpPacketLength s published)
    (change : QueueSlot → QueueSlot)
    (keeps : ∀ each, (change each).data.length = each.data.length) (pc : NetworkPc)
    (same : underway pc = underway s.network)
    (knows : NetworkKnows (s.queue.modify s.queue.head.toNat change keeps) s.seq
      published.length pc) :
    PlaybackInvariant rtpPacketLength
      { s with queue := s.queue.modify s.queue.head.toNat change keeps, network := pc }
      published where
  sized := invariant.sized
  short := invariant.short
  log := by rw [same, ← invariant.log]
  holds := holds_store invariant.holds _ _ keeps s.queue.headIn (.inl (head_not_held s.queue))
  delivered := invariant.delivered
  network := knows
  reader := reader_knows_publishes invariant.reader (publishes_store s.queue change keeps)

theorem numbered_append (published : List Bytes) (datagram : Bytes) :
    numbered (published ++ [datagram]) =
      numbered published ++ [packetOf published.length datagram] := by
  rw [numbered, List.mapIdx_concat, numbered]

theorem received_carries {rtpPacketLength : UInt16} (slot : QueueSlot) (bytes : Bytes)
    (sized : slot.data.length = rtpPacketLength.toNat) :
    Carries { slot with data := writeAt slot.data 0 (bytes.take rtpPacketLength.toNat) }
      (bytes.take rtpPacketLength.toNat) where
  short := lt_of_le_of_lt (List.length_take_le _ _) rtpPacketLength.toNat_lt
  stored := by
    have fits : 0 + (bytes.take rtpPacketLength.toNat).length ≤ slot.data.length := by
      rw [List.length_take, sized]
      omega
    have stored := slice_write_same slot.data 0 (bytes.take rtpPacketLength.toNat) fits
    rwa [slice, List.drop_zero] at stored

/-- Once `len` and `seq` are set, the slot shows the whole packet. -/
theorem carried_packet {slot : QueueSlot} {datagram : Bytes} {count : Nat}
    (carries : Carries slot datagram) (len : slot.len = UInt16.ofNat datagram.length)
    (seq : slot.seq = UInt16.ofNat count) : slotPacket slot = packetOf count datagram := by
  have exact : (UInt16.ofNat datagram.length).toNat = datagram.length :=
    UInt16.toNat_ofNat_of_lt' carries.short
  unfold slotPacket packetOf
  rw [len, seq, exact, carries.stored]

theorem network_step_invariant {rtpPacketLength : UInt16} {s : PlaybackState}
    {published : List Bytes} (invariant : PlaybackInvariant rtpPacketLength s published)
    (event : RecvResult) (reading : NsTime) :
    ∃ published, PlaybackInvariant rtpPacketLength
      (networkStep rtpPacketLength s event reading) published := by
  have knows := invariant.network
  unfold networkStep
  cases pc : s.network with
  | idle =>
      rw [pc] at knows
      cases event with
      | again => exact ⟨published, invariant⟩
      | failed => exact ⟨published, invariant⟩
      | datagram bytes =>
          dsimp only
          split_ifs
          · refine ⟨published, invariant_store invariant _ _ _ (by rw [pc]; rfl) ?_⟩
            refine ⟨knows, rfl, ?_⟩
            rw [head_slot_written]
            apply received_carries
            rw [slot_at_data_length, invariant.sized]
          · exact ⟨published, invariant⟩
  | received slot datagram =>
      rw [pc] at knows
      obtain ⟨seq, place, carries⟩ := knows
      dsimp only
      split_ifs with room
      · refine ⟨published, invariant.sized, invariant.short, ?_, invariant.holds,
          invariant.delivered, ⟨seq, place, carries, by simpa using room⟩, invariant.reader⟩
        rw [invariant.log, pc, underway, List.append_nil]
        rfl
      · refine ⟨published, invariant.sized, invariant.short, ?_, invariant.holds,
          invariant.delivered, seq, invariant.reader⟩
        rw [invariant.log, pc]
        rfl
  | roomFound slot datagram =>
      rw [pc] at knows
      obtain ⟨seq, rfl, carries, room⟩ := knows
      refine ⟨published, invariant_store invariant _ _ _ (by rw [pc]; rfl) ?_⟩
      refine ⟨seq, rfl, ?_, room, ?_⟩
      · rw [head_slot_written]
        exact ⟨carries.short, carries.stored⟩
      · rw [head_slot_written]
  | lenSet slot datagram =>
      rw [pc] at knows
      obtain ⟨seq, rfl, carries, room, len⟩ := knows
      refine ⟨published, invariant_store invariant _ _ _ (by rw [pc]; rfl) ?_⟩
      refine ⟨seq, rfl, carries.short, room, ?_⟩
      rw [head_slot_written]
      exact carried_packet ⟨carries.short, carries.stored⟩ len seq
  | seqSet slot datagram =>
      rw [pc] at knows
      obtain ⟨seq, rfl, short, room, packet⟩ := knows
      refine ⟨published, invariant_store invariant _ _ _ (by rw [pc]; rfl) ?_⟩
      refine ⟨seq, short, room, ?_⟩
      rw [head_slot_written]
      exact packet
  | stamped datagram =>
      rw [pc] at knows
      obtain ⟨seq, short, room, packet⟩ := knows
      refine ⟨published, invariant.sized, invariant.short, ?_, invariant.holds,
        invariant.delivered, ?_, invariant.reader⟩
      · rw [invariant.log, pc]
        rfl
      · refine ⟨?_, short, room, packet⟩
        rw [masked_word16, seq, UInt16.ofNat_add]
        rfl
  | counted datagram =>
      rw [pc] at knows
      obtain ⟨seq, short, room, packet⟩ := knows
      refine ⟨published ++ [datagram], invariant.sized, ?_, ?_, ?_, ?_, ?_, ?_⟩
      · intro each member
        rcases List.mem_append.mp member with earlier | newest
        · exact invariant.short each earlier
        · rwa [List.mem_singleton.mp newest]
      · rw [invariant.log, pc]
        exact (List.append_nil _).symm
      · have published := holds_publish invariant.holds room
        rwa [packet, ← numbered_append] at published
      · rw [numbered_append]
        exact invariant.delivered.trans (List.prefix_append _ _)
      · rw [NetworkKnows, List.length_append]
        exact seq
      · exact reader_knows_publishes invariant.reader (publishes_next room)

theorem oldest_packet {rtpPacketLength : UInt16} {s : PlaybackState} {published : List Bytes}
    (invariant : PlaybackInvariant rtpPacketLength s published)
    (waiting : queueEmpty s.queue = false) :
    ∃ datagram, published[s.seen.length]? = some datagram ∧
      slotPacket (s.queue.slotAt s.queue.tail.toNat) = packetOf s.seen.length datagram ∧
      (s.queue.slotAt s.queue.tail.toNat).len.toNat = datagram.length ∧
      (s.queue.slotAt s.queue.tail.toNat).data.take datagram.length = datagram := by
  have oldest := holds_oldest invariant.holds waiting
  rw [numbered, List.getElem?_mapIdx] at oldest
  obtain ⟨datagram, found, packet⟩ := Option.map_eq_some_iff.mp oldest
  have short := invariant.short datagram (List.mem_of_getElem? found)
  have len : (s.queue.slotAt s.queue.tail.toNat).len.toNat = datagram.length := by
    have same := congrArg (fun each => each.len.toNat) packet
    simp only [slotPacket, packetOf] at same
    rw [← same, UInt16.toNat_ofNat_of_lt' short]
  have bytes := congrArg Packet.bytes packet
  simp only [slotPacket, packetOf, len] at bytes
  exact ⟨datagram, found, packet.symm, len, bytes.symm⟩

theorem reader_step_invariant {rtpPacketLength : UInt16} {s : PlaybackState}
    {published : List Bytes} (invariant : PlaybackInvariant rtpPacketLength s published) :
    PlaybackInvariant rtpPacketLength (readerStep s) published := by
  have knows := invariant.reader
  have keep : ∀ pc, ReaderKnows s.queue pc →
      PlaybackInvariant rtpPacketLength { s with reader := pc } published := fun pc known =>
    ⟨invariant.sized, invariant.short, invariant.log, invariant.holds, invariant.delivered,
      invariant.network, known⟩
  unfold readerStep
  cases pc : s.reader with
  | idle =>
      dsimp only
      split_ifs with waiting
      · exact keep _ ⟨rfl, by simpa using waiting⟩
      · exact invariant
  | found slot =>
      rw [pc] at knows
      obtain ⟨rfl, waiting⟩ := knows
      exact keep _ ⟨rfl, waiting, rfl, rfl, Nat.zero_le _, rfl⟩
  | reading slot seq len bytes =>
      rw [pc] at knows
      obtain ⟨rfl, waiting, sameSeq, sameLen, bounded, prefixed⟩ := knows
      obtain ⟨datagram, found, packet, exactLen, stored⟩ := oldest_packet invariant waiting
      dsimp only
      split_ifs with more
      · apply keep
        refine ⟨rfl, waiting, sameSeq, sameLen, ?_, ?_⟩
        · rw [List.length_append]
          exact more
        · have inside : bytes.length < (s.queue.slotAt s.queue.tail.toNat).data.length := by
            have lengths := congrArg List.length stored
            rw [List.length_take] at lengths
            rw [sameLen, exactLen] at more
            omega
          rw [List.length_append, List.length_singleton, List.take_add_one, ← prefixed,
            List.getD_eq_getElem?_getD, List.getElem?_eq_getElem inside]
          rfl
      · have whole : bytes.length = len.toNat := by omega
        have seen : (⟨seq, len, bytes⟩ : Packet) = packetOf s.seen.length datagram := by
          rw [← packet, slotPacket, ← sameSeq, ← sameLen, ← whole, ← prefixed]
        refine ⟨invariant.sized, invariant.short, invariant.log, ?_, ?_,
          network_knows_releases invariant.network (releases_next waiting), trivial⟩
        · rw [List.length_append]
          exact holds_release invariant.holds waiting
        · obtain ⟨rest, split⟩ := invariant.delivered
          have next : (numbered published)[s.seen.length]? =
              some (packetOf s.seen.length datagram) := by
            rw [numbered, List.getElem?_mapIdx, found]
            rfl
          rw [← split, List.getElem?_append_right (Nat.le_refl _), Nat.sub_self] at next
          obtain - | ⟨first, rest⟩ := rest
          · simp at next
          · obtain rfl := Option.some.inj next
            rw [seen, ← split]
            exact ⟨rest, by rw [List.append_assoc, List.singleton_append]⟩

theorem run_invariant (rtpPacketLength : UInt16) (queue : AoipQueue)
    (start : PlaybackInvariant rtpPacketLength (playbackStart queue) [])
    (schedule : List PlaybackAction) :
    ∃ published, PlaybackInvariant rtpPacketLength
      (playbackRun rtpPacketLength (playbackStart queue) schedule) published := by
  unfold playbackRun
  apply List.foldlRecOn (motive := fun s => ∃ published,
    PlaybackInvariant rtpPacketLength s published) schedule _ ⟨[], start⟩
  rintro s ⟨published, invariant⟩ action -
  cases action with
  | network event reading => exact network_step_invariant invariant event reading
  | reader => exact ⟨published, reader_step_invariant invariant⟩

/-! ## First in, first out -/

def heldPackets (q : AoipQueue) : List Packet := (held q).map fun index => slotPacket (q.slotAt index)

/-- The packet the reader is in the middle of is the oldest one not released,
as far as it has been read. -/
def ReadingMatches (s : PlaybackState) : Prop :=
  ∀ slot seq len bytes, s.reader = .reading slot seq len bytes →
    ∃ datagram, s.accepted[s.seen.length]? = some datagram ∧
      seq = UInt16.ofNat s.seen.length ∧ len = UInt16.ofNat datagram.length ∧ bytes <+: datagram

theorem accepted_split {rtpPacketLength : UInt16} {s : PlaybackState} {published : List Bytes}
    (invariant : PlaybackInvariant rtpPacketLength s published) :
    numbered s.accepted = s.seen ++ heldPackets s.queue ++
      (underway s.network).map (packetOf (s.seen.length + (heldPackets s.queue).length)) := by
  have rest : heldPackets s.queue = (numbered published).drop s.seen.length :=
    invariant.holds.contents
  have front : numbered published = s.seen ++ heldPackets s.queue := by
    conv_lhs => rw [← List.take_append_drop s.seen.length (numbered published)]
    rw [← List.prefix_iff_eq_take.mp invariant.delivered, rest]
  have count : s.seen.length + (heldPackets s.queue).length = published.length := by
    rw [← List.length_append, ← front, numbered, List.length_mapIdx]
  rw [count, ← front, invariant.log]
  cases s.network <;> simp [underway, numbered, List.mapIdx_concat]

theorem reading_matches {rtpPacketLength : UInt16} {s : PlaybackState} {published : List Bytes}
    (invariant : PlaybackInvariant rtpPacketLength s published) : ReadingMatches s := by
  intro slot seq len bytes pc
  have knows := invariant.reader
  rw [pc] at knows
  obtain ⟨-, waiting, sameSeq, sameLen, bounded, prefixed⟩ := knows
  obtain ⟨datagram, found, packet, exactLen, stored⟩ := oldest_packet invariant waiting
  refine ⟨datagram, ?_, ?_, ?_, ?_⟩
  · rw [invariant.log, List.getElem?_append_left, found]
    exact (List.getElem?_eq_some_iff.mp found).1
  · exact sameSeq.trans (congrArg Packet.seq packet)
  · exact sameLen.trans (congrArg Packet.len packet)
  · rw [sameLen, exactLen] at bounded
    rw [prefixed, ← stored]
    exact List.take_prefix_take_left bounded

/-- `recv` leaves every held slot as it is, whatever it delivers. -/
theorem recv_keeps_held (rtpPacketLength : UInt16) (s : PlaybackState) (event : RecvResult)
    (reading : NsTime) (polling : s.network = .idle) :
    let after := networkStep rtpPacketLength s event reading
    held after.queue = held s.queue ∧ after.seq = s.seq ∧ after.accepted = s.accepted ∧
      ∀ index ∈ held s.queue, after.queue.slotAt index = s.queue.slotAt index := by
  unfold networkStep
  rw [polling]
  cases event with
  | again => exact ⟨rfl, rfl, rfl, fun _ _ => rfl⟩
  | failed => exact ⟨rfl, rfl, rfl, fun _ _ => rfl⟩
  | datagram bytes =>
      dsimp only
      split_ifs
      · refine ⟨rfl, rfl, rfl, ?_⟩
        intro index member
        have elsewhere : index ≠ s.queue.head.toNat := by
          rintro rfl
          exact head_not_held s.queue member
        exact slot_at_modify_other _ _ _ _ (fun _ => write_at_length _ _ _) elsewhere
      · exact ⟨rfl, rfl, rfl, fun _ _ => rfl⟩

/-- In every interleaving the reader sees the accepted datagrams in order, each
whole and under its number; `recv` stores into a slot that is not held; and a
datagram that finds no room leaves the queue and the next number alone. -/
theorem playback_is_fifo (slots : Bool) (data : Nat → Bool) (rtpPacketLength : UInt16)
    (time : Nat → UInt32) (queue : AoipQueue)
    (created : aoipQueueInit slots data rtpPacketLength time = some queue)
    (schedule : List PlaybackAction) :
    let s := playbackRun rtpPacketLength (playbackStart queue) schedule
    (s.seen <+: numbered s.accepted ∧
      numbered s.accepted = s.seen ++ heldPackets s.queue ++
        (underway s.network).map (packetOf (s.seen.length + (heldPackets s.queue).length)) ∧
      ReadingMatches s) ∧
    (queueWritePtr s.queue ∉ held s.queue ∧
      ∀ event reading, s.network = .idle →
        let after := networkStep rtpPacketLength s event reading
        held after.queue = held s.queue ∧ after.seq = s.seq ∧ after.accepted = s.accepted ∧
          ∀ index ∈ held s.queue, after.queue.slotAt index = s.queue.slotAt index) ∧
    (∀ slot datagram event reading, s.network = .received slot datagram →
      queueFull s.queue = true →
      networkStep rtpPacketLength s event reading = { s with network := .idle }) := by
  obtain ⟨published, invariant⟩ := run_invariant rtpPacketLength queue
    (invariant_start slots data rtpPacketLength time queue created) schedule
  have split := accepted_split invariant
  refine ⟨⟨?_, split, reading_matches invariant⟩, ⟨head_not_held _, ?_⟩, ?_⟩
  · rw [split, List.append_assoc]
    exact List.prefix_append _ _
  · intro event reading polling
    exact recv_keeps_held rtpPacketLength _ event reading polling
  · intro slot datagram event reading arrived full
    simp [networkStep, arrived, full]

def sampleSchedule : List PlaybackAction :=
  List.replicate 7 (.network (.datagram [0x80, 98, 7]) 0) ++ List.replicate 6 .reader

theorem sample_playback_is_fifo :
    let s := playbackRun 12 (playbackStart (emptyQueue 12 fun _ => 0)) sampleSchedule
    s.seen = [⟨0, 3, [0x80, 98, 7]⟩] ∧ s.seen <+: numbered s.accepted :=
  ⟨by decide +kernel, (playback_is_fifo true (fun _ => true) 12 (fun _ => 0)
    (emptyQueue 12 fun _ => 0) (by simp [aoipQueueInit]) sampleSchedule).1.1⟩

end AoipCore.Playback
