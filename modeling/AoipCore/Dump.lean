import AoipCore.Linearised
import AoipCore.Rtpdump
import Mathlib.Data.List.Forall2
import Mathlib.Data.List.GetD
import Mathlib.Data.List.Nodup

/-!
# `rtpdump_ao_read` beside the network thread

`rtpdump_ao_read` reads the length of the slot again before every frame and the
frame byte by byte, while the network thread goes on storing. Each step below is
one access to shared memory; the bytes found behind the buffer of a slot may
differ from one access to the next. The call nevertheless acts as a whole, at the
moment it moves `tail`.
-/

namespace AoipCore.Dump

open ByteBuffer FileImage Linearise AoipCore.Host AoipCore.Timer AoipCore.Rtp AoipCore.Queue
  AoipCore.Playback AoipCore.Wav AoipCore.Rtpdump

set_option autoImplicit false

inductive DumpPc where
  | idle
  | testing (slot : Nat) (i : UInt16) (ret : Int32)
  | gathering (slot : Nat) (i : UInt16) (ret : Int32) (tmp : Bytes)
  | finished (ret : Int32)
  deriving DecidableEq, Repr

/-- The network thread's part of the state is that of playback. Of the current
call, `before` is the context it began with and `beyond` what it has found behind
the buffer; `rets` logs what the calls have returned. -/
structure DumpState where
  playback : PlaybackState
  dump : DumpPc
  audio : AudioCtx
  before : AudioCtx
  beyond : Nat → UInt8
  rets : List Int32

def dumpStart (queue : AoipQueue) (audio : AudioCtx) : DumpState where
  playback := playbackStart queue
  dump := .idle
  audio := audio
  before := audio
  beyond := fun _ => 0
  rets := []

def oldest (q : AoipQueue) : List Packet :=
  if queueEmpty q then [] else [slotPacket (q.slotAt (queueReadPtr q))]

def takeOldest (s : PlaybackState) (queue : AoipQueue) : PlaybackState :=
  { s with queue := queue, seen := s.seen ++ oldest s.queue }

/-- One step of `rtpdump_ao_read`; `outside` is the byte of memory that an access
behind the buffer of the slot finds. -/
def dumpStep (accepts : Nat → Option Nat) (s : DumpState) (outside : UInt8) : DumpState :=
  match s.dump with
  | .idle =>
      if !queueEmpty s.playback.queue then
        { s with
          dump := .testing (queueReadPtr s.playback.queue) (UInt16.ofNat rtpHdrSize) 0 }
      else { s with rets := s.rets ++ [0] }
  | .testing slot i ret =>
      if i < (s.playback.queue.slotAt slot).len then { s with dump := .gathering slot i ret [] }
      else { s with dump := .finished ret }
  | .gathering slot i ret tmp =>
      match (frameOffsets i)[tmp.length]? with
      | some offset =>
          let beyond := Function.update s.beyond offset outside
          let byte := slotMemory (s.playback.queue.slotAt slot) beyond offset
          { s with beyond := beyond, dump := .gathering slot i ret (tmp ++ [byte]) }
      | none =>
          let (count, fd) := write accepts s.audio.fd tmp
          { s with
            audio :=
              { fd := fd, receivedFrames := (s.audio.receivedFrames + 1) &&& 0xffffffff }
            dump := .testing slot (i + 6) (if count < 1 then -1 else ret) }
  | .finished ret =>
      { s with
        playback := takeOldest s.playback (queueReadNext s.playback.queue)
        dump := .idle
        before := s.audio
        rets := s.rets ++ [ret] }

inductive DumpAction where
  | network (event : RecvResult) (reading : NsTime)
  | dump (outside : UInt8)
  deriving DecidableEq, Repr

def dumpAction (accepts : Nat → Option Nat) (rtpPacketLength : UInt16) (s : DumpState) :
    DumpAction → DumpState
  | .network event reading =>
      { s with playback := networkStep rtpPacketLength s.playback event reading }
  | .dump outside => dumpStep accepts s outside

def dumpRun (accepts : Nat → Option Nat) (rtpPacketLength : UInt16) (s : DumpState)
    (schedule : List DumpAction) : DumpState :=
  schedule.foldl (dumpAction accepts rtpPacketLength) s

/-! ## The recorder with whole calls -/

structure Recorder where
  playback : PlaybackState
  audio : AudioCtx
  rets : List Int32

inductive RecorderEvent where
  | network (event : RecvResult) (reading : NsTime)
  | read (beyond : Nat → UInt8)

def recorderNext (accepts : Nat → Option Nat) (rtpPacketLength : UInt16) (r : Recorder) :
    RecorderEvent → Option Recorder
  | .network event reading =>
      some { r with playback := networkStep rtpPacketLength r.playback event reading }
  | .read beyond =>
      (rtpdumpAoRead accepts beyond r.playback.queue r.audio).map fun call =>
        { playback := takeOldest r.playback call.queue
          audio := call.audio
          rets := r.rets ++ [call.ret] }

/-- A call takes effect when it finds the queue empty, or when it moves `tail`. -/
def recorderEvent (s : DumpState) : DumpAction → Option RecorderEvent
  | .network event reading => some (.network event reading)
  | .dump _ =>
      match s.dump with
      | .idle => if queueEmpty s.playback.queue then some (.read s.beyond) else none
      | .finished _ => some (.read s.beyond)
      | _ => none

/-! ## What the call knows -/

def startsOf (count : Nat) : List UInt16 := (List.range' rtpHdrSize count 6).map UInt16.ofNat

/-- `count` frames of the slot at `tail` have been written. -/
structure Dumping (accepts : Nat → Option Nat) (q : AoipQueue) (beyond : Nat → UInt8)
    (before audio : AudioCtx) (slot count : Nat) (ret : Int32) : Prop where
  place : slot = q.tail.toNat
  waiting : queueEmpty q = false
  inside : ∀ index < count, rtpHdrSize + 6 * index < (q.slotAt slot).len.toNat
  dumped : (ret, audio) = (startsOf count).foldl
    (dumpFrame accepts (slotMemory (q.slotAt slot) beyond)) (0, before)

def DumpKnows (accepts : Nat → Option Nat) (q : AoipQueue) (beyond : Nat → UInt8)
    (before audio : AudioCtx) : DumpPc → Prop
  | .idle => audio = before
  | .testing slot i ret => ∃ count, i = UInt16.ofNat (rtpHdrSize + 6 * count) ∧
      Dumping accepts q beyond before audio slot count ret
  | .gathering slot i ret tmp => ∃ count, i = UInt16.ofNat (rtpHdrSize + 6 * count) ∧
      Dumping accepts q beyond before audio slot count ret ∧
      rtpHdrSize + 6 * count < (q.slotAt slot).len.toNat ∧ tmp.length ≤ 6 ∧
      tmp = ((frameOffsets i).take tmp.length).map (slotMemory (q.slotAt slot) beyond)
  | .finished ret => ∃ slot count, Dumping accepts q beyond before audio slot count ret ∧
      (q.slotAt slot).len.toNat ≤ rtpHdrSize + 6 * count

theorem network_step_publishes {rtpPacketLength : UInt16} {s : PlaybackState}
    {published : List Bytes} (invariant : PlaybackInvariant rtpPacketLength s published)
    (event : RecvResult) (reading : NsTime) :
    Publishes s.queue (networkStep rtpPacketLength s event reading).queue := by
  have knows := invariant.network
  unfold networkStep
  cases pc : s.network with
  | idle =>
      cases event with
      | again => exact publishes_refl s.queue
      | failed => exact publishes_refl s.queue
      | datagram bytes =>
          dsimp only
          split_ifs
          · exact publishes_store s.queue _ fun _ => write_at_length _ _ _
          · exact publishes_refl s.queue
  | received slot datagram =>
      dsimp only
      split_ifs <;> exact publishes_refl s.queue
  | roomFound slot datagram =>
      rw [pc] at knows
      rw [knows.2.1]
      apply publishes_store
      exact fun _ => rfl
  | lenSet slot datagram =>
      rw [pc] at knows
      rw [knows.2.1]
      apply publishes_store
      exact fun _ => rfl
  | seqSet slot datagram =>
      rw [pc] at knows
      rw [knows.2.1]
      apply publishes_store
      exact fun _ => rfl
  | stamped datagram => exact publishes_refl s.queue
  | counted datagram =>
      rw [pc] at knows
      exact publishes_next knows.2.2.1

section

variable {accepts : Nat → Option Nat} {q after : AoipQueue} {beyond : Nat → UInt8}
  {before audio : AudioCtx}

theorem dumping_publishes {slot count : Nat} {ret : Int32}
    (dumping : Dumping accepts q beyond before audio slot count ret)
    (publishes : Publishes q after) :
    Dumping accepts after beyond before audio slot count ret ∧
      after.slotAt slot = q.slotAt slot := by
  obtain ⟨waiting, same⟩ := publishes_oldest publishes dumping.waiting
  have kept : after.slotAt slot = q.slotAt slot := by
    rw [publishes.tail, ← dumping.place] at same
    exact same
  refine ⟨⟨?_, waiting, ?_, ?_⟩, kept⟩
  · rw [publishes.tail, dumping.place]
  · rw [kept]
    exact dumping.inside
  · rw [kept]
    exact dumping.dumped

theorem knows_publishes {pc : DumpPc} (knows : DumpKnows accepts q beyond before audio pc)
    (publishes : Publishes q after) : DumpKnows accepts after beyond before audio pc := by
  cases pc with
  | idle => exact knows
  | testing slot i ret =>
      obtain ⟨count, start, dumping⟩ := knows
      exact ⟨count, start, (dumping_publishes dumping publishes).1⟩
  | gathering slot i ret tmp =>
      obtain ⟨count, start, dumping, more⟩ := knows
      obtain ⟨onward, kept⟩ := dumping_publishes dumping publishes
      refine ⟨count, start, onward, ?_⟩
      rw [kept]
      exact more
  | finished ret =>
      obtain ⟨slot, count, dumping, reached⟩ := knows
      obtain ⟨onward, kept⟩ := dumping_publishes dumping publishes
      refine ⟨slot, count, onward, ?_⟩
      rw [kept]
      exact reached

end

/-! ## One step of the call -/

theorem starts_succ (count : Nat) :
    startsOf (count + 1) = startsOf count ++ [UInt16.ofNat (rtpHdrSize + 6 * count)] := by
  rw [startsOf, List.range'_concat, List.map_append, List.map_singleton, startsOf]

theorem dump_frames_congr (accepts : Nat → Option Nat) (memory other : Nat → UInt8)
    (starts : List UInt16) (first : Int32 × AudioCtx)
    (agree : ∀ i ∈ starts, (frameOffsets i).map memory = (frameOffsets i).map other) :
    starts.foldl (dumpFrame accepts memory) first = starts.foldl (dumpFrame accepts other) first := by
  induction starts generalizing first with
  | nil => rfl
  | cons i rest ih =>
      have parts := List.forall_mem_cons.mp agree
      rw [List.foldl_cons, List.foldl_cons, dumpFrame, dumpFrame, parts.1]
      exact ih _ parts.2

theorem frame_offset_bounds {i : UInt16} {offset : Nat} (member : offset ∈ frameOffsets i) :
    queueRtpHdrOffset + i.toNat ≤ offset ∧ offset < queueRtpHdrOffset + i.toNat + 6 := by
  simp only [frameOffsets, List.map_cons, List.map_nil, List.mem_cons, List.not_mem_nil,
    or_false] at member
  omega

theorem frame_offsets_distinct {i : UInt16} {index offset : Nat}
    (found : (frameOffsets i)[index]? = some offset) :
    offset ∉ (frameOffsets i).take index := by
  have distinct : (frameOffsets i).Nodup := by
    simp [frameOffsets]
  obtain ⟨inside, rfl⟩ := List.getElem?_eq_some_iff.mp found
  intro member
  obtain ⟨earlier, bound, same⟩ := List.mem_take_iff_getElem.mp member
  have equal := (List.Nodup.getElem_inj_iff distinct).mp same
  omega

theorem starts_before (count offset : Nat) (bounded : rtpHdrSize + 6 * count < 65536)
    (later : queueRtpHdrOffset + (rtpHdrSize + 6 * count) ≤ offset) :
    ∀ i ∈ startsOf count, ∀ each ∈ frameOffsets i, each ≠ offset := by
  intro i member each read
  obtain ⟨start, listed, rfl⟩ := List.mem_map.mp member
  obtain ⟨index, below, rfl⟩ := List.mem_range'.mp listed
  have bounds := frame_offset_bounds read
  rw [UInt16.toNat_ofNat_of_lt' (by rw [UInt16.size]; omega)] at bounds
  omega

theorem memory_updated (slot : QueueSlot) (beyond : Nat → UInt8) {offset each : Nat}
    (other : each ≠ offset) (outside : UInt8) :
    slotMemory slot (Function.update beyond offset outside) each = slotMemory slot beyond each := by
  rw [slotMemory, slotMemory, Function.update_of_ne other]

section

variable {accepts : Nat → Option Nat} {q : AoipQueue} {beyond : Nat → UInt8}
  {before audio : AudioCtx} {slot count : Nat} {ret : Int32}

theorem start_value (dumping : Dumping accepts q beyond before audio slot count ret)
    (short : (q.slotAt slot).len.toNat ≤ 65532) :
    (UInt16.ofNat (rtpHdrSize + 6 * count)).toNat = rtpHdrSize + 6 * count := by
  have size : rtpHdrSize = 12 := rfl
  apply UInt16.toNat_ofNat_of_lt'
  rw [UInt16.size]
  cases count with
  | zero => omega
  | succ count =>
      have last := dumping.inside count (Nat.lt_succ_self count)
      omega

theorem testing_goes_on {i : UInt16} (short : (q.slotAt slot).len.toNat ≤ 65532)
    (knows : DumpKnows accepts q beyond before audio (.testing slot i ret))
    (more : i < (q.slotAt slot).len) :
    DumpKnows accepts q beyond before audio (.gathering slot i ret []) := by
  obtain ⟨count, rfl, dumping⟩ := knows
  refine ⟨count, rfl, dumping, ?_, Nat.zero_le 6, rfl⟩
  rwa [UInt16.lt_iff_toNat_lt, start_value dumping short] at more

theorem testing_ends {i : UInt16} (short : (q.slotAt slot).len.toNat ≤ 65532)
    (knows : DumpKnows accepts q beyond before audio (.testing slot i ret))
    (done : ¬i < (q.slotAt slot).len) :
    DumpKnows accepts q beyond before audio (.finished ret) := by
  obtain ⟨count, rfl, dumping⟩ := knows
  refine ⟨slot, count, dumping, ?_⟩
  rw [UInt16.lt_iff_toNat_lt, start_value dumping short] at done
  omega

theorem gathering_reads {i : UInt16} {tmp : Bytes} {offset : Nat}
    (short : (q.slotAt slot).len.toNat ≤ 65532)
    (knows : DumpKnows accepts q beyond before audio (.gathering slot i ret tmp))
    (found : (frameOffsets i)[tmp.length]? = some offset) (outside : UInt8) :
    DumpKnows accepts q (Function.update beyond offset outside) before audio
      (.gathering slot i ret
        (tmp ++ [slotMemory (q.slotAt slot) (Function.update beyond offset outside) offset])) := by
  obtain ⟨count, rfl, dumping, more, atMost, gathered⟩ := knows
  have value := start_value dumping short
  have bounds := frame_offset_bounds (List.mem_of_getElem? found)
  rw [value] at bounds
  -- neither the earlier frames nor the earlier bytes of this one are read from there
  have frames : ∀ i ∈ startsOf count,
      (frameOffsets i).map (slotMemory (q.slotAt slot) beyond) =
        (frameOffsets i).map
          (slotMemory (q.slotAt slot) (Function.update beyond offset outside)) := by
    intro i member
    apply List.map_congr_left
    intro each read
    exact (memory_updated _ _ (starts_before count offset (by omega) bounds.1 i member each read)
      outside).symm
  have bytes : ∀ each ∈ (frameOffsets (UInt16.ofNat (rtpHdrSize + 6 * count))).take tmp.length,
      slotMemory (q.slotAt slot) beyond each =
        slotMemory (q.slotAt slot) (Function.update beyond offset outside) each := by
    intro each member
    refine (memory_updated _ _ ?_ outside).symm
    rintro rfl
    exact frame_offsets_distinct found member
  have room : tmp.length < 6 := (List.getElem?_eq_some_iff.mp found).1
  refine ⟨count, rfl, ⟨dumping.place, dumping.waiting, dumping.inside, ?_⟩, more, ?_, ?_⟩
  · rw [dumping.dumped]
    exact dump_frames_congr accepts _ _ _ _ frames
  · rw [List.length_append]
    exact room
  · rw [List.length_append, List.length_singleton, List.take_add_one, found, Option.toList_some,
      List.map_append, List.map_singleton, ← List.map_congr_left bytes, ← gathered]

theorem gathering_writes {i : UInt16} {tmp : Bytes}
    (knows : DumpKnows accepts q beyond before audio (.gathering slot i ret tmp))
    (whole : (frameOffsets i)[tmp.length]? = none) :
    DumpKnows accepts q beyond before
      ⟨(write accepts audio.fd tmp).2, (audio.receivedFrames + 1) &&& 0xffffffff⟩
      (.testing slot (i + 6) (if (write accepts audio.fd tmp).1 < 1 then -1 else ret)) := by
  obtain ⟨count, rfl, dumping, more, atMost, gathered⟩ := knows
  have full : 6 ≤ tmp.length := List.getElem?_eq_none_iff.mp whole
  rw [List.take_of_length_le full] at gathered
  refine ⟨count + 1, ?_, dumping.place, dumping.waiting, ?_, ?_⟩
  · rw [Nat.mul_succ, ← Nat.add_assoc]
    exact (UInt16.ofNat_add _ 6).symm
  · intro index below
    rcases Nat.lt_succ_iff_lt_or_eq.mp below with earlier | rfl
    · exact dumping.inside index earlier
    · exact more
  · rw [starts_succ, List.foldl_append, ← dumping.dumped, List.foldl_cons, List.foldl_nil,
      dumpFrame, ← gathered]

/-- Once all frames are written the call has done what it does as a whole. -/
theorem finished_call (short : (q.slotAt (queueReadPtr q)).len.toNat ≤ 65532)
    (knows : DumpKnows accepts q beyond before audio (.finished ret)) :
    ∃ reads, rtpdumpAoRead accepts beyond q before =
      some ⟨ret, queueReadNext q, audio, reads⟩ := by
  obtain ⟨slot, count, dumping, reached⟩ := knows
  have place : slot = queueReadPtr q := dumping.place
  subst place
  have size : rtpHdrSize = 12 := rfl
  have counted : frameCount (q.slotAt (queueReadPtr q)).len = count := by
    rw [frameCount, if_pos short]
    cases count with
    | zero => omega
    | succ count =>
        have last := dumping.inside count (Nat.lt_succ_self count)
        omega
  have dumped := dumping.dumped
  rw [rtpdumpAoRead, dumping.waiting, frame_starts_short _ short, counted]
  dsimp only
  rw [Bool.not_false, if_pos rfl, Option.map_some]
  unfold startsOf at dumped
  rw [← dumped]
  exact ⟨_, rfl⟩

end

/-! ## Every step is explained -/

theorem oldest_short {rtpPacketLength : UInt16} {s : PlaybackState} {published : List Bytes}
    (invariant : PlaybackInvariant rtpPacketLength s published)
    (waiting : queueEmpty s.queue = false) :
    (s.queue.slotAt s.queue.tail.toNat).len.toNat ≤ rtpPacketLength.toNat := by
  obtain ⟨datagram, -, -, len, stored⟩ := oldest_packet invariant waiting
  have lengths := congrArg List.length stored
  rw [List.length_take, slot_at_data_length, invariant.sized] at lengths
  omega

theorem release_invariant {rtpPacketLength : UInt16} {s : PlaybackState} {published : List Bytes}
    (invariant : PlaybackInvariant rtpPacketLength s published) (unread : s.reader = .idle)
    (waiting : queueEmpty s.queue = false) :
    PlaybackInvariant rtpPacketLength (takeOldest s (queueReadNext s.queue)) published := by
  let slot := s.queue.slotAt s.queue.tail.toNat
  have short : slot.len.toNat ≤ rtpPacketLength.toNat := oldest_short invariant waiting
  have size : (slot.data.take slot.len.toNat).length = slot.len.toNat := by
    rw [List.length_take, slot_at_data_length, invariant.sized]
    omega
  have read : PlaybackInvariant rtpPacketLength
      { s with
        reader := .reading s.queue.tail.toNat slot.seq slot.len (slot.data.take slot.len.toNat) }
      published :=
    { invariant with reader := ⟨rfl, waiting, rfl, rfl, size.le, by rw [size]⟩ }
  have released := reader_step_invariant read
  unfold readerStep at released
  dsimp only at released
  rw [if_neg (by rw [size]; exact lt_irrefl _)] at released
  have taken : oldest s.queue = [slotPacket slot] := by
    rw [oldest, waiting]
    rfl
  rw [takeOldest, taken, unread]
  exact released

section

variable {accepts : Nat → Option Nat} {rtpPacketLength : UInt16}

/-- The state is that of a recorder whose current call has not begun. -/
structure Explained (accepts : Nat → Option Nat) (rtpPacketLength : UInt16) (s : DumpState)
    (r : Recorder) : Prop where
  playback : ∃ published, PlaybackInvariant rtpPacketLength s.playback published
  reader : s.playback.reader = .idle
  same : r = ⟨s.playback, s.before, s.rets⟩
  knows : DumpKnows accepts s.playback.queue s.beyond s.before s.audio s.dump

theorem network_step_reader (s : PlaybackState) (event : RecvResult) (reading : NsTime) :
    (networkStep rtpPacketLength s event reading).reader = s.reader := by
  unfold networkStep
  cases s.network with
  | idle =>
      cases event with
      | datagram bytes =>
          dsimp only
          split_ifs <;> rfl
      | _ => rfl
  | received slot datagram =>
      dsimp only
      split_ifs <;> rfl
  | _ => rfl

theorem silent_step_explained (small : rtpPacketLength.toNat ≤ 65532) {s : DumpState}
    {r : Recorder} (explained : Explained accepts rtpPacketLength s r) (outside : UInt8)
    (silent : recorderEvent s (.dump outside) = none) :
    Explained accepts rtpPacketLength (dumpStep accepts s outside) r := by
  obtain ⟨⟨published, invariant⟩, unread, same, knows⟩ := explained
  unfold recorderEvent at silent
  unfold dumpStep
  cases pc : s.dump with
  | idle =>
      rw [pc] at silent knows
      cases empty : queueEmpty s.playback.queue with
      | true => simp [empty] at silent
      | false =>
          refine ⟨⟨published, invariant⟩, unread, same, 0, rfl, rfl, empty, ?_, ?_⟩
          · intro index below
            exact absurd below (Nat.not_lt_zero index)
          · exact congrArg (Prod.mk 0) knows
  | testing slot i ret =>
      rw [pc] at knows
      have short : (s.playback.queue.slotAt slot).len.toNat ≤ 65532 := by
        obtain ⟨count, -, dumping⟩ := knows
        rw [dumping.place]
        exact le_trans (oldest_short invariant dumping.waiting) small
      dsimp only
      split_ifs with more
      · exact ⟨⟨published, invariant⟩, unread, same, testing_goes_on short knows more⟩
      · exact ⟨⟨published, invariant⟩, unread, same, testing_ends short knows more⟩
  | gathering slot i ret tmp =>
      rw [pc] at knows
      have short : (s.playback.queue.slotAt slot).len.toNat ≤ 65532 := by
        obtain ⟨count, -, dumping, -⟩ := knows
        rw [dumping.place]
        exact le_trans (oldest_short invariant dumping.waiting) small
      cases found : (frameOffsets i)[tmp.length]? with
      | none =>
          dsimp only
          rw [found]
          exact ⟨⟨published, invariant⟩, unread, same, gathering_writes knows found⟩
      | some offset =>
          dsimp only
          rw [found]
          exact ⟨⟨published, invariant⟩, unread, same, gathering_reads short knows found outside⟩
  | finished ret =>
      rw [pc] at silent
      cases silent

theorem visible_step_explained (small : rtpPacketLength.toNat ≤ 65532) {s : DumpState}
    {r : Recorder} (explained : Explained accepts rtpPacketLength s r) (outside : UInt8)
    (happened : RecorderEvent) (visible : recorderEvent s (.dump outside) = some happened) :
    ∃ reached, recorderNext accepts rtpPacketLength r happened = some reached ∧
      Explained accepts rtpPacketLength (dumpStep accepts s outside) reached := by
  obtain ⟨⟨published, invariant⟩, unread, rfl, knows⟩ := explained
  unfold recorderEvent at visible
  unfold dumpStep
  cases pc : s.dump with
  | idle =>
      rw [pc] at visible knows
      dsimp only at visible
      split_ifs at visible with empty
      obtain rfl := Option.some.inj visible
      have nothing : oldest s.playback.queue = [] := by
        rw [oldest, empty]
        rfl
      refine ⟨⟨s.playback, s.before, s.rets ++ [0]⟩, ?_, ?_⟩
      · rw [recorderNext, rtpdumpAoRead, empty]
        dsimp only
        rw [Bool.not_true, if_neg Bool.false_ne_true, Option.map_some, takeOldest, nothing,
          List.append_nil]
      · rw [empty]
        refine ⟨⟨published, invariant⟩, unread, rfl, ?_⟩
        exact knows
  | testing slot i ret => simp [pc] at visible
  | gathering slot i ret tmp => simp [pc] at visible
  | finished ret =>
      rw [pc] at visible knows
      obtain rfl := Option.some.inj visible
      have waiting : queueEmpty s.playback.queue = false := by
        obtain ⟨slot, count, dumping, -⟩ := knows
        exact dumping.waiting
      have short := le_trans (oldest_short invariant waiting) small
      obtain ⟨reads, whole⟩ := finished_call short knows
      refine ⟨_, ?_, ⟨published, release_invariant invariant unread waiting⟩, unread, rfl, rfl⟩
      rw [recorderNext, whole]
      rfl

theorem dump_steps_linearise (small : rtpPacketLength.toNat ≤ 65532) :
    Linearises (dumpAction accepts rtpPacketLength) recorderEvent
      (recorderNext accepts rtpPacketLength) (Explained accepts rtpPacketLength) := by
  constructor
  · intro s r action explained silent
    cases action with
    | network event reading => cases silent
    | dump outside => exact silent_step_explained small explained outside silent
  · intro s r action happened explained visible
    cases action with
    | network event reading =>
        obtain rfl := Option.some.inj visible
        obtain ⟨⟨published, invariant⟩, unread, rfl, knows⟩ := explained
        refine ⟨_, rfl, network_step_invariant invariant event reading, ?_, rfl, ?_⟩
        · exact (network_step_reader s.playback event reading).trans unread
        · exact knows_publishes knows (network_step_publishes invariant event reading)
    | dump outside => exact visible_step_explained small explained outside happened visible

/-- In every interleaving with the network thread the calls of `rtpdump_ao_read`
act as whole calls, each at the moment it moves `tail` or finds the queue empty:
the queue, the file and the values returned are those of whole calls. -/
theorem dump_calls_are_atomic (accepts : Nat → Option Nat) (slots : Bool) (data : Nat → Bool)
    (rtpPacketLength : UInt16) (small : rtpPacketLength.toNat ≤ 65532) (time : Nat → UInt32)
    (queue : AoipQueue) (created : aoipQueueInit slots data rtpPacketLength time = some queue)
    (audio : AudioCtx) (schedule : List DumpAction) :
    let s := dumpRun accepts rtpPacketLength (dumpStart queue audio) schedule
    follow (recorderNext accepts rtpPacketLength) ⟨playbackStart queue, audio, []⟩
        (events (dumpAction accepts rtpPacketLength) recorderEvent (dumpStart queue audio) schedule) =
      some ⟨s.playback, s.before, s.rets⟩ ∧
    (s.dump = .idle → s.audio = s.before) := by
  have start := invariant_start slots data rtpPacketLength time queue created
  obtain ⟨reached, followed, explained⟩ := run_linearises (dump_steps_linearise small) schedule
    (dumpStart queue audio) ⟨playbackStart queue, audio, []⟩ ⟨⟨[], start⟩, rfl, rfl, rfl⟩
  obtain ⟨-, -, rfl, knows⟩ := explained
  refine ⟨followed, ?_⟩
  intro idle
  unfold dumpRun at idle
  rw [idle] at knows
  exact knows

end

/-- A packet of one frame is received, and then dumped: the network thread stores
another datagram in between. -/
def sampleDump : List DumpAction :=
  List.replicate 7 (.network (.datagram (List.replicate 18 5)) 0) ++
    List.replicate 5 (.dump 0) ++
    List.replicate 3 (.network (.datagram (List.replicate 18 6)) 0) ++
    List.replicate 6 (.dump 9)

theorem sample_dump_is_atomic :
    let start := dumpStart (emptyQueue 18 fun _ => 0) sampleAudio
    let s := dumpRun takesAll 18 start sampleDump
    (s.rets, s.before.fd.written) = ([0], [[0, 0, 0, 9, 9, 9]]) ∧
      follow (recorderNext takesAll 18) ⟨start.playback, sampleAudio, []⟩
          (events (dumpAction takesAll 18) recorderEvent start sampleDump) =
        some ⟨s.playback, s.before, s.rets⟩ :=
  ⟨by decide +kernel, (dump_calls_are_atomic takesAll true (fun _ => true) 18 (by decide)
    (fun _ => 0) (emptyQueue 18 fun _ => 0) (by simp [aoipQueueInit]) sampleAudio sampleDump).1⟩

/-! ## What the file holds of the packets -/

/-- How a packet shows in the file. It makes as many frames as it has, but frame
`index` of them is its own frame `index + 2`, as far as that lies in it. -/
structure DumpedAs (packet : Bytes) (frames : List Bytes) : Prop where
  count : frames.length = (packet.length - 7) / 6
  shifted : ∀ index, rtpHdrSize + 6 * (index + 3) ≤ packet.length →
    frames[index]? = some (payloadFrame packet (index + 2))

theorem slice_three (items : Bytes) (start : Nat) (fits : start + 3 ≤ items.length)
    (other : Nat → UInt8) :
    (slice items start 3).reverse =
      [items.getD (start + 2) (other (start + 2)), items.getD (start + 1) (other (start + 1)),
        items.getD start (other start)] := by
  rw [slice, List.drop_eq_getElem_cons (by omega), List.drop_eq_getElem_cons (by omega),
    List.drop_eq_getElem_cons (by omega), List.getD_eq_getElem _ _ (by omega),
    List.getD_eq_getElem _ _ (by omega), List.getD_eq_getElem _ _ (by omega)]
  rfl

theorem frame_of_packet (slot : QueueSlot) (beyond : Nat → UInt8) (index : Nat)
    (room : slot.len.toNat ≤ slot.data.length)
    (fits : rtpHdrSize + 6 * (index + 3) ≤ slot.len.toNat) :
    (frameOffsets (UInt16.ofNat (rtpHdrSize + 6 * index))).map (slotMemory slot beyond) =
      payloadFrame (slotPacket slot).bytes (index + 2) := by
  have size : rtpHdrSize = 12 := rfl
  have offset : queueRtpHdrOffset = 12 := rfl
  have bound := slot.len.toNat_lt
  have value : (UInt16.ofNat (rtpHdrSize + 6 * index)).toNat = rtpHdrSize + 6 * index :=
    UInt16.toNat_ofNat_of_lt' (by rw [UInt16.size]; omega)
  have inside : ∀ start, start + 3 ≤ slot.len.toNat →
      slice (slotPacket slot).bytes start 3 = slice slot.data start 3 := by
    intro start within
    exact slice_take slot.data within
  rw [payloadFrame, inside _ (by omega), inside _ (by omega),
    slice_three slot.data _ (by omega) beyond, slice_three slot.data _ (by omega) beyond]
  rw [frameOffsets, value, size, offset]
  have same : ∀ first second : Nat, first = second →
      slotMemory slot beyond first = slot.data.getD second (beyond second) := by
    intro first second equal
    rw [equal, slotMemory]
  simp only [List.map_cons, List.map_nil, List.cons_append, List.nil_append]
  rw [same _ (12 + 6 * (index + 2) + 2) (by omega), same _ (12 + 6 * (index + 2) + 1) (by omega),
    same _ (12 + 6 * (index + 2)) (by omega), same _ (12 + 6 * (index + 2) + 3 + 2) (by omega),
    same _ (12 + 6 * (index + 2) + 3 + 1) (by omega), same _ (12 + 6 * (index + 2) + 3) (by omega)]

theorem packet_dumped (slot : QueueSlot) (beyond : Nat → UInt8)
    (room : slot.len.toNat ≤ slot.data.length) (short : slot.len.toNat ≤ 65532) :
    DumpedAs (slotPacket slot).bytes
      ((startsOf (frameCount slot.len)).map fun i =>
        (frameOffsets i).map (slotMemory slot beyond)) := by
  have length : (slotPacket slot).bytes.length = slot.len.toNat := by
    rw [slotPacket, List.length_take]
    omega
  have count : frameCount slot.len = (slot.len.toNat - 7) / 6 := if_pos short
  have size : rtpHdrSize = 12 := rfl
  constructor
  · rw [List.length_map, startsOf, List.length_map, List.length_range', count, length]
  · intro index fits
    rw [length] at fits
    rw [startsOf, List.map_map, List.getElem?_map, List.getElem?_range' (by omega)]
    exact congrArg some (frame_of_packet slot beyond index room fits)

def writtenFrames (q : AoipQueue) (beyond : Nat → UInt8) : List Bytes :=
  (startsOf (frameCount (q.slotAt (queueReadPtr q)).len)).map fun i =>
    (frameOffsets i).map (slotMemory (q.slotAt (queueReadPtr q)) beyond)

theorem ao_read_writes_frames {accepts : Nat → Option Nat} (complete : WritesAll accepts)
    (beyond : Nat → UInt8) {q : AoipQueue} (audio : AudioCtx) (waiting : queueEmpty q = false)
    (short : (q.slotAt (queueReadPtr q)).len.toNat ≤ 65532) :
    ∃ reads, rtpdumpAoRead accepts beyond q audio =
      some ⟨0, queueReadNext q, audio.extended (writtenFrames q beyond), reads⟩ := by
  rw [rtpdumpAoRead, waiting, frame_starts_short _ short]
  dsimp only
  rw [Bool.not_false, if_pos rfl, Option.map_some, dump_frames_extend complete]
  exact ⟨_, rfl⟩

/-- What a recorder with whole calls has handed to `write`. -/
structure Filed (rtpPacketLength : UInt16) (audio : AudioCtx) (r : Recorder) : Prop where
  playback : ∃ published, PlaybackInvariant rtpPacketLength r.playback published
  reader : r.playback.reader = .idle
  frames : ∃ frames, r.audio = audio.extended frames.flatten ∧
    List.Forall₂ DumpedAs (r.playback.seen.map Packet.bytes) frames

theorem recorder_keeps_filed {accepts : Nat → Option Nat} (complete : WritesAll accepts)
    {rtpPacketLength : UInt16} (small : rtpPacketLength.toNat ≤ 65532) (audio : AudioCtx)
    (r : Recorder) (event : RecorderEvent) (reached : Recorder)
    (filed : Filed rtpPacketLength audio r)
    (stepped : recorderNext accepts rtpPacketLength r event = some reached) :
    Filed rtpPacketLength audio reached := by
  obtain ⟨⟨published, invariant⟩, unread, frames, extended, dumped⟩ := filed
  cases event with
  | network event reading =>
      obtain rfl := Option.some.inj stepped
      refine ⟨network_step_invariant invariant event reading, ?_, frames, extended, ?_⟩
      · exact (network_step_reader r.playback event reading).trans unread
      · dsimp only
        rw [(network_step_logs rtpPacketLength r.playback event reading).1]
        exact dumped
  | read beyond =>
      rw [recorderNext, Option.map_eq_some_iff] at stepped
      obtain ⟨call, called, rfl⟩ := stepped
      cases waiting : queueEmpty r.playback.queue with
      | true =>
          have nothing : oldest r.playback.queue = [] := by
            rw [oldest, waiting]
            rfl
          rw [rtpdumpAoRead, waiting] at called
          obtain rfl := Option.some.inj called
          rw [takeOldest, nothing, List.append_nil]
          exact ⟨⟨published, invariant⟩, unread, frames, extended, dumped⟩
      | false =>
          have short : (r.playback.queue.slotAt (queueReadPtr r.playback.queue)).len.toNat ≤
              rtpPacketLength.toNat := oldest_short invariant waiting
          have room : (r.playback.queue.slotAt (queueReadPtr r.playback.queue)).len.toNat ≤
              (r.playback.queue.slotAt (queueReadPtr r.playback.queue)).data.length := by
            rw [slot_at_data_length, invariant.sized]
            exact short
          have taken : oldest r.playback.queue =
              [slotPacket (r.playback.queue.slotAt (queueReadPtr r.playback.queue))] := by
            rw [oldest, waiting]
            rfl
          obtain ⟨reads, whole⟩ := ao_read_writes_frames complete beyond r.audio waiting
            (le_trans short small)
          rw [whole, Option.some.injEq] at called
          subst called
          refine ⟨⟨published, release_invariant invariant unread waiting⟩, unread,
            frames ++ [writtenFrames r.playback.queue beyond], ?_, ?_⟩
          · dsimp only
            rw [extended, extended_append, List.flatten_append, List.flatten_singleton]
          · dsimp only
            rw [takeOldest, taken, List.map_append]
            refine List.rel_append dumped (List.Forall₂.cons ?_ List.Forall₂.nil)
            exact packet_dumped _ beyond room (le_trans short small)

/-- In every interleaving the buffers handed to `write` by the finished calls are
those of the packets taken from the queue, in order. -/
theorem dump_contents {accepts : Nat → Option Nat} (complete : WritesAll accepts) (slots : Bool)
    (data : Nat → Bool) (rtpPacketLength : UInt16) (small : rtpPacketLength.toNat ≤ 65532)
    (time : Nat → UInt32) (queue : AoipQueue)
    (created : aoipQueueInit slots data rtpPacketLength time = some queue) (audio : AudioCtx)
    (schedule : List DumpAction) :
    let s := dumpRun accepts rtpPacketLength (dumpStart queue audio) schedule
    (s.dump = .idle → s.audio = s.before) ∧
      Filed rtpPacketLength audio ⟨s.playback, s.before, s.rets⟩ := by
  have start := invariant_start slots data rtpPacketLength time queue created
  obtain ⟨reached, followed, explained⟩ := run_linearises (dump_steps_linearise small) schedule
    (dumpStart queue audio) ⟨playbackStart queue, audio, []⟩ ⟨⟨[], start⟩, rfl, rfl, rfl⟩
  have first : Filed rtpPacketLength audio ⟨playbackStart queue, audio, []⟩ :=
    ⟨⟨[], start⟩, rfl, [], (extended_nil audio).symm, List.Forall₂.nil⟩
  have filed := follow_invariant (recorder_keeps_filed complete small audio) _ _ _ first followed
  obtain ⟨-, -, rfl, knows⟩ := explained
  refine ⟨?_, filed⟩
  intro idle
  unfold dumpRun at idle
  rw [idle] at knows
  exact knows

end AoipCore.Dump
