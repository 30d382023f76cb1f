import AoipCore.Library.MachineInt
import AoipCore.Queue
import AoipCore.Wav

/-!
# Dumping received packets into a WAV file (`rtpdump.c`)

`rtpdump_ao_read` takes the oldest packet of the queue and writes its frames of
two 24-bit samples, each with its bytes reversed. `rd` already points behind the
RTP header, and the index of the loop starts behind it once more. The bytes of
memory behind a slot's buffer are an arbitrary function of their offset.
-/

namespace AoipCore.Rtpdump

open ByteBuffer FileImage MachineInt AoipCore.Host AoipCore.Rtp AoipCore.Queue AoipCore.Wav

set_option autoImplicit false

structure AudioCtx where
  fd : WavFd
  receivedFrames : UInt32
  deriving DecidableEq, Repr

/-- On the zeroed `struct audio_ctx` of `main`; none if the file cannot be opened. -/
def rtpdumpAoInit (permitted : Bool) (previous : Option Bytes) : Option AudioCtx :=
  (wavOpen permitted previous).map fun fd => ⟨fd, 0⟩

def rtpdumpAoOpen (accepts : Nat → Option Nat) (audio : AudioCtx) : Int32 × AudioCtx :=
  let (count, fd) := initWavHdr accepts audio.fd (buildWavHdr zeroHdr)
  (if count < 1 then -1 else 0, { audio with fd := fd })

def rtpdumpAoClose (accepts : Nat → Option Nat) (audio : AudioCtx) : Int32 × AudioCtx :=
  (0, { audio with fd := (updateWavHdr accepts audio.fd audio.receivedFrames).2 })

/-- `for (uint16_t i = RTP_HDR_SIZE; i < slot->len; i+=6)`: the values of `i`,
or none if `fuel` of them are not enough. -/
def frameStarts (len : UInt16) : Nat → UInt16 → Option (List UInt16)
  | 0, _ => none
  | fuel + 1, i =>
      if i < len then (frameStarts len fuel (i + 6)).map fun later => i :: later else some []

/-- The offsets in `slot->data` that are read for one frame, in the order of
`tmp`. -/
def frameOffsets (i : UInt16) : List Nat :=
  [2 + i.toNat, 1 + i.toNat, 0 + i.toNat, 5 + i.toNat, 4 + i.toNat, 3 + i.toNat].map
    fun offset => queueRtpHdrOffset + offset

def slotMemory (slot : QueueSlot) (beyond : Nat → UInt8) (offset : Nat) : UInt8 :=
  slot.data.getD offset (beyond offset)

/-- The body of the loop, with the value to be returned. A failed write counts
as a frame. -/
def dumpFrame (accepts : Nat → Option Nat) (memory : Nat → UInt8) (state : Int32 × AudioCtx)
    (i : UInt16) : Int32 × AudioCtx :=
  let (count, fd) := write accepts state.2.fd ((frameOffsets i).map memory)
  (if count < 1 then -1 else state.1,
    { fd := fd, receivedFrames := (state.2.receivedFrames + 1) &&& 0xffffffff })

/-- What a call leaves behind, and the offsets in `slot->data` it has read. -/
structure ReadCall where
  ret : Int32
  queue : AoipQueue
  audio : AudioCtx
  reads : List Nat

/-- More values than a `uint16_t` has: the loop is over by then, or never. -/
def frameFuel : Nat := 65537

def rtpdumpAoRead (accepts : Nat → Option Nat) (beyond : Nat → UInt8) (queue : AoipQueue)
    (audio : AudioCtx) : Option ReadCall :=
  let slot := queue.slotAt (queueReadPtr queue)
  if !queueEmpty queue then
    (frameStarts slot.len frameFuel (UInt16.ofNat rtpHdrSize)).map fun starts =>
      let dumped := starts.foldl (dumpFrame accepts (slotMemory slot beyond)) (0, audio)
      ⟨dumped.1, queueReadNext queue, dumped.2, starts.flatMap frameOffsets⟩
  else some ⟨0, queue, audio, []⟩

/-! ## How many frames a length makes -/

/-- As long as the index stays below the length it does not wrap. -/
theorem frame_starts_run (len : UInt16) (fuel count start : Nat)
    (inside : ∀ index < count, start + 6 * index < len.toNat) :
    frameStarts len (fuel + count) (UInt16.ofNat start) =
      (frameStarts len fuel (UInt16.ofNat (start + 6 * count))).map fun later =>
        (List.range' start count 6).map UInt16.ofNat ++ later := by
  induction count generalizing start with
  | zero => simp
  | succ count ih =>
      have room := inside 0 (by omega)
      have bound := len.toNat_lt
      have below : UInt16.ofNat start < len := by
        rw [UInt16.lt_iff_toNat_lt, UInt16.toNat_ofNat_of_lt' (by rw [UInt16.size]; omega)]
        omega
      have next : UInt16.ofNat start + 6 = UInt16.ofNat (start + 6) := by
        rw [UInt16.ofNat_add]
        rfl
      have onward := ih (start + 6) (by
        intro index before
        have later := inside (index + 1) (by omega)
        omega)
      have landing : start + 6 + 6 * count = start + 6 * (count + 1) := by omega
      rw [← Nat.add_assoc, frameStarts, if_pos below, next, onward, landing, Option.map_map,
        List.range'_succ]
      rfl

/-- The number of frames; from 65533 on the index wraps once before it ends. -/
def frameCount (len : UInt16) : Nat :=
  if len.toNat ≤ 65532 then (len.toNat - 7) / 6 else 21843

theorem frame_starts_end (len : UInt16) (fuel start : Nat) (small : start < 65536)
    (reached : len.toNat ≤ start) : frameStarts len (fuel + 1) (UInt16.ofNat start) = some [] := by
  rw [frameStarts, if_neg]
  rw [UInt16.lt_iff_toNat_lt, UInt16.toNat_ofNat_of_lt' small]
  omega

theorem frame_starts_short (len : UInt16) (short : len.toNat ≤ 65532) :
    frameStarts len frameFuel (UInt16.ofNat rtpHdrSize) =
      some ((List.range' rtpHdrSize (frameCount len) 6).map UInt16.ofNat) := by
  have count : frameCount len = (len.toNat - 7) / 6 := if_pos short
  have size : rtpHdrSize = 12 := rfl
  have fuel : frameFuel = 65536 - frameCount len + 1 + frameCount len := by
    rw [count, frameFuel]
    omega
  rw [fuel, frame_starts_run _ _ _ _ (by omega), frame_starts_end _ _ _ (by omega) (by omega)]
  simp

theorem frame_starts_finite (len : UInt16) (finite : len ≠ 65535) :
    ∃ starts, frameStarts len frameFuel (UInt16.ofNat rtpHdrSize) = some starts ∧
      starts.length = frameCount len := by
  by_cases short : len.toNat ≤ 65532
  · refine ⟨_, frame_starts_short len short, ?_⟩
    rw [List.length_map, List.length_range']
  · have bound := len.toNat_lt
    have other : len.toNat ≠ 65535 := by
      intro same
      exact finite (UInt16.toNat_inj.mp same)
    have size : rtpHdrSize = 12 := rfl
    have fuel : frameFuel = (43693 + 1 + 10922) + 10921 := rfl
    have wrapped : UInt16.ofNat (rtpHdrSize + 6 * 10921) = UInt16.ofNat 2 := by decide
    rw [fuel, frame_starts_run _ _ _ _ (by omega), wrapped, frame_starts_run _ _ _ _ (by omega),
      frame_starts_end _ _ _ (by decide) (by omega)]
    refine ⟨_, rfl, ?_⟩
    rw [frameCount, if_neg short]
    simp

/-- With the length 65535 the index stays even and never ends. -/
theorem frame_starts_endless (fuel : Nat) (i : UInt16) (even : i.toNat % 2 = 0) :
    frameStarts 65535 fuel i = none := by
  induction fuel generalizing i with
  | zero => rfl
  | succ fuel ih =>
      have bound := i.toNat_lt
      have six : (6 : UInt16).toNat = 6 := rfl
      have below : i < 65535 := by
        rw [UInt16.lt_iff_toNat_lt]
        have last : (65535 : UInt16).toNat = 65535 := rfl
        omega
      rw [frameStarts, if_pos below, ih (i + 6), Option.map_none]
      rw [UInt16.toNat_add, six]
      omega

/-! ## What one call writes -/

def AudioCtx.extended (audio : AudioCtx) (frames : List Bytes) : AudioCtx where
  fd :=
    { file := frames.foldl (OpenFile.write 0) audio.fd.file
      calls := audio.fd.calls + frames.length
      written := audio.fd.written ++ frames }
  receivedFrames := audio.receivedFrames + UInt32.ofNat frames.length

theorem extended_nil (audio : AudioCtx) : audio.extended [] = audio := by
  simp [AudioCtx.extended]

theorem extended_append (audio : AudioCtx) (early late : List Bytes) :
    (audio.extended early).extended late = audio.extended (early ++ late) := by
  simp [AudioCtx.extended, Nat.add_assoc, UInt32.add_assoc, UInt32.ofNat_add]

section

variable {accepts : Nat → Option Nat} (complete : WritesAll accepts)

include complete

theorem dump_frame_extends (memory : Nat → UInt8) (ret : Int32) (audio : AudioCtx) (i : UInt16) :
    dumpFrame accepts memory (ret, audio) i =
      (ret, audio.extended [(frameOffsets i).map memory]) := by
  have size : ((frameOffsets i).map memory).length = 6 := rfl
  rw [dumpFrame, write_all complete _ (by rw [size]; decide), size]
  dsimp only
  rw [if_neg (by decide), masked_word32]
  rfl

theorem dump_frames_extend (memory : Nat → UInt8) (ret : Int32) (audio : AudioCtx)
    (starts : List UInt16) :
    starts.foldl (dumpFrame accepts memory) (ret, audio) =
      (ret, audio.extended (starts.map fun i => (frameOffsets i).map memory)) := by
  induction starts generalizing audio with
  | nil => rw [List.foldl_nil, List.map_nil, extended_nil]
  | cons i starts ih =>
      rw [List.foldl_cons, dump_frame_extends complete, ih, extended_append]
      rfl

/-! ### A packet of whole frames -/

/-- Frame `index` of a packet: two samples behind the RTP header, each with its
bytes reversed. -/
def payloadFrame (data : Bytes) (index : Nat) : Bytes :=
  (slice data (rtpHdrSize + 6 * index) 3).reverse ++
    (slice data (rtpHdrSize + 6 * index + 3) 3).reverse

/-- What dumping a packet of so many frames is meant to do. -/
structure DumpsPacket (queue : AoipQueue) (audio : AudioCtx) (frames : Nat) (call : ReadCall) :
    Prop where
  written : call.audio.fd.written = audio.fd.written ++
    (List.range frames).map (payloadFrame (queue.slotAt (queueReadPtr queue)).data)
  inside : ∀ offset ∈ call.reads, offset < (queue.slotAt (queueReadPtr queue)).len.toNat
  counted : call.audio.receivedFrames.toNat =
    (audio.receivedFrames.toNat + frames) % 4294967296
  released : call.queue = queueReadNext queue

/-- The packet is dumped as it should be exactly if it has no frames: the last
frame is read from behind its end. -/
theorem ao_read_dumps_packet_iff (beyond : Nat → UInt8) (queue : AoipQueue) (audio : AudioCtx)
    (frames : Nat) (waiting : queueEmpty queue = false)
    (sized : (queue.slotAt (queueReadPtr queue)).len.toNat = rtpHdrSize + 6 * frames)
    (fits : rtpHdrSize + 6 * frames ≤ queue.dataLen.toNat) :
    ∃ call, rtpdumpAoRead accepts beyond queue audio = some call ∧
      (DumpsPacket queue audio frames call ↔ frames = 0) := by
  have bound := queue.dataLen.toNat_lt
  have size : rtpHdrSize = 12 := rfl
  have short : (queue.slotAt (queueReadPtr queue)).len.toNat ≤ 65532 := by omega
  have count : frameCount (queue.slotAt (queueReadPtr queue)).len = frames := by
    rw [frameCount, if_pos short]
    omega
  rw [rtpdumpAoRead, waiting, frame_starts_short _ short, count]
  dsimp only
  rw [Bool.not_false, if_pos rfl, Option.map_some, dump_frames_extend complete]
  refine ⟨_, rfl, ?_⟩
  constructor
  · intro dumps
    by_contra present
    let start := UInt16.ofNat (rtpHdrSize + 6 * (frames - 1))
    have startValue : start.toNat = rtpHdrSize + 6 * (frames - 1) :=
      UInt16.toNat_ofNat_of_lt' (by rw [UInt16.size]; omega)
    have member : start ∈ (List.range' rtpHdrSize frames 6).map UInt16.ofNat := by
      apply List.mem_map_of_mem
      rw [List.mem_range']
      exact ⟨frames - 1, by omega, rfl⟩
    have read : queueRtpHdrOffset + (5 + start.toNat) ∈ frameOffsets start := by
      simp [frameOffsets]
    have early := dumps.inside _ (List.mem_flatMap_of_mem member read)
    have offset : queueRtpHdrOffset = 12 := rfl
    omega
  · rintro rfl
    refine ⟨?_, ?_, ?_, rfl⟩
    · simp [AudioCtx.extended]
    · simp
    · have bounded := audio.receivedFrames.toNat_lt
      simp [AudioCtx.extended]

end

def sampleQueue (len : UInt16) : AoipQueue :=
  queueWriteNext ((emptyQueue 300 fun _ => 0).setLen 0 len)

theorem sample_queue_slot (len : UInt16) :
    ((sampleQueue len).slotAt (queueReadPtr (sampleQueue len))).len = len := by
  have position : queueReadPtr (sampleQueue len) = 0 := rfl
  have published : ∀ (q : AoipQueue) index, (queueWriteNext q).slotAt index = q.slotAt index :=
    fun _ _ => rfl
  rw [position, sampleQueue, published, AoipQueue.setLen, slot_at_modify_same _ _ _ _ (by decide)]

def sampleAudio : AudioCtx := ⟨⟨⟨[], 0⟩, 0, []⟩, 0⟩

def takesAll : Nat → Option Nat := fun _ => some wavHdrSize

theorem takes_all : WritesAll takesAll := fun _ => ⟨wavHdrSize, rfl, le_rfl⟩

theorem sample_empty_packet :
    ∃ call, rtpdumpAoRead takesAll (fun _ => 0) (sampleQueue 12) sampleAudio = some call ∧
      (DumpsPacket (sampleQueue 12) sampleAudio 0 call ↔ 0 = 0) :=
  ao_read_dumps_packet_iff takes_all (fun _ => 0) (sampleQueue 12) sampleAudio 0 rfl
    (by rw [sample_queue_slot]; rfl) (by decide)

/-- The only frame of an 18-byte packet is read from offsets 24 to 29. -/
theorem sample_frame_read_behind_packet :
    (queueEmpty (sampleQueue 18) = false ∧
      ((sampleQueue 18).slotAt (queueReadPtr (sampleQueue 18))).len.toNat = rtpHdrSize + 6 * 1 ∧
      rtpHdrSize + 6 * 1 ≤ (sampleQueue 18).dataLen.toNat) ∧
    (rtpdumpAoRead takesAll (fun _ => 0) (sampleQueue 18) sampleAudio).map ReadCall.reads =
      some [26, 25, 24, 29, 28, 27] ∧
    ¬∃ call, rtpdumpAoRead takesAll (fun _ => 0) (sampleQueue 18) sampleAudio = some call ∧
      DumpsPacket (sampleQueue 18) sampleAudio 1 call := by
  have length : ((sampleQueue 18).slotAt (queueReadPtr (sampleQueue 18))).len = 18 :=
    sample_queue_slot 18
  have reads : (rtpdumpAoRead takesAll (fun _ => 0) (sampleQueue 18) sampleAudio).map
      ReadCall.reads = some [26, 25, 24, 29, 28, 27] := by
    rw [rtpdumpAoRead, length]
    decide +kernel
  refine ⟨⟨rfl, by rw [length]; decide, by decide⟩, reads, ?_⟩
  rintro ⟨call, called, dumps⟩
  rw [called, Option.map_some, Option.some.injEq] at reads
  have inside := dumps.inside 26 (by rw [reads]; decide)
  rw [length] at inside
  exact absurd inside (by decide)

/-! ## A whole recording -/

/-- The calls of `rtpdump_ao_read`, each on the queue as it finds it. -/
def dumpAll (accepts : Nat → Option Nat) : List (AoipQueue × (Nat → UInt8)) → AudioCtx →
    Option AudioCtx
  | [], audio => some audio
  | (queue, beyond) :: reads, audio =>
      match rtpdumpAoRead accepts beyond queue audio with
      | none => none
      | some call => dumpAll accepts reads call.audio

/-- The frames handed to `write` between opening and closing, and the context
after closing. -/
def recorded (accepts : Nat → Option Nat) (previous : Option Bytes)
    (reads : List (AoipQueue × (Nat → UInt8))) : Option (List Bytes × AudioCtx) :=
  match rtpdumpAoInit true previous with
  | none => none
  | some fresh =>
      match dumpAll accepts reads (rtpdumpAoOpen accepts fresh).2 with
      | none => none
      | some dumped =>
          some (dumped.fd.written.drop (rtpdumpAoOpen accepts fresh).2.fd.written.length,
            (rtpdumpAoClose accepts dumped).2)

def framesOf (queue : AoipQueue) : Nat :=
  if queueEmpty queue then 0 else frameCount (queue.slotAt (queueReadPtr queue)).len

def totalFrames (reads : List (AoipQueue × (Nat → UInt8))) : Nat :=
  (reads.map fun read => framesOf read.1).sum

/-- No packet that is dumped has the length 65535, whose frames never end. -/
def FramesEnd (reads : List (AoipQueue × (Nat → UInt8))) : Prop :=
  ∀ read ∈ reads, queueEmpty read.1 = false → (read.1.slotAt (queueReadPtr read.1)).len ≠ 65535

/-- The file is a header and the frames written, and the header describes it. -/
structure WavConsistent (content : Bytes) (receivedFrames : UInt32) (frames : List Bytes) :
    Prop where
  header : wavHdrSize ≤ content.length
  layout : content.drop wavHdrSize = frames.flatten
  framed : ∀ frame ∈ frames, frame.length = 6
  counted : receivedFrames.toNat = frames.length
  chunkSize : (field32 content 4).toNat = content.length - 8
  subchunkDataSize : (field32 content 40).toNat = content.length - 44
  chunkId : slice content 0 4 = slice (buildWavHdr zeroHdr) 0 4 ∧ slice content 0 4 = wavHdrChunkId
  format : slice content 8 32 = slice (buildWavHdr zeroHdr) 8 32
  formType : slice content 8 4 = wavHdrFormType
  subchunkFmtId : slice content 12 4 = wavHdrSubchunkFmtId
  subchunkDataId : slice content 36 4 = wavHdrSubchunkDataId

/-- The context behind `rtpdump_ao_open`, with what is left of an older file. -/
def openedCtx (old : Bytes) : AudioCtx :=
  ⟨⟨⟨buildWavHdr zeroHdr ++ old.drop wavHdrSize, wavHdrSize⟩, 1, [buildWavHdr zeroHdr]⟩, 0⟩

section

variable {accepts : Nat → Option Nat} (complete : WritesAll accepts)

include complete

theorem ao_read_extends (beyond : Nat → UInt8) (queue : AoipQueue) (audio : AudioCtx)
    (finite : queueEmpty queue = false → (queue.slotAt (queueReadPtr queue)).len ≠ 65535) :
    ∃ call frames, rtpdumpAoRead accepts beyond queue audio = some call ∧
      call.audio = audio.extended frames ∧ frames.length = framesOf queue ∧
      ∀ frame ∈ frames, frame.length = 6 := by
  cases waiting : queueEmpty queue with
  | true =>
      refine ⟨⟨0, queue, audio, []⟩, [], ?_, (extended_nil audio).symm, ?_, by simp⟩
      · rw [rtpdumpAoRead, waiting]
        rfl
      · rw [framesOf, waiting]
        rfl
  | false =>
      obtain ⟨starts, ended, count⟩ := frame_starts_finite _ (finite waiting)
      rw [rtpdumpAoRead, waiting, ended]
      dsimp only
      rw [Bool.not_false, if_pos rfl, Option.map_some, dump_frames_extend complete]
      refine ⟨_, _, rfl, rfl, ?_, ?_⟩
      · rw [List.length_map, count, framesOf, waiting]
        rfl
      · intro frame member
        obtain ⟨start, -, rfl⟩ := List.mem_map.mp member
        rfl

theorem dump_all_extends (reads : List (AoipQueue × (Nat → UInt8))) (audio : AudioCtx)
    (finite : FramesEnd reads) :
    ∃ frames, dumpAll accepts reads audio = some (audio.extended frames) ∧
      frames.length = totalFrames reads ∧ ∀ frame ∈ frames, frame.length = 6 := by
  induction reads generalizing audio with
  | nil => exact ⟨[], by rw [dumpAll, extended_nil], rfl, by simp⟩
  | cons read reads ih =>
      obtain ⟨queue, beyond⟩ := read
      have parts := List.forall_mem_cons.mp finite
      obtain ⟨call, first, called, extended, count, sized⟩ :=
        ao_read_extends complete beyond queue audio parts.1
      obtain ⟨later, dumped, laterCount, laterSized⟩ := ih call.audio parts.2
      refine ⟨first ++ later, ?_, ?_, ?_⟩
      · rw [dumpAll, called]
        dsimp only
        rw [dumped, extended, extended_append]
      · rw [List.length_append, count, laterCount, totalFrames, totalFrames, List.map_cons,
          List.sum_cons]
      · exact List.forall_mem_append.mpr ⟨sized, laterSized⟩

theorem ao_open_writes_header (old : Bytes) :
    (rtpdumpAoOpen accepts ⟨⟨⟨old, 0⟩, 0, []⟩, 0⟩).2 = openedCtx old := by
  have start := overwrite_behind 0 [] old (buildWavHdr zeroHdr)
  rw [build_wav_hdr_length, List.nil_append, List.nil_append, List.length_nil] at start
  rw [rtpdumpAoOpen, initWavHdr, write_all complete _ (le_of_eq build_wav_hdr_length)]
  dsimp only [OpenFile.write]
  rw [start, build_wav_hdr_length]
  rfl

/-- The file after closing: the header, the frames, and what an older file still
holds behind them. -/
theorem recorded_content (previous : Option Bytes) (reads : List (AoipQueue × (Nat → UInt8)))
    (finite : FramesEnd reads) :
    ∃ frames audio, recorded accepts previous reads = some (frames, audio) ∧
      frames.length = totalFrames reads ∧ (∀ frame ∈ frames, frame.length = 6) ∧
      audio.receivedFrames = UInt32.ofNat frames.length ∧
      audio.fd.file.content = sizedHdr audio.receivedFrames ++
        (frames.flatten ++ (previous.getD []).drop (wavHdrSize + frames.flatten.length)) := by
  have fresh : rtpdumpAoInit true previous = some ⟨⟨⟨previous.getD [], 0⟩, 0, []⟩, 0⟩ := rfl
  obtain ⟨frames, dumped, count, sized⟩ :=
    dump_all_extends complete reads (openedCtx (previous.getD [])) finite
  have run : recorded accepts previous reads =
      some (frames, (rtpdumpAoClose accepts ((openedCtx (previous.getD [])).extended frames)).2) := by
    rw [recorded, fresh]
    dsimp only
    rw [ao_open_writes_header complete, dumped]
    rfl
  refine ⟨frames, _, run, count, sized, UInt32.zero_add _, ?_⟩
  have chunks := write_chunks 0 (buildWavHdr zeroHdr) ((previous.getD []).drop wavHdrSize) frames
  rw [build_wav_hdr_length, List.drop_drop] at chunks
  apply (update_wav_hdr_sets_sizes complete _ _ _ _).2
  exact congrArg OpenFile.content chunks

/-- The file is as it should be exactly if no older file was longer than what
is written. -/
theorem wav_file_consistent_iff (previous : Option Bytes)
    (reads : List (AoipQueue × (Nat → UInt8))) (finite : FramesEnd reads)
    (bounded : 6 * totalFrames reads < 4294967296 - 36) :
    ∃ frames audio, recorded accepts previous reads = some (frames, audio) ∧
      (WavConsistent audio.fd.file.content audio.receivedFrames frames ↔
        (previous.getD []).length ≤ wavHdrSize + 6 * totalFrames reads) := by
  obtain ⟨frames, audio, run, count, sized, received, content⟩ :=
    recorded_content complete previous reads finite
  refine ⟨frames, audio, run, ?_⟩
  have flat : frames.flatten.length = 6 * totalFrames reads := by
    rw [List.length_flatten, List.map_congr_left sized, List.map_const', List.sum_replicate_nat,
      count, Nat.mul_comm]
  have size : wavHdrSize = 44 := rfl
  have hdrLength := sized_hdr_length audio.receivedFrames
  have receivedCount : audio.receivedFrames.toNat = frames.length := by
    rw [received, UInt32.toNat_ofNat_of_lt']
    rw [UInt32.size]
    omega
  constructor
  · intro consistent
    have layout := congrArg List.length consistent.layout
    rw [content, ← hdrLength, List.drop_left, List.length_append, List.length_drop, flat] at layout
    omega
  · intro short
    have bare : audio.fd.file.content = sizedHdr audio.receivedFrames ++ frames.flatten := by
      rw [content, List.drop_of_length_le (by omega), List.append_nil]
    have length : audio.fd.file.content.length = 44 + 6 * totalFrames reads := by
      rw [bare, List.length_append, hdrLength, flat, size]
    obtain ⟨chunkValue, dataValue⟩ := sizes_exact audio.receivedFrames (by omega)
    obtain ⟨chunk, data, tag, format⟩ := sized_hdr_fields audio.receivedFrames frames.flatten
    rw [← bare] at chunk data tag format
    have inner := slice_slice audio.fd.file.content 8 32
    rw [format] at inner
    exact
      { header := by omega
        layout := by rw [bare, ← hdrLength, List.drop_left]
        framed := sized
        counted := receivedCount
        chunkSize := by rw [chunk, chunkValue]; omega
        subchunkDataSize := by rw [data, dataValue]; omega
        chunkId := ⟨tag, tag⟩
        format := format
        formType := (inner 0 4 (by decide)).symm
        subchunkFmtId := (inner 4 4 (by decide)).symm
        subchunkDataId := (inner 28 4 (by decide)).symm }

end

theorem sample_wav_file_consistent :
    ∃ frames audio, recorded takesAll none [(sampleQueue 18, fun _ => 0)] = some (frames, audio) ∧
      (WavConsistent audio.fd.file.content audio.receivedFrames frames ↔
        ((none : Option Bytes).getD []).length ≤
          wavHdrSize + 6 * totalFrames [(sampleQueue 18, fun _ => 0)]) := by
  have length := sample_queue_slot 18
  apply wav_file_consistent_iff takes_all none [(sampleQueue 18, fun _ => 0)]
  · intro read member _
    rw [List.mem_singleton.mp member, length]
    decide
  · have frames : framesOf (sampleQueue 18) = frameCount 18 := by
      rw [framesOf, length]
      rfl
    rw [totalFrames, List.map_singleton, List.sum_singleton, frames]
    decide

/-- A file of 45 bytes, and a recording without packets: the last byte stays. -/
theorem sample_old_file_shows :
    recorded takesAll (some (List.replicate 45 7)) [] =
      some ([], ⟨⟨⟨sizedHdr 0 ++ [7], 44⟩, 3,
        [buildWavHdr zeroHdr, littleBytes 4 36, littleBytes 4 0]⟩, 0⟩) ∧
    ¬WavConsistent (sizedHdr 0 ++ [7]) 0 [] := by
  constructor
  · decide
  · intro consistent
    exact absurd consistent.layout (by decide)

end AoipCore.Rtpdump
