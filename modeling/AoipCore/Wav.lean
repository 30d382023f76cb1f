import AoipCore.Host
import AoipCore.Library.FileImage

/-!
# WAV files (`wav.h`, `wav.c`)

`struct wav_hdr` is its 44 bytes. The four tags are copied with their
terminating NUL, which spills into the next field; the stores that follow it
overwrite the spilled byte. A file is opened without being truncated.
-/

namespace AoipCore.Wav

open ByteBuffer FileImage AoipCore.Host

set_option autoImplicit false

def wavHdrSize : Nat := 44

/-! `"RIFF"`, `"WAVE"`, `"fmt "` and `"data"`. -/

def wavHdrChunkId : Bytes := [0x52, 0x49, 0x46, 0x46]
def wavHdrFormType : Bytes := [0x57, 0x41, 0x56, 0x45]
def wavHdrSubchunkFmtId : Bytes := [0x66, 0x6d, 0x74, 0x20]
def wavHdrSubchunkDataId : Bytes := [0x64, 0x61, 0x74, 0x61]

def buildWavHdr (hdr : Bytes) : Bytes :=
  let hdr := writeAt hdr 0 (wavHdrChunkId ++ [0])
  let hdr := writeAt hdr 4 (littleBytes 4 0)
  let hdr := writeAt hdr 8 (wavHdrFormType ++ [0])
  let hdr := writeAt hdr 12 (wavHdrSubchunkFmtId ++ [0])
  let hdr := writeAt hdr 16 (littleBytes 4 16)
  let hdr := writeAt hdr 20 (littleBytes 2 1)
  let hdr := writeAt hdr 22 (littleBytes 2 2)
  let hdr := writeAt hdr 24 (littleBytes 4 48000)
  let hdr := writeAt hdr 28 (littleBytes 4 (48000 * 3 * 2))
  let hdr := writeAt hdr 32 (littleBytes 2 6)
  let hdr := writeAt hdr 34 (littleBytes 2 24)
  let hdr := writeAt hdr 36 (wavHdrSubchunkDataId ++ [0])
  writeAt hdr 40 (littleBytes 4 0)

/-- An open file, the number of `write` calls made on it and what each of those
that did not fail has written. -/
structure WavFd where
  file : OpenFile UInt8
  calls : Nat
  written : List Bytes
  deriving DecidableEq, Repr

/-- `open(file_name, O_CREAT | O_RDWR, 0666)`: a file that exists keeps its
bytes. `previous` is what was there, `permitted` whether the call succeeds. -/
def wavOpen (permitted : Bool) (previous : Option Bytes) : Option WavFd :=
  if permitted then some ⟨⟨previous.getD [], 0⟩, 0, []⟩ else none

/-- `write`; `accepts` gives, for each call, the number of bytes the system
takes at most, or none if the call fails. -/
def write (accepts : Nat → Option Nat) (fd : WavFd) (buf : Bytes) : Int × WavFd :=
  match accepts fd.calls with
  | none => (-1, { fd with calls := fd.calls + 1 })
  | some count =>
      ((buf.take count).length,
        { file := fd.file.write 0 (buf.take count)
          calls := fd.calls + 1
          written := fd.written ++ [buf.take count] })

def lseek (fd : WavFd) (offset : Nat) : WavFd :=
  { fd with file := fd.file.seek offset }

def initWavHdr (accepts : Nat → Option Nat) (fd : WavFd) (hdr : Bytes) : Int × WavFd :=
  write accepts fd hdr

def wavHdrChunkSizeOffset : Nat := 4
def wavHdrSubchunkDataSizeOffset : Nat := 40

def updateWavHdrChunkSizeField (accepts : Nat → Option Nat) (fd : WavFd) (receivedFrames : UInt32) :
    Int × WavFd :=
  let chunkSize := receivedFrames * 6 + UInt32.ofNat wavHdrSize - 8
  write accepts (lseek fd wavHdrChunkSizeOffset) (littleBytes 4 chunkSize.toNat)

def updateWavHdrSubchunkDataSizeField (accepts : Nat → Option Nat) (fd : WavFd)
    (receivedFrames : UInt32) : Int × WavFd :=
  let subchunkDataSize := receivedFrames * 6
  write accepts (lseek fd wavHdrSubchunkDataSizeOffset) (littleBytes 4 subchunkDataSize.toNat)

def updateWavHdr (accepts : Nat → Option Nat) (fd : WavFd) (receivedFrames : UInt32) :
    Int32 × WavFd :=
  let (count, fd) := updateWavHdrChunkSizeField accepts fd receivedFrames
  if count < 1 then (-1, fd)
  else
    let (count, fd) := updateWavHdrSubchunkDataSizeField accepts fd receivedFrames
    if count < 1 then (-1, fd) else (0, fd)

/-! ## The header that is written -/

def zeroHdr : Bytes := List.replicate wavHdrSize 0

def formatFields : Bytes :=
  wavHdrFormType ++ (wavHdrSubchunkFmtId ++
    ([16, 0, 0, 0, 1, 0, 2, 0, 0x80, 0xbb, 0, 0, 0, 0x65, 4, 0, 6, 0, 24, 0] ++ wavHdrSubchunkDataId))

/-- No tag has kept its NUL. -/
theorem build_wav_hdr_eq :
    buildWavHdr zeroHdr =
      wavHdrChunkId ++ (littleBytes 4 0 ++ (formatFields ++ littleBytes 4 0)) := by
  decide

theorem build_wav_hdr_length : (buildWavHdr zeroHdr).length = wavHdrSize := by
  rw [build_wav_hdr_eq]
  rfl

def sizedHdr (receivedFrames : UInt32) : Bytes :=
  wavHdrChunkId ++ (littleBytes 4 (receivedFrames * 6 + UInt32.ofNat wavHdrSize - 8).toNat ++
    (formatFields ++ littleBytes 4 (receivedFrames * 6).toNat))

theorem sized_hdr_length (receivedFrames : UInt32) :
    (sizedHdr receivedFrames).length = wavHdrSize := by
  simp only [sizedHdr, List.length_append, little_bytes_length]
  rfl

/-- Below 2^32 bytes no size wraps. -/
theorem sizes_exact (receivedFrames : UInt32)
    (bounded : 6 * receivedFrames.toNat < 4294967296 - 36) :
    (receivedFrames * 6 + UInt32.ofNat wavHdrSize - 8).toNat = 6 * receivedFrames.toNat + 36 ∧
      (receivedFrames * 6).toNat = 6 * receivedFrames.toNat := by
  have six : (6 : UInt32).toNat = 6 := rfl
  have eight : (8 : UInt32).toNat = 8 := rfl
  have size : (UInt32.ofNat wavHdrSize).toNat = 44 := rfl
  rw [UInt32.toNat_sub, UInt32.toNat_add, UInt32.toNat_mul, six, eight, size]
  omega

theorem sized_hdr_fields (receivedFrames : UInt32) (back : Bytes) :
    field32 (sizedHdr receivedFrames ++ back) 4 =
        receivedFrames * 6 + UInt32.ofNat wavHdrSize - 8 ∧
      field32 (sizedHdr receivedFrames ++ back) 40 = receivedFrames * 6 ∧
      slice (sizedHdr receivedFrames ++ back) 0 4 = wavHdrChunkId ∧
      slice (sizedHdr receivedFrames ++ back) 8 32 = formatFields := by
  rw [sizedHdr]
  generalize chunk : littleBytes 4 (receivedFrames * 6 + UInt32.ofNat wavHdrSize - 8).toNat = size
  generalize data : littleBytes 4 (receivedFrames * 6).toNat = dataSize
  have sizeLength : size.length = 4 := by rw [← chunk, little_bytes_length]
  have dataLength : dataSize.length = 4 := by rw [← data, little_bytes_length]
  have tag : wavHdrChunkId.length = 4 := rfl
  have format : formatFields.length = 32 := rfl
  refine ⟨?_, ?_, ?_, ?_⟩
  · apply field32_of_slice
    rw [chunk, List.append_assoc, List.append_assoc]
    exact slice_part wavHdrChunkId size _ tag sizeLength
  · apply field32_of_slice
    have front : (wavHdrChunkId ++ (size ++ formatFields)).length = 40 := by
      rw [List.length_append, List.length_append, tag, sizeLength, format]
    have stored := slice_part (wavHdrChunkId ++ (size ++ formatFields)) dataSize back front dataLength
    rw [data]
    simpa only [List.append_assoc] using stored
  · rw [List.append_assoc]
    exact slice_part [] wavHdrChunkId _ rfl tag
  · have front : (wavHdrChunkId ++ size).length = 8 := by
      rw [List.length_append, tag, sizeLength]
    have stored := slice_part (wavHdrChunkId ++ size) formatFields (dataSize ++ back) front format
    simpa only [List.append_assoc] using stored

/-! ## Calls that write all they are given -/

/-- No call takes fewer bytes than the largest buffer that is written. -/
def WritesAll (accepts : Nat → Option Nat) : Prop :=
  ∀ call, ∃ count, accepts call = some count ∧ wavHdrSize ≤ count

section

variable {accepts : Nat → Option Nat} (complete : WritesAll accepts)

include complete

theorem write_all (fd : WavFd) {buf : Bytes} (fits : buf.length ≤ wavHdrSize) :
    write accepts fd buf =
      ((buf.length : Int), ⟨fd.file.write 0 buf, fd.calls + 1, fd.written ++ [buf]⟩) := by
  obtain ⟨count, taken, enough⟩ := complete fd.calls
  rw [write, taken]
  dsimp only
  rw [List.take_of_length_le (by omega)]

theorem update_field (fd : WavFd) (offset value : Nat) :
    write accepts (lseek fd offset) (littleBytes 4 value) =
      (4, ⟨(fd.file.seek offset).write 0 (littleBytes 4 value), fd.calls + 1,
        fd.written ++ [littleBytes 4 value]⟩) := by
  rw [write_all complete _ (by rw [little_bytes_length]; decide), little_bytes_length]
  rfl

/-- Closing a file whose first 44 bytes are a fresh header sets both sizes and
changes nothing else. -/
theorem update_wav_hdr_sets_sizes (fd : WavFd) (receivedFrames : UInt32) (back : Bytes)
    (content : fd.file.content = buildWavHdr zeroHdr ++ back) :
    (updateWavHdr accepts fd receivedFrames).1 = 0 ∧
      (updateWavHdr accepts fd receivedFrames).2.file.content = sizedHdr receivedFrames ++ back := by
  rw [updateWavHdr, updateWavHdrChunkSizeField, update_field complete]
  dsimp only
  rw [if_neg (by decide), updateWavHdrSubchunkDataSizeField, update_field complete]
  dsimp only
  rw [if_neg (by decide)]
  refine ⟨rfl, ?_⟩
  generalize chunk : littleBytes 4 (receivedFrames * 6 + UInt32.ofNat wavHdrSize - 8).toNat = size
  have sizeLength : size.length = (littleBytes 4 0).length := by
    rw [← chunk, little_bytes_length, little_bytes_length]
  have chunkSize : overwrite 0 fd.file.content wavHdrChunkSizeOffset size =
      (wavHdrChunkId ++ (size ++ formatFields)) ++ (littleBytes 4 0 ++ back) := by
    have split : buildWavHdr zeroHdr ++ back =
        wavHdrChunkId ++ (littleBytes 4 0 ++ (formatFields ++ (littleBytes 4 0 ++ back))) := by
      rw [build_wav_hdr_eq]
      simp only [List.append_assoc]
    rw [content, split]
    have part := overwrite_part 0 wavHdrChunkId (littleBytes 4 0)
      (formatFields ++ (littleBytes 4 0 ++ back)) size sizeLength
    simp only [List.append_assoc]
    exact part
  have front : (wavHdrChunkId ++ (size ++ formatFields)).length = wavHdrSubchunkDataSizeOffset := by
    rw [List.length_append, List.length_append, sizeLength]
    rfl
  have dataSize := overwrite_part 0 (wavHdrChunkId ++ (size ++ formatFields)) (littleBytes 4 0) back
    (littleBytes 4 (receivedFrames * 6).toNat) (by rw [little_bytes_length, little_bytes_length])
  rw [front, ← chunkSize] at dataSize
  rw [sizedHdr, chunk]
  simp only [List.append_assoc] at dataSize ⊢
  exact dataSize

end

end AoipCore.Wav
