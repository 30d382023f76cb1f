import AoipCore.Host

/-!
# RTP headers (`rtp.h`, `rtp.c`)

`build_rtp_hdr` writes a header once, when the queue is set up; a sender later
overwrites only the sequence number and the timestamp.
-/

namespace AoipCore.Rtp

open ByteBuffer AoipCore.Host

set_option autoImplicit false

def rtpHdrSize : Nat := 12

/-! `struct rtp_hdr`, the bit fields of its first byte included. -/

def rtpVersion (packet : Bytes) : UInt8 := field8 packet 0 >>> 6
def rtpPayloadType (packet : Bytes) : UInt8 := field8 packet 1
def rtpSequence (packet : Bytes) : UInt16 := ntohs (field16 packet 2)
def rtpTimestamp (packet : Bytes) : UInt32 := ntohl (field32 packet 4)
def rtpSsrc (packet : Bytes) : UInt32 := ntohl (field32 packet 8)

def buildRtpHdr (buf : Bytes) (ptype : UInt8) (ssrc : UInt32) : Bytes :=
  let buf := writeAt buf 0 (List.replicate rtpHdrSize 0)
  let buf := writeAt buf 0 [(field8 buf 0 &&& (0x3f : UInt8)) ||| ((0x2 : UInt8) <<< (6 : UInt8))]
  let buf := writeAt buf 1 [ptype]
  writeAt buf 8 (littleBytes 4 (htonl ssrc).toNat)

def putSequence (packet : Bytes) (sequence : UInt16) : Bytes :=
  writeAt packet 2 (littleBytes 2 (htons sequence).toNat)

def putTimestamp (packet : Bytes) (timestamp : UInt32) : Bytes :=
  writeAt packet 4 (littleBytes 4 (htonl timestamp).toNat)

/-- The length `network_init` computes for one packet, an `unsigned` product
stored in a `uint16_t`; a zero packet time divides by zero. -/
def rtpPacketLength (audioFormat audioChannels : UInt8) (audioSamplingRate : UInt32)
    (audioPacketTime : UInt16) : Option UInt16 :=
  if audioPacketTime = 0 then none
  else
    let frames := audioSamplingRate / audioPacketTime.toUInt32
    let frame := (audioFormat >>> 3).toUInt32 * audioChannels.toUInt32
    some (UInt32.ofNat rtpHdrSize + frame * frames).toUInt16

@[simp] theorem build_rtp_hdr_length (buf : Bytes) (ptype : UInt8) (ssrc : UInt32) :
    (buildRtpHdr buf ptype ssrc).length = buf.length := by
  simp [buildRtpHdr]

@[simp] theorem put_sequence_length (packet : Bytes) (sequence : UInt16) :
    (putSequence packet sequence).length = packet.length := by
  simp [putSequence]

@[simp] theorem put_timestamp_length (packet : Bytes) (timestamp : UInt32) :
    (putTimestamp packet timestamp).length = packet.length := by
  simp [putTimestamp]

/-- The first two bytes of the header, which no sender changes: version 2
without padding, extension or contributors, and the payload type. -/
theorem build_rtp_hdr_front (buf : Bytes) (ptype : UInt8) (ssrc : UInt32)
    (fits : rtpHdrSize ≤ buf.length) : slice (buildRtpHdr buf ptype ssrc) 0 2 = [0x80, ptype] := by
  obtain - | ⟨first, - | ⟨second, rest⟩⟩ := buf
  · simp [rtpHdrSize] at fits
  · simp [rtpHdrSize] at fits
  · simp only [buildRtpHdr, rtpHdrSize, List.replicate_succ, writeAt, field8, List.getD_cons_zero]
    rfl

theorem build_rtp_hdr_ssrc (buf : Bytes) (ptype : UInt8) (ssrc : UInt32)
    (fits : rtpHdrSize ≤ buf.length) : rtpSsrc (buildRtpHdr buf ptype ssrc) = ssrc := by
  rw [rtpSsrc, buildRtpHdr, field32_write _ _ _ (by simpa [rtpHdrSize] using fits), ntohl_htonl]

theorem rtp_ssrc_congr {packet other : Bytes} (same : slice packet 8 4 = slice other 8 4) :
    rtpSsrc packet = rtpSsrc other := by
  rw [rtpSsrc, rtpSsrc, field32, field32, same]

theorem put_sequence_sequence (packet : Bytes) (sequence : UInt16) (fits : 4 ≤ packet.length) :
    rtpSequence (putSequence packet sequence) = sequence := by
  rw [rtpSequence, putSequence, field16_write _ _ _ fits, ntohs_htons]

theorem put_timestamp_timestamp (packet : Bytes) (timestamp : UInt32) (fits : 8 ≤ packet.length) :
    rtpTimestamp (putTimestamp packet timestamp) = timestamp := by
  rw [rtpTimestamp, putTimestamp, field32_write _ _ _ fits, ntohl_htonl]

theorem put_sequence_timestamp (packet : Bytes) (sequence : UInt16) :
    rtpTimestamp (putSequence packet sequence) = rtpTimestamp packet := by
  rw [rtpTimestamp, rtpTimestamp, putSequence, field32, field32,
    slice_write_outside _ _ _ _ _ (by simp)]

/-- Only the last of several timestamps remains, whatever sequence number was
stored in between. -/
theorem put_timestamp_again (packet : Bytes) (sequence : UInt16) (first second : UInt32) :
    putSequence (putTimestamp (putSequence (putTimestamp packet first) sequence) second) sequence =
      putSequence (putTimestamp packet second) sequence := by
  have apart : 2 + (littleBytes 2 (htons sequence).toNat).length ≤ 4 := by simp
  unfold putSequence putTimestamp
  rw [write_at_comm _ apart, write_at_again _ 2 _ _ rfl, write_at_again _ 4 _ _ (by simp)]

/-! The fields a sender sets lie in bytes 2 to 7. -/

theorem put_sequence_outside (packet : Bytes) (sequence : UInt16) (start count : Nat)
    (outside : start + count ≤ 2 ∨ 4 ≤ start) :
    slice (putSequence packet sequence) start count = slice packet start count :=
  slice_write_outside _ _ _ _ _ (by rwa [little_bytes_length])

theorem put_timestamp_outside (packet : Bytes) (timestamp : UInt32) (start count : Nat)
    (outside : start + count ≤ 4 ∨ 8 ≤ start) :
    slice (putTimestamp packet timestamp) start count = slice packet start count :=
  slice_write_outside _ _ _ _ _ (by rwa [little_bytes_length])

end AoipCore.Rtp
