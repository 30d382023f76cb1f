import AoipCore.Ptp.Clock
import Mathlib.Tactic.Linarith
import Mathlib.Tactic.NormNum.GCD

/-!
# Timestamp fields on the wire and in the host

`struct ptp_origin_timestamp` lays out ten bytes as a 48-bit and a 32-bit number
in network order. `tstamp_to_ns` reads the same bytes through `struct timestamp`,
whose seconds come in two words, and joins the words by a shift of 4 bits.
-/

namespace AoipCore.Ptp

open ByteBuffer AoipCore.Host AoipCore.Timer

set_option autoImplicit false

/-! The field behind the common header, as the protocol defines it. -/

def originSeconds (msg : Bytes) : Nat := bigValue (slice msg 34 6)

def originNanoseconds (msg : Bytes) : Nat := bigValue (slice msg 40 4)

def originNs (msg : Bytes) : Nat := originSeconds msg * 1000000000 + originNanoseconds msg

def upperSeconds (msg : Bytes) : Nat := bigValue (slice msg 34 2)

def lowerSeconds (msg : Bytes) : Nat := bigValue (slice msg 36 4)

def DecodesExactly (msg : Bytes) : Prop :=
  (tstampToNs (tstamp msg)).toNat = originNs msg % 18446744073709551616

/-- A field that is later, as a pair of seconds and nanoseconds. -/
def Later (first second : Bytes) : Prop :=
  originSeconds first < originSeconds second ∨
    originSeconds first = originSeconds second ∧ originNanoseconds first < originNanoseconds second

/-- Fields with proper nanoseconds and values of at most 64 bits are decoded in
order. -/
def DecodesInOrder (first second : Bytes) : Prop :=
  originNanoseconds first < 1000000000 → originNanoseconds second < 1000000000 →
    originNs first < 18446744073709551616 → originNs second < 18446744073709551616 →
      Later first second → tstampToNs (tstamp first) < tstampToNs (tstamp second)

/-- Joining the two words by 4 bits instead of 32 makes a difference that a
word of 64 bits does not hide. -/
theorem joined_words_iff {upper lower part : Nat} (high : upper < 65536) (low : lower < 4294967296)
    (small : part < 4294967296) :
    (upper * 16 + lower) * 1000000000 + part =
        ((upper * 4294967296 + lower) * 1000000000 + part) % 18446744073709551616 ↔
      upper = 0 := by
  constructor
  · intro same
    have division := Nat.div_add_mod ((upper * 4294967296 + lower) * 1000000000 + part)
      18446744073709551616
    rw [← same] at division
    generalize ((upper * 4294967296 + lower) * 1000000000 + part) / 18446744073709551616 = quotient
      at division
    -- (2 ^ 32 - 16) * 10 ^ 9 is an odd multiple of 2 ^ 13
    have cancelled : 2251799813685248 * quotient = upper * 524287998046875 := by linarith
    have multiple : 2251799813685248 ∣ upper :=
      Nat.Coprime.dvd_of_dvd_mul_right (by norm_num) (Dvd.intro quotient cancelled)
    exact Nat.eq_zero_of_dvd_of_lt multiple (lt_trans high (by norm_num))
  · rintro rfl
    rw [Nat.zero_mul, Nat.mod_eq_of_lt]
    linarith

section Layout

variable {msg : Bytes} (whole : 44 ≤ msg.length)

include whole

theorem origin_seconds_split :
    originSeconds msg = upperSeconds msg * 4294967296 + lowerSeconds msg := by
  have halves : slice msg 34 6 = slice msg 34 2 ++ slice msg 36 4 := slice_add msg 34 2 4
  rw [originSeconds, halves, big_value_append, slice_length (by omega)]
  rfl

theorem origin_bounds :
    upperSeconds msg < 65536 ∧ lowerSeconds msg < 4294967296 ∧
      originNanoseconds msg < 4294967296 := by
  have upper := big_value_lt (slice msg 34 2)
  have lower := big_value_lt (slice msg 36 4)
  have nanoseconds := big_value_lt (slice msg 40 4)
  rw [slice_length (by omega)] at upper lower nanoseconds
  exact ⟨upper, lower, nanoseconds⟩

theorem decoded_value :
    (tstampToNs (tstamp msg)).toNat =
      (upperSeconds msg * 16 + lowerSeconds msg) * 1000000000 + originNanoseconds msg := by
  have upper : (ntohs (tstamp msg).secMsb).toNat = upperSeconds msg := ntohs_field (by omega)
  have lower : (ntohl (tstamp msg).secLsb).toNat = lowerSeconds msg := ntohl_field (by omega)
  have nanoseconds : (ntohl (tstamp msg).ns).toNat = originNanoseconds msg := ntohl_field (by omega)
  rw [tstamp_to_ns_value, decodedSeconds, upper, lower, nanoseconds]

theorem decodes_exactly_iff : DecodesExactly msg ↔ upperSeconds msg = 0 := by
  obtain ⟨upper, lower, nanoseconds⟩ := origin_bounds whole
  rw [DecodesExactly, decoded_value whole, originNs, origin_seconds_split whole]
  exact joined_words_iff upper lower nanoseconds

end Layout

theorem decodes_in_order {first second : Bytes} (firstExact : DecodesExactly first)
    (secondExact : DecodesExactly second) : DecodesInOrder first second := by
  intro firstProper secondProper firstFits secondFits later
  rw [DecodesExactly, Nat.mod_eq_of_lt firstFits] at firstExact
  rw [DecodesExactly, Nat.mod_eq_of_lt secondFits] at secondExact
  rw [UInt64.lt_iff_toNat_lt, firstExact, secondExact, originNs, originNs]
  unfold Later at later
  omega

/-- The timestamp fields in two receive buffers, of a Follow_Up or a Delay_Resp,
are decoded as defined, and hence in order, exactly when the upper 16 bits of
their seconds are zero. -/
theorem timestamps_decoded_iff (first second : PacketBuf) :
    DecodesExactly first.bytes ∧ DecodesExactly second.bytes ∧
        DecodesInOrder first.bytes second.bytes ↔
      upperSeconds first.bytes = 0 ∧ upperSeconds second.bytes = 0 := by
  have size : ptpPacketBufSize = 256 := rfl
  have firstRoom := first.room
  have secondRoom := second.room
  rw [decodes_exactly_iff (by omega), decodes_exactly_iff (by omega)]
  constructor
  · rintro ⟨firstZero, secondZero, -⟩
    exact ⟨firstZero, secondZero⟩
  · rintro ⟨firstZero, secondZero⟩
    refine ⟨firstZero, secondZero, decodes_in_order ?_ ?_⟩
    · exact (decodes_exactly_iff (by omega)).mpr firstZero
    · exact (decodes_exactly_iff (by omega)).mpr secondZero

/-- A buffer whose timestamp field holds the given seconds and no nanoseconds. -/
def sampleSeconds (seconds : Nat) : PacketBuf := PacketBuf.zero.put 34 (bigBytes 6 seconds)

/-- One second more than 2 ^ 32 - 1 is decoded as 16 seconds. -/
theorem sample_upper_seconds_shifted :
    originNs (sampleSeconds 4294967295).bytes = 4294967295000000000 ∧
      originNs (sampleSeconds 4294967296).bytes = 4294967296000000000 ∧
      tstampToNs (tstamp (sampleSeconds 4294967295).bytes) = 4294967295000000000 ∧
      tstampToNs (tstamp (sampleSeconds 4294967296).bytes) = 16000000000 ∧
      ¬DecodesExactly (sampleSeconds 4294967296).bytes ∧
      ¬DecodesInOrder (sampleSeconds 4294967295).bytes (sampleSeconds 4294967296).bytes := by
  unfold DecodesExactly DecodesInOrder Later
  decide +kernel

end AoipCore.Ptp
