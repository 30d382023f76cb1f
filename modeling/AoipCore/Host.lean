import AoipCore.Library.ByteBuffer

/-!
# The host: byte order, clock words and socket results

The build targets a little-endian host, so a field of a packed structure is the
little-endian word at its offset and `ntohs`/`ntohl` exchange its bytes. A
non-blocking socket call delivers a datagram, reports `EAGAIN`, or fails.
-/

namespace AoipCore.Host

open ByteBuffer

set_option autoImplicit false

abbrev Bytes := List UInt8

def field8 (packed : Bytes) (offset : Nat) : UInt8 := packed.getD offset 0

def field16 (packed : Bytes) (offset : Nat) : UInt16 :=
  UInt16.ofNat (littleValue (slice packed offset 2))

def field32 (packed : Bytes) (offset : Nat) : UInt32 :=
  UInt32.ofNat (littleValue (slice packed offset 4))

def field64 (packed : Bytes) (offset : Nat) : UInt64 :=
  UInt64.ofNat (littleValue (slice packed offset 8))

def ntohs (value : UInt16) : UInt16 := UInt16.ofNat (byteSwap 2 value.toNat)

def ntohl (value : UInt32) : UInt32 := UInt32.ofNat (byteSwap 4 value.toNat)

def htons (value : UInt16) : UInt16 := ntohs value

def htonl (value : UInt32) : UInt32 := ntohl value

theorem field16_value (packed : Bytes) (offset : Nat) :
    (field16 packed offset).toNat = littleValue (slice packed offset 2) := by
  rw [field16, UInt16.toNat_ofNat']
  exact Nat.mod_eq_of_lt (slice_value_lt packed offset 2)

theorem field32_value (packed : Bytes) (offset : Nat) :
    (field32 packed offset).toNat = littleValue (slice packed offset 4) := by
  rw [field32, UInt32.toNat_ofNat']
  exact Nat.mod_eq_of_lt (slice_value_lt packed offset 4)

theorem field64_value (packed : Bytes) (offset : Nat) :
    (field64 packed offset).toNat = littleValue (slice packed offset 8) := by
  rw [field64, UInt64.toNat_ofNat']
  exact Nat.mod_eq_of_lt (slice_value_lt packed offset 8)

theorem slice_byte (packed : Bytes) (offset count : Nat) (inside : offset < packed.length) :
    slice packed offset (count + 1) = field8 packed offset :: slice packed (offset + 1) count := by
  rw [slice, slice, List.drop_eq_getElem_cons inside, List.take_succ_cons, field8,
    List.getD_eq_getElem?_getD, List.getElem?_eq_getElem inside, Option.getD_some]

theorem word_last_byte (offset width : Nat) {packed other : Bytes}
    (fits : offset + (width + 1) ≤ packed.length) (otherFits : offset + (width + 1) ≤ other.length)
    (same : littleValue (slice packed offset (width + 1)) =
      littleValue (slice other offset (width + 1))) :
    field8 packed (offset + width) = field8 other (offset + width) := by
  have bytes : slice packed offset (width + 1) = slice other offset (width + 1) := by
    rw [← little_bytes_value (slice packed offset (width + 1)),
      ← little_bytes_value (slice other offset (width + 1)), slice_length fits, slice_length otherFits, same]
  have last : (slice packed offset (width + 1))[width]? = (slice other offset (width + 1))[width]? := by
    rw [bytes]
  rw [slice_get _ _ _ _ (by omega), slice_get _ _ _ _ (by omega)] at last
  rw [field8, field8, List.getD_eq_getElem?_getD, List.getD_eq_getElem?_getD, last]

/-! A word stored at an offset is read back from it. -/

theorem field16_of_slice {packed : Bytes} {offset : Nat} {value : UInt16}
    (stored : slice packed offset 2 = littleBytes 2 value.toNat) :
    field16 packed offset = value := by
  have bounded : value.toNat < 256 ^ 2 := value.toNat_lt
  rw [field16, stored, little_value_bytes, Nat.mod_eq_of_lt bounded, UInt16.ofNat_toNat]

theorem field32_of_slice {packed : Bytes} {offset : Nat} {value : UInt32}
    (stored : slice packed offset 4 = littleBytes 4 value.toNat) :
    field32 packed offset = value := by
  have bounded : value.toNat < 256 ^ 4 := value.toNat_lt
  rw [field32, stored, little_value_bytes, Nat.mod_eq_of_lt bounded, UInt32.ofNat_toNat]

theorem field16_write (packed : Bytes) (offset : Nat) (value : UInt16)
    (fits : offset + 2 ≤ packed.length) :
    field16 (writeAt packed offset (littleBytes 2 value.toNat)) offset = value := by
  apply field16_of_slice
  have stored := slice_write_same packed offset (littleBytes 2 value.toNat)
    (by rwa [little_bytes_length])
  rwa [little_bytes_length] at stored

theorem field32_write (packed : Bytes) (offset : Nat) (value : UInt32)
    (fits : offset + 4 ≤ packed.length) :
    field32 (writeAt packed offset (littleBytes 4 value.toNat)) offset = value := by
  apply field32_of_slice
  have stored := slice_write_same packed offset (littleBytes 4 value.toNat)
    (by rwa [little_bytes_length])
  rwa [little_bytes_length] at stored

theorem ntohs_htons (value : UInt16) : ntohs (htons value) = value := by
  have bounded : value.toNat < 256 ^ 2 := value.toNat_lt
  have swapped : (UInt16.ofNat (byteSwap 2 value.toNat)).toNat = byteSwap 2 value.toNat :=
    UInt16.toNat_ofNat_of_lt' (byte_swap_lt 2 value.toNat)
  rw [htons, ntohs, ntohs, swapped, byte_swap_swap, Nat.mod_eq_of_lt bounded,
    UInt16.ofNat_toNat]

theorem ntohl_htonl (value : UInt32) : ntohl (htonl value) = value := by
  have bounded : value.toNat < 256 ^ 4 := value.toNat_lt
  have swapped : (UInt32.ofNat (byteSwap 4 value.toNat)).toNat = byteSwap 4 value.toNat :=
    UInt32.toNat_ofNat_of_lt' (byte_swap_lt 4 value.toNat)
  rw [htonl, ntohl, ntohl, swapped, byte_swap_swap, Nat.mod_eq_of_lt bounded,
    UInt32.ofNat_toNat]

/-! A field in network order, read through a word of the host. -/

theorem ntohs_field {packed : Bytes} {offset : Nat} (fits : offset + 2 ≤ packed.length) :
    (ntohs (field16 packed offset)).toNat = bigValue (slice packed offset 2) := by
  have swapped := byte_swap_value (slice packed offset 2)
  rw [slice_length fits] at swapped
  rw [ntohs, field16_value, UInt16.toNat_ofNat_of_lt' (byte_swap_lt 2 _), swapped]

theorem ntohl_field {packed : Bytes} {offset : Nat} (fits : offset + 4 ≤ packed.length) :
    (ntohl (field32 packed offset)).toNat = bigValue (slice packed offset 4) := by
  have swapped := byte_swap_value (slice packed offset 4)
  rw [slice_length fits] at swapped
  rw [ntohl, field32_value, UInt32.toNat_ofNat_of_lt' (byte_swap_lt 4 _), swapped]

inductive RecvResult where
  | datagram (bytes : Bytes)
  | again
  | failed
  deriving DecidableEq, Repr

inductive SendResult where
  | sent
  | again
  | failed
  deriving DecidableEq, Repr

end AoipCore.Host
