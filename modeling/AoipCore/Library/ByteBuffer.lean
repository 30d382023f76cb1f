import Mathlib.Data.List.Basic
import Mathlib.Tactic.Ring

/-!
# Byte buffers of fixed size and words in them

`writeAt` overwrites a window of a buffer and never changes the buffer's
length, as a copy into an array does not. `littleBytes` and `littleValue` store
and read the words of a packed structure; a byte swap stores a word in one order
and reads it in the other. `bigValue` reads a field in network order.
-/

namespace ByteBuffer

set_option autoImplicit false

variable {Item : Type*}

def writeAt : List Item → Nat → List Item → List Item
  | [], _, _ => []
  | old :: rest, offset + 1, items => old :: writeAt rest offset items
  | old :: rest, 0, [] => old :: rest
  | _ :: rest, 0, item :: items => item :: writeAt rest 0 items

def slice (buffer : List Item) (offset count : Nat) : List Item :=
  (buffer.drop offset).take count

@[simp] theorem write_at_length (buffer : List Item) (offset : Nat) (items : List Item) :
    (writeAt buffer offset items).length = buffer.length := by
  induction buffer, offset, items using writeAt.induct with
  | case1 => rfl
  | case2 old rest offset items ih => simp [writeAt, ih]
  | case3 old rest => rfl
  | case4 old rest item items ih => simp [writeAt, ih]

theorem write_at_get_outside (buffer : List Item) (offset : Nat) (items : List Item)
    (index : Nat) (outside : index < offset ∨ offset + items.length ≤ index) :
    (writeAt buffer offset items)[index]? = buffer[index]? := by
  induction buffer, offset, items using writeAt.induct generalizing index with
  | case1 => rfl
  | case2 old rest offset items ih =>
      cases index with
      | zero => rfl
      | succ index =>
          simpa [writeAt] using ih index (by omega)
  | case3 old rest => rfl
  | case4 old rest item items ih =>
      cases index with
      | zero => simp at outside
      | succ index =>
          simp only [List.length_cons] at outside
          simpa [writeAt] using ih index (by omega)

theorem write_at_get_inside (buffer : List Item) (offset : Nat) (items : List Item)
    (index : Nat) (inside : index < items.length)
    (fits : offset + index < buffer.length) :
    (writeAt buffer offset items)[offset + index]? = items[index]? := by
  induction buffer, offset, items using writeAt.induct generalizing index with
  | case1 => simp at fits
  | case2 old rest offset items ih =>
      have shifted : offset + 1 + index = offset + index + 1 := by omega
      rw [shifted] at fits ⊢
      simpa [writeAt] using ih index inside (by simpa using fits)
  | case3 old rest => simp at inside
  | case4 old rest item items ih =>
      cases index with
      | zero => rfl
      | succ index =>
          have tail := ih index (by simpa using inside) (by simpa using fits)
          simpa [writeAt] using tail

theorem write_at_get (buffer : List Item) (offset : Nat) (items : List Item) (index : Nat) :
    (writeAt buffer offset items)[index]? =
      if offset ≤ index ∧ index < offset + items.length ∧ index < buffer.length then
        items[index - offset]?
      else buffer[index]? := by
  split_ifs with inside
  · obtain ⟨start, stop, fits⟩ := inside
    have read := write_at_get_inside buffer offset items (index - offset) (by omega) (by omega)
    rwa [Nat.add_sub_cancel' start] at read
  · by_cases fits : index < buffer.length
    · exact write_at_get_outside buffer offset items index (by omega)
    · rw [List.getElem?_eq_none (by rw [write_at_length]; omega),
        List.getElem?_eq_none (by omega)]

theorem write_at_again (buffer : List Item) (offset : Nat) (first second : List Item)
    (same : first.length = second.length) :
    writeAt (writeAt buffer offset first) offset second = writeAt buffer offset second := by
  apply List.ext_getElem?
  intro index
  simp only [write_at_get, write_at_length, same]
  split_ifs <;> rfl

theorem write_at_comm (buffer : List Item) {low high : Nat} {first second : List Item}
    (apart : low + first.length ≤ high) :
    writeAt (writeAt buffer low first) high second =
      writeAt (writeAt buffer high second) low first := by
  apply List.ext_getElem?
  intro index
  simp only [write_at_get, write_at_length]
  split_ifs <;> first | rfl | omega

/-- Writing into a buffer that still holds `filler` behind what was already
written appends the items to the written part. -/
theorem write_at_append (front items back : List Item) (spare : Nat) (filler : Item)
    (fits : items.length ≤ spare) :
    writeAt (front ++ (List.replicate spare filler ++ back)) front.length items =
      front ++ (items ++ (List.replicate (spare - items.length) filler ++ back)) := by
  induction front with
  | nil =>
      induction items generalizing spare with
      | nil => cases spare <;> cases back <;> simp [writeAt, List.replicate_succ]
      | cons item items ih =>
          obtain ⟨smaller, rfl⟩ : ∃ smaller, spare = smaller + 1 :=
            ⟨spare - 1, by simp at fits; omega⟩
          have rest := ih smaller (by simpa using fits)
          simpa [writeAt, List.replicate_succ] using rest
  | cons old front ih => simpa [writeAt] using ih

theorem write_at_front (front back : List Item) (offset : Nat) (items : List Item)
    (fits : offset + items.length ≤ front.length) :
    writeAt (front ++ back) offset items = writeAt front offset items ++ back := by
  induction front, offset, items using writeAt.induct with
  | case1 offset items =>
      obtain ⟨rfl, rfl⟩ : offset = 0 ∧ items = [] := by simpa using fits
      cases back <;> rfl
  | case2 old rest offset items ih =>
      simp only [List.length_cons] at fits
      simp [writeAt, ih (by omega)]
  | case3 old rest => rfl
  | case4 old rest item items ih =>
      simp only [List.length_cons] at fits
      simp [writeAt, ih (by omega)]

theorem write_at_over (front back items : List Item) (same : items.length = front.length) :
    writeAt (front ++ back) 0 items = items ++ back := by
  induction items generalizing front with
  | nil =>
      obtain rfl := List.eq_nil_of_length_eq_zero same.symm
      cases back <;> rfl
  | cons item items ih =>
      cases front with
      | nil => cases same
      | cons old rest =>
          rw [List.cons_append, writeAt, ih rest (Nat.succ.inj same)]
          rfl

theorem slice_get (buffer : List Item) (offset count index : Nat) (inside : index < count) :
    (slice buffer offset count)[index]? = buffer[offset + index]? := by
  rw [slice, List.getElem?_take_of_lt inside, List.getElem?_drop]

theorem slice_length {buffer : List Item} {offset count : Nat}
    (fits : offset + count ≤ buffer.length) : (slice buffer offset count).length = count := by
  rw [slice, List.length_take, List.length_drop]
  omega

theorem slice_add (buffer : List Item) (offset first second : Nat) :
    slice buffer offset (first + second) =
      slice buffer offset first ++ slice buffer (offset + first) second := by
  rw [slice, List.take_add, List.drop_drop]
  rfl

theorem slice_take (buffer : List Item) {offset count length : Nat}
    (inside : offset + count ≤ length) :
    slice (buffer.take length) offset count = slice buffer offset count := by
  rw [slice, slice, List.drop_take, List.take_take, Nat.min_eq_left (by omega)]

theorem slice_slice (buffer : List Item) (offset length inner count : Nat)
    (inside : inner + count ≤ length) :
    slice (slice buffer offset length) inner count = slice buffer (offset + inner) count := by
  rw [slice, slice, slice, List.drop_take, List.take_take, Nat.min_eq_left (by omega), List.drop_drop]

theorem slice_part (front items back : List Item) {offset count : Nat}
    (start : front.length = offset) (size : items.length = count) :
    slice (front ++ (items ++ back)) offset count = items := by
  rw [slice, ← start, List.drop_left, ← size, List.take_left]

theorem slice_tabulated (item : Nat → Item) {length offset count : Nat}
    (inside : offset + count ≤ length) :
    slice ((List.range length).map item) offset count =
      (List.range count).map fun index => item (offset + index) := by
  apply List.ext_getElem?
  intro index
  rcases Nat.lt_or_ge index count with below | beyond
  · rw [slice_get _ _ _ _ below, List.getElem?_map, List.getElem?_map,
      List.getElem?_range (by omega), List.getElem?_range below]
    rfl
  · have size : (slice ((List.range length).map item) offset count).length ≤ index := by
      rw [slice, List.length_take]
      omega
    rw [List.getElem?_eq_none size, List.getElem?_eq_none]
    simpa using beyond

theorem read_front {buffer rest : List Item} {position : Nat} {item : Item}
    (text : buffer.drop position = item :: rest) :
    buffer[position]? = some item ∧ buffer.drop (position + 1) = rest := by
  constructor
  · rw [← List.head?_drop, text, List.head?_cons]
  · rw [← List.tail_drop, text, List.tail_cons]

theorem drop_of_read {buffer : List Item} {position : Nat} {item : Item}
    (read : buffer[position]? = some item) :
    buffer.drop position = item :: buffer.drop (position + 1) := by
  rw [List.drop_eq_getElem?_toList_append, read, Option.toList_some, List.singleton_append]

theorem take_until [DecidableEq Item] (front rest : List Item) (mark : Item)
    (absent : mark ∉ front) :
    (front ++ mark :: rest).takeWhile (fun item => item != mark) = front := by
  have different : ∀ item ∈ front, (item != mark) = true := by
    intro item member
    rw [bne_iff_ne]
    rintro rfl
    exact absent member
  rw [List.takeWhile_append_of_pos different, List.takeWhile_cons_of_neg (by simp),
    List.append_nil]

theorem slice_write_outside (buffer : List Item) (offset : Nat) (items : List Item)
    (start count : Nat) (outside : start + count ≤ offset ∨ offset + items.length ≤ start) :
    slice (writeAt buffer offset items) start count = slice buffer start count := by
  apply List.ext_getElem?
  intro index
  by_cases inside : index < count
  · rw [slice_get _ _ _ _ inside, slice_get _ _ _ _ inside,
      write_at_get_outside _ _ _ _ (by omega)]
  · rw [List.getElem?_eq_none, List.getElem?_eq_none] <;>
      simp only [slice, List.length_take] <;> omega

theorem slice_write_same (buffer : List Item) (offset : Nat) (items : List Item)
    (fits : offset + items.length ≤ buffer.length) :
    slice (writeAt buffer offset items) offset items.length = items := by
  apply List.ext_getElem?
  intro index
  by_cases inside : index < items.length
  · rw [slice_get _ _ _ _ inside, write_at_get_inside _ _ _ _ inside (by omega)]
  · rw [List.getElem?_eq_none, List.getElem?_eq_none]
    · omega
    · rw [slice, List.length_take]
      omega

theorem slice_write_next (buffer : List Item) (offset count : Nat) (item : Item)
    (fits : offset + count < buffer.length) :
    slice (writeAt buffer (offset + count) [item]) offset (count + 1) =
      slice buffer offset count ++ [item] := by
  have last := slice_write_same buffer (offset + count) [item] fits
  rw [slice_add, slice_write_outside _ _ _ _ _ (.inl (Nat.le_refl _))]
  exact congrArg (slice buffer offset count ++ ·) last

def littleValue : List UInt8 → Nat
  | [] => 0
  | byte :: rest => byte.toNat + 256 * littleValue rest

def bigValue (bytes : List UInt8) : Nat := littleValue bytes.reverse

def littleBytes : Nat → Nat → List UInt8
  | 0, _ => []
  | width + 1, value => UInt8.ofNat value :: littleBytes width (value / 256)

def bigBytes (width value : Nat) : List UInt8 := (littleBytes width value).reverse

@[simp] theorem little_bytes_length (width value : Nat) : (littleBytes width value).length = width := by
  induction width generalizing value with
  | zero => rfl
  | succ width ih => simp [littleBytes, ih]

@[simp] theorem big_bytes_length (width value : Nat) : (bigBytes width value).length = width := by
  simp [bigBytes]

theorem little_value_bytes (width value : Nat) :
    littleValue (littleBytes width value) = value % 256 ^ width := by
  induction width generalizing value with
  | zero => simp [littleBytes, littleValue, Nat.mod_one]
  | succ width ih =>
      rw [littleBytes, littleValue, ih, pow_succ, Nat.mul_comm (256 ^ width) 256, Nat.mod_mul]
      simp

theorem little_bytes_append (low high value : Nat) :
    littleBytes (low + high) value = littleBytes low value ++ littleBytes high (value / 256 ^ low) := by
  induction low generalizing value with
  | zero => simp [littleBytes]
  | succ low ih =>
      rw [Nat.add_right_comm, littleBytes, ih, littleBytes, Nat.div_div_eq_div_mul, ← pow_succ',
        List.cons_append]

/-- A field inside a stored word is the word shifted down to it. -/
theorem slice_little_bytes (low width high value : Nat) (rest : List UInt8) :
    slice (littleBytes (low + width + high) value ++ rest) low width =
      littleBytes width (value / 256 ^ low) := by
  have lower : (littleBytes low value).length = low := little_bytes_length low value
  have within : (littleBytes width (value / 256 ^ low)).length = width := little_bytes_length _ _
  rw [little_bytes_append, little_bytes_append, slice, List.append_assoc, List.append_assoc,
    List.drop_left' lower, List.take_left' within]

theorem little_value_lt (bytes : List UInt8) : littleValue bytes < 256 ^ bytes.length := by
  induction bytes with
  | nil => simp [littleValue]
  | cons byte rest ih =>
      have bounded : byte.toNat < 256 := byte.toNat_lt
      rw [littleValue, List.length_cons, pow_succ]
      omega

theorem little_value_append (low high : List UInt8) :
    littleValue (low ++ high) = littleValue low + 256 ^ low.length * littleValue high := by
  induction low with
  | nil => simp [littleValue]
  | cons byte rest ih =>
      rw [List.cons_append, littleValue, littleValue, ih, List.length_cons, pow_succ]
      ring

theorem big_value_append (high low : List UInt8) :
    bigValue (high ++ low) = bigValue high * 256 ^ low.length + bigValue low := by
  rw [bigValue, List.reverse_append, little_value_append, List.length_reverse, bigValue, bigValue]
  ring

theorem big_value_lt (bytes : List UInt8) : bigValue bytes < 256 ^ bytes.length := by
  have bounded := little_value_lt bytes.reverse
  rwa [List.length_reverse] at bounded

theorem slice_value_lt (buffer : List UInt8) (offset width : Nat) :
    littleValue (slice buffer offset width) < 256 ^ width := by
  have length : (slice buffer offset width).length ≤ width := by
    rw [slice, List.length_take]
    omega
  calc littleValue (slice buffer offset width)
      < 256 ^ (slice buffer offset width).length := little_value_lt _
    _ ≤ 256 ^ width := Nat.pow_le_pow_right (by decide) length

theorem little_bytes_value (bytes : List UInt8) :
    littleBytes bytes.length (littleValue bytes) = bytes := by
  induction bytes with
  | nil => rfl
  | cons byte rest ih =>
      have bounded : byte.toNat < 256 := byte.toNat_lt
      have quotient : (byte.toNat + 256 * littleValue rest) / 256 = littleValue rest := by omega
      simp only [List.length_cons, littleValue, littleBytes, quotient, ih, List.cons.injEq, and_true]
      apply UInt8.toNat_inj.mp
      simp only [UInt8.toNat_ofNat']
      omega

def byteSwap (width value : Nat) : Nat := littleValue (bigBytes width value)

/-- Storing a swapped word in the host's order stores the word in the other
order. -/
theorem swapped_bytes (width value : Nat) :
    littleBytes width (byteSwap width value) = bigBytes width value := by
  have stored := little_bytes_value (bigBytes width value)
  rwa [big_bytes_length] at stored

/-- A word that is read in the host's order and swapped is the field in network
order. -/
theorem byte_swap_value (bytes : List UInt8) :
    byteSwap bytes.length (littleValue bytes) = bigValue bytes := by
  rw [byteSwap, bigBytes, little_bytes_value, bigValue]

theorem byte_swap_lt (width value : Nat) : byteSwap width value < 256 ^ width := by
  have bounded := little_value_lt (bigBytes width value)
  rwa [big_bytes_length] at bounded

theorem byte_swap_swap (width value : Nat) :
    byteSwap width (byteSwap width value) = value % 256 ^ width := by
  rw [byteSwap, bigBytes, swapped_bytes, bigBytes, List.reverse_reverse, little_value_bytes]

end ByteBuffer
