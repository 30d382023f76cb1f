import AoipCore.Library.BlockHeap
import AoipCore.Queue

/-!
# The memory of the queue

`aoip_queue_init` allocates the array of slots and then a buffer for each slot, and
returns at the first allocation that fails. `aoip_core_close` frees what the slots point
to and then the array. The array comes from `malloc`, so the slots that a failed
initialisation has not reached hold whatever was there before.
-/

namespace AoipCore.Memory

open BlockHeap AoipCore.Queue

set_option autoImplicit false

/-- `data` are the pointers in the slots; there are none without an array. -/
structure QueueMemory where
  heap : Heap
  slot : Option Nat
  data : List (Option Nat)

/-- The loop of `aoip_queue_init` from a slot on; `calloc` says which calls succeed. -/
def initSlots (calloc : Nat → Bool) : Nat → Nat → QueueMemory → Int32 × QueueMemory
  | 0, _, m => (0, m)
  | left + 1, index, m =>
      if calloc index then
        initSlots calloc left (index + 1)
          { m with heap := m.heap.allocate, data := m.data.set index (some m.heap.next) }
      else (-1, { m with data := m.data.set index none })

def queueInit (malloc : Bool) (calloc : Nat → Bool) (garbage : List (Option Nat)) (heap : Heap) :
    Int32 × QueueMemory :=
  if malloc then
    initSlots calloc dataQueueSlotNum 0 ⟨heap.allocate, some heap.next, garbage⟩
  else (-1, ⟨heap, none, []⟩)

/-- Nothing is returned if a pointer is freed that may not be. -/
def closeSlots : Nat → Nat → QueueMemory → Option QueueMemory
  | 0, _, m => some m
  | left + 1, index, m =>
      (m.heap.free (m.data.getD index none)).bind fun heap =>
        closeSlots left (index + 1) { m with heap := heap, data := m.data.set index none }

/-- Without an array, the loop reads through a null pointer. -/
def aoipCoreClose (m : QueueMemory) : Option QueueMemory :=
  m.slot.bind fun slot =>
    (closeSlots dataQueueSlotNum 0 m).bind fun closed =>
      (closed.heap.release slot).map fun heap => { closed with heap := heap, slot := none }

theorem pointer_elsewhere {data : List (Option Nat)} {index position : Nat} (pointer : Option Nat)
    (elsewhere : position ≠ index) :
    (data.set index pointer).getD position none = data.getD position none := by
  rw [List.getD_eq_getElem?_getD, List.getElem?_set_ne elsewhere.symm, List.getD_eq_getElem?_getD]

theorem pointer_stored {data : List (Option Nat)} {index : Nat} (pointer : Option Nat)
    (inside : index < data.length) : (data.set index pointer).getD index none = pointer := by
  rw [List.getD_eq_getElem?_getD, List.getElem?_set_self inside, Option.getD_some]

theorem pointer_cleared (data : List (Option Nat)) (index : Nat) :
    (data.set index none).getD index none = none := by
  by_cases inside : index < data.length
  · exact pointer_stored none inside
  · rw [List.getD_eq_getElem?_getD, List.getElem?_eq_none]
    · rfl
    · rw [List.length_set]
      exact Nat.le_of_not_lt inside

/-! ## Initialisation -/

/-- How far the loop comes. -/
structure Filled (calloc : Nat → Bool) (left index : Nat) (m : QueueMemory)
    (result : Int32 × QueueMemory) (count : Nat) : Prop where
  within : count ≤ left
  succeeded : ∀ offset < count, calloc (index + offset) = true
  stopped : count < left → calloc (index + count) = false
  ret : result.1 = if count = left then 0 else -1
  slot : result.2.slot = m.slot
  live : result.2.heap.live = m.heap.live ∪ Finset.Ico m.heap.next (m.heap.next + count)
  length : result.2.data.length = m.data.length
  data : ∀ position < m.data.length, position < index + count → result.2.data.getD position none =
    if index ≤ position then some (m.heap.next + (position - index)) else m.data.getD position none
  beyond : ∀ position, index + count < position →
    result.2.data.getD position none = m.data.getD position none

theorem init_slots_filled (calloc : Nat → Bool) (left index : Nat) (m : QueueMemory) :
    ∃ count, Filled calloc left index m (initSlots calloc left index m) count := by
  induction left generalizing index m with
  | zero =>
      refine ⟨0, Nat.le_refl 0, by simp, by simp, rfl, rfl, by simp [initSlots], rfl, ?_,
        fun _ _ => rfl⟩
      intro position _ before
      rw [if_neg (by omega)]
      rfl
  | succ left ih =>
      rw [initSlots]
      split_ifs with allocated
      · obtain ⟨count, filled⟩ := ih (index + 1)
          { m with heap := m.heap.allocate, data := m.data.set index (some m.heap.next) }
        refine ⟨count + 1, Nat.succ_le_succ filled.within, ?_, ?_, ?_, filled.slot, ?_, ?_, ?_, ?_⟩
        · intro offset inside
          cases offset with
          | zero => exact allocated
          | succ offset =>
              have later := filled.succeeded offset (Nat.lt_of_succ_lt_succ inside)
              rwa [Nat.add_right_comm] at later
        · intro short
          have failed := filled.stopped (Nat.lt_of_succ_lt_succ short)
          rwa [Nat.add_right_comm] at failed
        · rw [filled.ret]
          simp only [Nat.add_right_cancel_iff]
        · rw [filled.live]
          exact allocate_live m.heap count
        · rw [filled.length, List.length_set]
        · intro position inside before
          have later := filled.data position (by rwa [List.length_set]) (by omega)
          rw [later]
          have next : m.heap.allocate.next = m.heap.next + 1 := rfl
          rcases Nat.lt_trichotomy position index with under | rfl | above
          · rw [if_neg (by omega), if_neg (by omega), pointer_elsewhere _ (by omega)]
          · rw [if_neg (by omega), if_pos (Nat.le_refl _), pointer_stored _ inside, Nat.sub_self]
            rfl
          · rw [if_pos (by omega), if_pos (by omega), next]
            congr 1
            omega
        · intro position behind
          rw [filled.beyond position (by omega), pointer_elsewhere _ (by omega)]
      · refine ⟨0, Nat.zero_le _, by simp, ?_, ?_, rfl, by simp, by simp, ?_, ?_⟩
        · intro _
          simpa using allocated
        · rw [if_neg (by omega)]
        · intro position _ before
          rw [if_neg (by omega), pointer_elsewhere _ (by omega)]
        · intro position behind
          exact pointer_elsewhere _ (by omega)

section

variable {calloc : Nat → Bool} {m : QueueMemory} {result : Int32 × QueueMemory} {count : Nat}

theorem filled_ret_zero_iff {left index : Nat} (filled : Filled calloc left index m result count) :
    result.1 = 0 ↔ count = left := by
  rw [filled.ret]
  split_ifs with complete
  · exact iff_of_true rfl complete
  · exact iff_of_false (by decide) complete

theorem filled_before {left : Nat} (filled : Filled calloc left 0 m result count) :
    ∀ index < count, calloc index = true := by
  intro index inside
  have succeeded := filled.succeeded index inside
  rwa [Nat.zero_add] at succeeded

theorem filled_fails {left : Nat} (filled : Filled calloc left 0 m result count)
    (short : count < left) : calloc count = false := by
  have failed := filled.stopped short
  rwa [Nat.zero_add] at failed

theorem filled_complete_iff (filled : Filled calloc dataQueueSlotNum 0 m result count)
    (rtpPacketLength : UInt16) (time : Nat → UInt32) :
    count = dataQueueSlotNum ↔ (aoipQueueInit true calloc rtpPacketLength time).isSome := by
  rw [aoipQueueInit, Bool.true_and]
  constructor
  · intro complete
    have all : (List.range dataQueueSlotNum).all calloc = true := by
      apply List.all_eq_true.mpr
      intro index member
      apply filled_before filled
      rw [complete]
      exact List.mem_range.mp member
    rw [if_pos all]
    rfl
  · intro created
    split_ifs at created with all
    · by_contra incomplete
      have short := Nat.lt_of_le_of_ne filled.within incomplete
      have succeeded := List.all_eq_true.mp all count (List.mem_range.mpr short)
      rw [filled_fails filled short] at succeeded
      cases succeeded
    · cases created

end

theorem queue_init_filled (calloc : Nat → Bool) (garbage : List (Option Nat)) (heap : Heap) :
    ∃ count, Filled calloc dataQueueSlotNum 0 ⟨heap.allocate, some heap.next, garbage⟩
        (queueInit true calloc garbage heap) count ∧
      (queueInit true calloc garbage heap).2.heap.live =
        heap.live ∪ Finset.Ico heap.next (heap.next + (count + 1)) := by
  obtain ⟨count, filled⟩ := init_slots_filled calloc dataQueueSlotNum 0
    ⟨heap.allocate, some heap.next, garbage⟩
  exact ⟨count, filled, filled.live.trans (allocate_live heap count)⟩

/-! ## Closing -/

theorem close_slots_owned (base left index : Nat) (m : QueueMemory)
    (owned : ∀ position, index ≤ position → position < index + left →
      m.data.getD position none = some (base + position) ∧ base + position ∈ m.heap.live) :
    ∃ closed, closeSlots left index m = some closed ∧ closed.slot = m.slot ∧
      closed.heap.live = m.heap.live \ Finset.Ico (base + index) (base + index + left) ∧
      ∀ position, closed.data.getD position none =
        if index ≤ position ∧ position < index + left then none
        else m.data.getD position none := by
  induction left generalizing index m with
  | zero =>
      refine ⟨m, rfl, rfl, by simp, ?_⟩
      intro position
      rw [if_neg (by omega)]
  | succ left ih =>
      obtain ⟨pointer, live⟩ := owned index (Nat.le_refl _) (by omega)
      obtain ⟨heap, released, erased⟩ := release_live live
      have rest : ∀ position, index + 1 ≤ position → position < index + 1 + left →
          (m.data.set index none).getD position none = some (base + position) ∧
            base + position ∈ heap.live := by
        intro position above inside
        obtain ⟨later, alive⟩ := owned position (by omega) (by omega)
        rw [pointer_elsewhere _ (by omega), erased]
        exact ⟨later, Finset.mem_erase.mpr ⟨by omega, alive⟩⟩
      obtain ⟨closed, ran, slot, left', data⟩ := ih (index + 1)
        { m with heap := heap, data := m.data.set index none } rest
      refine ⟨closed, ?_, slot, ?_, ?_⟩
      · rw [closeSlots, pointer, Heap.free, released]
        exact ran
      · rw [left', erased]
        ext block
        simp only [Finset.mem_sdiff, Finset.mem_erase, Finset.mem_Ico]
        constructor
        · rintro ⟨⟨other, alive⟩, outside⟩
          exact ⟨alive, by omega⟩
        · rintro ⟨alive, outside⟩
          exact ⟨⟨by omega, alive⟩, by omega⟩
      · intro position
        rw [data position]
        by_cases here : position = index
        · subst here
          rw [if_neg (by omega), if_pos (by omega), pointer_cleared]
        · rw [pointer_elsewhere _ here]
          by_cases inside : index ≤ position ∧ position < index + (left + 1)
          · rw [if_pos inside, if_pos (by omega)]
          · rw [if_neg inside, if_neg (by omega)]

/-- A slot that points to no live block is an error, however far the loop has come. -/
theorem close_slots_dangling {left index position block : Nat} {m : QueueMemory}
    (above : index ≤ position) (inside : position < index + left)
    (pointer : m.data.getD position none = some block) (dead : block ∉ m.heap.live) :
    closeSlots left index m = none := by
  induction left generalizing index m with
  | zero => omega
  | succ left ih =>
      rw [closeSlots]
      rcases Nat.eq_or_lt_of_le above with rfl | later
      · rw [pointer, Heap.free, release_dead dead]
        rfl
      · cases freed : m.heap.free (m.data.getD index none) with
        | none => rfl
        | some heap =>
            rw [Option.bind_some]
            apply ih later (by omega)
            · rw [pointer_elsewhere _ (by omega)]
              exact pointer
            · intro alive
              exact dead (free_shrinks freed alive)

/-! ## The whole life of the queue -/

theorem core_close_owned (heap : Heap) {m : QueueMemory} (slot : m.slot = some heap.next)
    (live : m.heap.live = heap.live ∪ Finset.Ico heap.next (heap.next + (dataQueueSlotNum + 1)))
    (owned : ∀ position < dataQueueSlotNum,
      m.data.getD position none = some (heap.next + 1 + position)) :
    ∃ closed, aoipCoreClose m = some closed ∧ closed.heap.live = heap.live ∧ closed.slot = none ∧
      ∀ position < dataQueueSlotNum, closed.data.getD position none = none := by
  have all : ∀ position, 0 ≤ position → position < 0 + dataQueueSlotNum →
      m.data.getD position none = some (heap.next + 1 + position) ∧
        heap.next + 1 + position ∈ m.heap.live := by
    intro position _ inside
    rw [Nat.zero_add] at inside
    refine ⟨owned position inside, ?_⟩
    rw [live]
    exact Finset.mem_union_right _ (Finset.mem_Ico.mpr ⟨by omega, by omega⟩)
  obtain ⟨closed, ran, kept, left, cleared⟩ := close_slots_owned (heap.next + 1) _ 0 m all
  have array : heap.next ∈ closed.heap.live := by
    rw [left, live]
    refine Finset.mem_sdiff.mpr ⟨?_, ?_⟩
    · exact Finset.mem_union_right _ (Finset.mem_Ico.mpr ⟨Nat.le_refl _, by omega⟩)
    · rw [Finset.mem_Ico]
      omega
  obtain ⟨after, released, erased⟩ := release_live array
  refine ⟨{ closed with heap := after, slot := none }, ?_, ?_, rfl, ?_⟩
  · rw [aoipCoreClose, slot, Option.bind_some, ran, Option.bind_some, released]
    rfl
  · rw [erased, left, live]
    ext block
    simp only [Finset.mem_erase, Finset.mem_sdiff, Finset.mem_union, Finset.mem_Ico]
    constructor
    · rintro ⟨other, alive | new, outside⟩
      · exact alive
      · omega
    · intro alive
      have older := heap.fresh block alive
      exact ⟨by omega, .inl alive, by omega⟩
  · intro position inside
    rw [cleared position, if_pos ⟨Nat.zero_le _, by omega⟩]

/-- The slot behind the one that failed holds what was in the array before. -/
theorem core_close_dangling {calloc : Nat → Bool} {m : QueueMemory}
    {result : Int32 × QueueMemory} {count array block : Nat}
    (filled : Filled calloc dataQueueSlotNum 0 m result count) (slot : m.slot = some array)
    (inside : count + 1 < dataQueueSlotNum) (pointer : m.data.getD (count + 1) none = some block)
    (dead : block ∉ result.2.heap.live) : aoipCoreClose result.2 = none := by
  have dangling := filled.beyond (count + 1) (by omega)
  rw [aoipCoreClose, filled.slot, slot, Option.bind_some,
    close_slots_dangling (Nat.zero_le _) (by omega) (dangling.trans pointer) dead]
  rfl

/-- For every pattern of failing allocations and every old content of the array: the
initialisation succeeds exactly if the queue is created, and then `aoip_core_close` frees
each of the 513 blocks once and the heap is as before. A failed initialisation gives back
nothing that it has allocated, and `aoip_core_close` may not be called after it: it would
free what the slot behind the failed one held before. -/
theorem queue_memory_accounted (malloc : Bool) (calloc : Nat → Bool) (garbage : List (Option Nat))
    (heap : Heap) (rtpPacketLength : UInt16) (time : Nat → UInt32)
    (room : garbage.length = dataQueueSlotNum) :
    let result := queueInit malloc calloc garbage heap
    (result.1 = 0 ↔ (aoipQueueInit malloc calloc rtpPacketLength time).isSome) ∧
      (result.1 = 0 →
        result.2.heap.live.card = heap.live.card + (dataQueueSlotNum + 1) ∧
          ∃ closed, aoipCoreClose result.2 = some closed ∧ closed.heap.live = heap.live ∧
            closed.slot = none ∧
            ∀ position < dataQueueSlotNum, closed.data.getD position none = none) ∧
      (result.1 ≠ 0 → malloc = true →
        ∃ failed < dataQueueSlotNum, calloc failed = false ∧ (∀ index < failed, calloc index = true) ∧
          result.2.heap.live.card = heap.live.card + (failed + 1) ∧
          ∀ block, failed + 1 < dataQueueSlotNum → garbage.getD (failed + 1) none = some block →
            block ∉ result.2.heap.live → aoipCoreClose result.2 = none) ∧
      (malloc = false → result.2.heap.live = heap.live) := by
  cases malloc with
  | false =>
      have negative : (queueInit false calloc garbage heap).1 ≠ 0 := by
        change (-1 : Int32) ≠ 0
        decide
      refine ⟨?_, ?_, ?_, ?_⟩
      · exact iff_of_false negative (by simp [aoipQueueInit])
      · intro succeeded
        exact absurd succeeded negative
      · intro _ allocated
        cases allocated
      · intro _
        rfl
  | true =>
      obtain ⟨count, filled, live⟩ := queue_init_filled calloc garbage heap
      generalize queueInit true calloc garbage heap = result at *
      have zero := filled_ret_zero_iff filled
      refine ⟨?_, ?_, ?_, ?_⟩
      · exact zero.trans (filled_complete_iff filled rtpPacketLength time)
      · intro succeeded
        rw [zero] at succeeded
        rw [succeeded] at filled live
        refine ⟨?_, ?_⟩
        · rw [live, grown_card]
        · apply core_close_owned heap filled.slot live
          intro position inside
          have stored := filled.data position (by rw [room]; exact inside) (by omega)
          rw [if_pos (Nat.zero_le _)] at stored
          exact stored
      · intro failing _
        have short : count < dataQueueSlotNum :=
          Nat.lt_of_le_of_ne filled.within fun complete => failing (zero.mpr complete)
        refine ⟨count, short, filled_fails filled short, filled_before filled, ?_, ?_⟩
        · rw [live, grown_card]
        · intro block inside pointer dead
          exact core_close_dangling filled rfl inside pointer dead
      · intro refused
        cases refused

def noBlocks : Heap := ⟨∅, 0, by simp⟩

theorem sample_queue_memory :
    ∃ closed, aoipCoreClose (queueInit true (fun _ => true) (List.replicate 512 none) noBlocks).2 =
      some closed ∧ closed.heap.live = ∅ := by
  obtain ⟨created, closes, -⟩ := queue_memory_accounted true (fun _ => true)
    (List.replicate 512 none) noBlocks 300 (fun _ => 0) List.length_replicate
  obtain ⟨-, closed, ran, live, -⟩ := closes (created.mpr (by simp [aoipQueueInit]))
  exact ⟨closed, ran, live⟩

end AoipCore.Memory
