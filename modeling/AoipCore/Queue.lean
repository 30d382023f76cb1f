import AoipCore.Library.RingFifo
import AoipCore.Rtp
import AoipCore.Timer

/-!
# The audio queue (`queue.h`, `aoip_queue_init`)

One thread advances `head`, the other advances `tail`. The queue carries the
facts that its operations keep: both indices are inside the ring, the mask is
that of 512 slots, and every slot owns `data_len` bytes. `held` names the slots
that are published and not yet released.
-/

namespace AoipCore.Queue

open ByteBuffer RingFifo AoipCore.Host AoipCore.Timer AoipCore.Rtp

set_option autoImplicit false

def dataQueueSlotNum : Nat := 512

/-- `queue_slot_t`, with the bytes its data pointer owns. -/
structure QueueSlot where
  len : UInt16
  seq : UInt16
  tstamp : NsTime
  data : Bytes
  deriving DecidableEq, Repr

structure AoipQueue where
  head : UInt32
  tail : UInt32
  mask : UInt32
  dataLen : UInt16
  slot : List QueueSlot
  headIn : head.toNat < dataQueueSlotNum
  tailIn : tail.toNat < dataQueueSlotNum
  maskIs : mask.toNat = dataQueueSlotNum - 1
  slots : slot.length = dataQueueSlotNum
  room : ∀ each ∈ slot, each.data.length = dataLen.toNat
  deriving DecidableEq

def queueEmpty (q : AoipQueue) : Bool := q.head == q.tail

def queueFull (q : AoipQueue) : Bool := ((q.head + 1) &&& q.mask) == q.tail

theorem masked_next (index mask : UInt32) (inside : index.toNat < dataQueueSlotNum)
    (maskIs : mask.toNat = dataQueueSlotNum - 1) :
    ((index + 1) &&& mask).toNat = next dataQueueSlotNum index.toNat := by
  have small : index.toNat + 1 < 2 ^ 32 := by
    unfold dataQueueSlotNum at inside
    omega
  have one : (1 : UInt32).toNat = 1 := rfl
  have power : dataQueueSlotNum - 1 = 2 ^ 9 - 1 := rfl
  rw [UInt32.toNat_and, maskIs, power, Nat.and_two_pow_sub_one_eq_mod, UInt32.toNat_add, one,
    Nat.mod_eq_of_lt small]
  rfl

def queueReadNext (q : AoipQueue) : AoipQueue :=
  { q with
    tail := (q.tail + 1) &&& q.mask
    tailIn := by
      rw [masked_next q.tail q.mask q.tailIn q.maskIs]
      exact next_lt q.tailIn }

def queueWriteNext (q : AoipQueue) : AoipQueue :=
  { q with
    head := (q.head + 1) &&& q.mask
    headIn := by
      rw [masked_next q.head q.mask q.headIn q.maskIs]
      exact next_lt q.headIn }

/-- `&q->slot[q->tail]`, a slot being named by its index. -/
def queueReadPtr (q : AoipQueue) : Nat := q.tail.toNat

def queueWritePtr (q : AoipQueue) : Nat := q.head.toNat

def queueRtpHdrOffset : Nat := 12

def freshSlot (dataLen : UInt16) (ssrc : UInt32) : QueueSlot where
  len := 0
  seq := 0
  tstamp := 0
  data := buildRtpHdr (List.replicate dataLen.toNat 0) 98 ssrc

/-- The slots that `aoip_queue_init` sets up; `time` gives the value of
`time(NULL)` read for each. -/
def freshSlots (dataLen : UInt16) (time : Nat → UInt32) : List QueueSlot :=
  (List.range dataQueueSlotNum).map fun index => freshSlot dataLen (time index)

def emptyQueue (rtpPacketLength : UInt16) (time : Nat → UInt32) : AoipQueue where
  head := 0
  tail := 0
  mask := UInt32.ofNat (dataQueueSlotNum - 1)
  dataLen := rtpPacketLength
  slot := freshSlots rtpPacketLength time
  headIn := by decide
  tailIn := by decide
  maskIs := by decide
  slots := by rw [freshSlots, List.length_map, List.length_range]
  room := by
    intro each member
    obtain ⟨index, -, rfl⟩ := List.mem_map.mp member
    rw [freshSlot, build_rtp_hdr_length, List.length_replicate]

/-- `slots` and `data` say which of the allocations succeed. -/
def aoipQueueInit (slots : Bool) (data : Nat → Bool) (rtpPacketLength : UInt16)
    (time : Nat → UInt32) : Option AoipQueue :=
  if slots && (List.range dataQueueSlotNum).all data then some (emptyQueue rtpPacketLength time)
  else none

/-! ## Slots and their contents -/

def AoipQueue.slotAt (q : AoipQueue) (index : Nat) : QueueSlot :=
  q.slot.getD index (freshSlot q.dataLen 0)

/-- Every store into a slot goes through this: the data buffer keeps its size. -/
def AoipQueue.modify (q : AoipQueue) (index : Nat) (change : QueueSlot → QueueSlot)
    (keeps : ∀ each, (change each).data.length = each.data.length) : AoipQueue :=
  { q with
    slot := q.slot.modify index change
    slots := by rw [List.length_modify, q.slots]
    room := by
      intro each member
      obtain ⟨position, inside, rfl⟩ := List.mem_iff_getElem.mp member
      rw [List.length_modify] at inside
      have room := q.room _ (List.getElem_mem inside)
      rw [List.getElem_modify]
      split_ifs
      · rw [keeps, room]
      · exact room }

def AoipQueue.setLen (q : AoipQueue) (index : Nat) (len : UInt16) : AoipQueue :=
  q.modify index (fun each => { each with len := len }) fun _ => rfl

def AoipQueue.setSeq (q : AoipQueue) (index : Nat) (seq : UInt16) : AoipQueue :=
  q.modify index (fun each => { each with seq := seq }) fun _ => rfl

def AoipQueue.setTstamp (q : AoipQueue) (index : Nat) (tstamp : NsTime) : AoipQueue :=
  q.modify index (fun each => { each with tstamp := tstamp }) fun _ => rfl

def AoipQueue.put (q : AoipQueue) (index offset : Nat) (items : Bytes) : AoipQueue :=
  q.modify index (fun each => { each with data := writeAt each.data offset items })
    fun _ => write_at_length _ _ _

def AoipQueue.patch (q : AoipQueue) (index : Nat) (change : QueueSlot → Bytes)
    (keeps : ∀ each, (change each).length = each.data.length) : AoipQueue :=
  q.modify index (fun each => { each with data := change each }) keeps

theorem slot_at_modify_same (q : AoipQueue) (index : Nat) (change : QueueSlot → QueueSlot)
    (keeps : ∀ each, (change each).data.length = each.data.length)
    (inside : index < dataQueueSlotNum) :
    (q.modify index change keeps).slotAt index = change (q.slotAt index) := by
  have present : index < q.slot.length := by rwa [q.slots]
  simp [AoipQueue.slotAt, AoipQueue.modify, List.getD_eq_getElem?_getD,
    List.getElem?_eq_getElem present]

theorem slot_at_modify_other (q : AoipQueue) (index other : Nat) (change : QueueSlot → QueueSlot)
    (keeps : ∀ each, (change each).data.length = each.data.length) (different : other ≠ index) :
    (q.modify index change keeps).slotAt other = q.slotAt other := by
  simp [AoipQueue.slotAt, AoipQueue.modify, List.getD_eq_getElem?_getD, different.symm]

theorem head_slot_written (q : AoipQueue) (change : QueueSlot → QueueSlot)
    (keeps : ∀ each, (change each).data.length = each.data.length) :
    (q.modify q.head.toNat change keeps).slotAt (q.modify q.head.toNat change keeps).head.toNat =
      change (q.slotAt q.head.toNat) :=
  slot_at_modify_same q _ change keeps q.headIn

theorem tail_slot_written (q : AoipQueue) (change : QueueSlot → QueueSlot)
    (keeps : ∀ each, (change each).data.length = each.data.length) :
    (q.modify q.tail.toNat change keeps).slotAt (q.modify q.tail.toNat change keeps).tail.toNat =
      change (q.slotAt q.tail.toNat) :=
  slot_at_modify_same q _ change keeps q.tailIn

theorem slot_at_data_length (q : AoipQueue) (index : Nat) :
    (q.slotAt index).data.length = q.dataLen.toNat := by
  unfold AoipQueue.slotAt
  rw [List.getD_eq_getElem?_getD]
  cases found : q.slot[index]? with
  | none => rw [Option.getD_none, freshSlot, build_rtp_hdr_length, List.length_replicate]
  | some each => exact q.room each (List.mem_of_getElem? found)

theorem empty_queue_slots (rtpPacketLength : UInt16) (time : Nat → UInt32) :
    (emptyQueue rtpPacketLength time).slot = freshSlots rtpPacketLength time := by
  dsimp only [emptyQueue]

theorem empty_queue_slot_at (rtpPacketLength : UInt16) (time : Nat → UInt32) (index : Nat) :
    ∃ ssrc, (emptyQueue rtpPacketLength time).slotAt index = freshSlot rtpPacketLength ssrc := by
  rw [AoipQueue.slotAt, List.getD_eq_getElem?_getD, empty_queue_slots, freshSlots,
    List.getElem?_map]
  cases (List.range dataQueueSlotNum)[index]? with
  | none => exact ⟨0, rfl⟩
  | some position => exact ⟨time position, rfl⟩

theorem empty_queue_slot_inside (rtpPacketLength : UInt16) (time : Nat → UInt32) {index : Nat}
    (inside : index < dataQueueSlotNum) :
    (emptyQueue rtpPacketLength time).slotAt index = freshSlot rtpPacketLength (time index) := by
  rw [AoipQueue.slotAt, List.getD_eq_getElem?_getD, empty_queue_slots, freshSlots,
    List.getElem?_map, List.getElem?_range inside]
  rfl

/-- A property of every slot survives a store that keeps it for its own slot. -/
theorem each_slot_store {q : AoipQueue} (property : Nat → QueueSlot → Prop)
    (before : ∀ other, property other (q.slotAt other)) {index : Nat}
    (inside : index < dataQueueSlotNum) (change : QueueSlot → QueueSlot)
    (keeps : ∀ each, (change each).data.length = each.data.length)
    (kept : property index (change (q.slotAt index))) :
    ∀ other, property other ((q.modify index change keeps).slotAt other) := by
  intro other
  by_cases here : other = index
  · rw [here, slot_at_modify_same _ _ _ _ inside]
    exact kept
  · rw [slot_at_modify_other _ _ _ _ _ here]
    exact before other

def held (q : AoipQueue) : List Nat := live dataQueueSlotNum q.head.toNat q.tail.toNat

theorem head_not_held (q : AoipQueue) : q.head.toNat ∉ held q := head_not_live q.headIn q.tailIn

theorem not_empty_iff (q : AoipQueue) :
    queueEmpty q = false ↔ q.head.toNat ≠ q.tail.toNat := by
  rw [queueEmpty, beq_eq_false_iff_ne, ne_eq, ne_eq, UInt32.toNat_inj]

theorem not_full_iff (q : AoipQueue) :
    queueFull q = false ↔ next dataQueueSlotNum q.head.toNat ≠ q.tail.toNat := by
  rw [queueFull, beq_eq_false_iff_ne, ne_eq, ne_eq, ← UInt32.toNat_inj,
    masked_next q.head q.mask q.headIn q.maskIs]

theorem empty_not_full {q : AoipQueue} (empty : q.head = q.tail) : queueFull q = false := by
  have size : dataQueueSlotNum = 512 := rfl
  rw [not_full_iff, empty]
  rcases next_cases q.tailIn with ⟨-, step⟩ | ⟨last, step⟩
  · omega
  · omega

/-- What the queue holds, seen through `view`, is the unreleased part of `log`. -/
def Holds {View : Type*} (q : AoipQueue) (view : QueueSlot → View) (log : List View)
    (released : Nat) : Prop :=
  Tracks dataQueueSlotNum q.head.toNat q.tail.toNat (fun index => view (q.slotAt index)) log
    released

section Operations

variable {View : Type*} {q : AoipQueue} {view : QueueSlot → View} {log : List View}
  {released : Nat}

theorem holds_empty (rtpPacketLength : UInt16) (time : Nat → UInt32) (view : QueueSlot → View) :
    Holds (emptyQueue rtpPacketLength time) view [] 0 :=
  tracks_start _ (emptyQueue rtpPacketLength time).headIn

theorem holds_publish (holds : Holds q view log released) (room : queueFull q = false) :
    Holds (queueWriteNext q) view (log ++ [view (q.slotAt q.head.toNat)]) released := by
  have published := tracks_publish holds ((not_full_iff q).mp room)
  rwa [← masked_next q.head q.mask q.headIn q.maskIs] at published

theorem holds_release (holds : Holds q view log released) (waiting : queueEmpty q = false) :
    Holds (queueReadNext q) view log (released + 1) := by
  have remaining := tracks_release holds ((not_empty_iff q).mp waiting)
  rwa [← masked_next q.tail q.mask q.tailIn q.maskIs] at remaining

theorem holds_oldest (holds : Holds q view log released) (waiting : queueEmpty q = false) :
    log[released]? = some (view (q.slotAt q.tail.toNat)) :=
  tracks_oldest holds ((not_empty_iff q).mp waiting)

/-- A store is invisible if it hits a slot that is not held or a part of the
slot that is not viewed. -/
theorem holds_store (holds : Holds q view log released) (index : Nat)
    (change : QueueSlot → QueueSlot)
    (keeps : ∀ each, (change each).data.length = each.data.length)
    (inside : index < dataQueueSlotNum)
    (invisible : index ∉ held q ∨ view (change (q.slotAt index)) = view (q.slotAt index)) :
    Holds (q.modify index change keeps) view log released := by
  apply tracks_congr holds
  intro other member
  by_cases same : other = index
  · subst same
    rcases invisible with absent | unseen
    · exact absurd member absent
    · rw [slot_at_modify_same _ _ _ _ inside, unseen]
  · rw [slot_at_modify_other _ _ _ _ _ same]

theorem not_full_after_release (waiting : queueEmpty q = false) :
    queueFull (queueReadNext q) = false := by
  rw [not_full_iff]
  change next dataQueueSlotNum q.head.toNat ≠ ((q.tail + 1) &&& q.mask).toNat
  rw [masked_next q.tail q.mask q.tailIn q.maskIs]
  exact room_after_release q.headIn q.tailIn ((not_empty_iff q).mp waiting)

end Operations

/-! ## What a publisher leaves alone -/

/-- One queue comes from another by storing into slots that are not held and
publishing them. -/
structure Publishes (before after : AoipQueue) : Prop where
  tail : after.tail = before.tail
  added : ∃ more, held after = held before ++ more
  kept : ∀ index ∈ held before, after.slotAt index = before.slotAt index

theorem held_release {q : AoipQueue} (waiting : queueEmpty q = false) :
    held q = q.tail.toNat :: held (queueReadNext q) := by
  have released := live_release q.headIn q.tailIn ((not_empty_iff q).mp waiting)
  rwa [← masked_next q.tail q.mask q.tailIn q.maskIs] at released

theorem held_publish {q : AoipQueue} (room : queueFull q = false) :
    held (queueWriteNext q) = held q ++ [q.head.toNat] := by
  have published := live_publish q.headIn q.tailIn ((not_full_iff q).mp room)
  rwa [← masked_next q.head q.mask q.headIn q.maskIs] at published

theorem released_not_held {q : AoipQueue} (waiting : queueEmpty q = false) :
    q.tail.toNat ∉ held (queueReadNext q) := by
  have released := released_not_live q.headIn q.tailIn ((not_empty_iff q).mp waiting)
  rwa [← masked_next q.tail q.mask q.tailIn q.maskIs] at released

theorem held_waiting {q : AoipQueue} {index : Nat} (member : index ∈ held q) :
    queueEmpty q = false := by
  rw [not_empty_iff]
  intro same
  rw [held, same, live_empty _ q.tailIn] at member
  cases member

theorem publishes_refl (q : AoipQueue) : Publishes q q :=
  ⟨rfl, ⟨[], by rw [List.append_nil]⟩, fun _ _ => rfl⟩

theorem publishes_trans {first second third : AoipQueue} (one : Publishes first second)
    (two : Publishes second third) : Publishes first third := by
  obtain ⟨more, added⟩ := one.added
  obtain ⟨further, extended⟩ := two.added
  constructor
  · rw [two.tail, one.tail]
  · exact ⟨more ++ further, by rw [extended, added, List.append_assoc]⟩
  · intro index member
    have present : index ∈ held second := by
      rw [added]
      exact List.mem_append_left _ member
    rw [two.kept index present, one.kept index member]

theorem publishes_store (q : AoipQueue) (change : QueueSlot → QueueSlot)
    (keeps : ∀ each, (change each).data.length = each.data.length) :
    Publishes q (q.modify q.head.toNat change keeps) := by
  constructor
  · rfl
  · exact ⟨[], by rw [List.append_nil]; rfl⟩
  · intro index member
    have different : index ≠ q.head.toNat := by
      intro same
      rw [same] at member
      exact head_not_held q member
    exact slot_at_modify_other q _ _ change keeps different

theorem publishes_next {q : AoipQueue} (room : queueFull q = false) :
    Publishes q (queueWriteNext q) :=
  ⟨rfl, ⟨[q.head.toNat], held_publish room⟩, fun _ _ => rfl⟩

theorem publishes_oldest {before after : AoipQueue} (publishes : Publishes before after)
    (waiting : queueEmpty before = false) :
    queueEmpty after = false ∧
      after.slotAt after.tail.toNat = before.slotAt before.tail.toNat := by
  have oldest : before.tail.toNat ∈ held before := by
    rw [held_release waiting]
    exact List.mem_cons_self
  obtain ⟨more, added⟩ := publishes.added
  constructor
  · apply held_waiting (q := after)
    rw [added]
    exact List.mem_append_left _ oldest
  · rw [publishes.tail, publishes.kept _ oldest]

theorem publishes_release {before after : AoipQueue} (publishes : Publishes before after)
    (waiting : queueEmpty before = false) :
    Publishes (queueReadNext before) (queueReadNext after) := by
  have remaining := (publishes_oldest publishes waiting).1
  have masks : after.mask = before.mask := by
    rw [← UInt32.toNat_inj, after.maskIs, before.maskIs]
  obtain ⟨more, added⟩ := publishes.added
  constructor
  · change (after.tail + 1) &&& after.mask = (before.tail + 1) &&& before.mask
    rw [publishes.tail, masks]
  · rw [held_release waiting, held_release remaining, List.cons_append] at added
    exact ⟨more, (List.cons.inj added).2⟩
  · intro index member
    apply publishes.kept
    rw [held_release waiting]
    exact List.mem_cons_of_mem _ member

/-- A store into the slot at `tail` is gone with the slot. -/
theorem publishes_released_store {q : AoipQueue} (waiting : queueEmpty q = false)
    (change : QueueSlot → QueueSlot)
    (keeps : ∀ each, (change each).data.length = each.data.length) :
    Publishes (queueReadNext q) (queueReadNext (q.modify q.tail.toNat change keeps)) := by
  constructor
  · rfl
  · exact ⟨[], by rw [List.append_nil]; rfl⟩
  · intro index member
    have different : index ≠ q.tail.toNat := by
      intro same
      rw [same] at member
      exact released_not_held waiting member
    exact slot_at_modify_other q _ _ change keeps different

/-! ## What a reader leaves alone -/

/-- One queue comes from another by storing into the slot at `tail` or releasing
it: the slot at `head` and its room are as they were. -/
structure Releases (before after : AoipQueue) : Prop where
  head : after.head = before.head
  sized : after.dataLen = before.dataLen
  slot : after.slotAt after.head.toNat = before.slotAt before.head.toNat
  room : queueFull before = false → queueFull after = false

theorem releases_next {q : AoipQueue} (waiting : queueEmpty q = false) :
    Releases q (queueReadNext q) :=
  ⟨rfl, rfl, rfl, fun _ => not_full_after_release waiting⟩

theorem releases_store {q : AoipQueue} (waiting : queueEmpty q = false)
    (change : QueueSlot → QueueSlot)
    (keeps : ∀ each, (change each).data.length = each.data.length) :
    Releases q (q.modify q.tail.toNat change keeps) := by
  have different : q.head.toNat ≠ q.tail.toNat := (not_empty_iff q).mp waiting
  constructor
  · rfl
  · rfl
  · exact slot_at_modify_other q _ _ change keeps different
  · intro room
    exact room

end AoipCore.Queue
