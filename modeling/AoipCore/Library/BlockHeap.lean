import Mathlib.Data.Finset.Basic
import Mathlib.Order.Interval.Finset.Nat

/-!
# A heap of blocks

Blocks are numbered in the order they are allocated and no number is used twice.
Releasing a block that is not live is an error, so a sequence of releases that succeeds
releases no block twice.
-/

namespace BlockHeap

set_option autoImplicit false

structure Heap where
  live : Finset Nat
  next : Nat
  fresh : ∀ block ∈ live, block < next

def Heap.allocate (heap : Heap) : Heap where
  live := insert heap.next heap.live
  next := heap.next + 1
  fresh := by
    intro block member
    rcases Finset.mem_insert.mp member with rfl | older
    · exact Nat.lt_succ_self _
    · exact Nat.lt_succ_of_lt (heap.fresh block older)

def Heap.release (heap : Heap) (block : Nat) : Option Heap :=
  if block ∈ heap.live then
    some ⟨heap.live.erase block, heap.next, fun other member =>
      heap.fresh other (Finset.mem_of_mem_erase member)⟩
  else none

/-- A null pointer may be released at any time. -/
def Heap.free (heap : Heap) : Option Nat → Option Heap
  | none => some heap
  | some block => heap.release block

theorem release_live {heap : Heap} {block : Nat} (live : block ∈ heap.live) :
    ∃ after, heap.release block = some after ∧ after.live = heap.live.erase block := by
  rw [Heap.release, if_pos live]
  exact ⟨_, rfl, rfl⟩

theorem release_dead {heap : Heap} {block : Nat} (dead : block ∉ heap.live) :
    heap.release block = none := if_neg dead

theorem free_shrinks {heap after : Heap} {pointer : Option Nat}
    (freed : heap.free pointer = some after) : after.live ⊆ heap.live := by
  cases pointer with
  | none =>
      obtain rfl := Option.some.inj freed
      exact Finset.Subset.refl _
  | some block =>
      rw [Heap.free, Heap.release] at freed
      split_ifs at freed
      obtain rfl := Option.some.inj freed
      exact Finset.erase_subset block heap.live

theorem grown_card (heap : Heap) (count : Nat) :
    (heap.live ∪ Finset.Ico heap.next (heap.next + count)).card = heap.live.card + count := by
  rw [Finset.card_union_of_disjoint, Nat.card_Ico, Nat.add_sub_cancel_left]
  apply Finset.disjoint_left.mpr
  intro block live new
  have older := heap.fresh block live
  have newer := (Finset.mem_Ico.mp new).1
  omega

theorem allocate_live (heap : Heap) (count : Nat) :
    (insert heap.next heap.live) ∪ Finset.Ico (heap.next + 1) (heap.next + 1 + count) =
      heap.live ∪ Finset.Ico heap.next (heap.next + (count + 1)) := by
  ext block
  by_cases older : block ∈ heap.live
  · simp [older]
  · simp only [Finset.mem_union, Finset.mem_insert, Finset.mem_Ico, older, or_false, false_or]
    omega

end BlockHeap
