import Mathlib.Data.List.Basic

/-!
# A ring of slots used as a queue with one writer and one reader

The writer owns the slot at `head`, the reader releases the slot at `tail`, and
one slot always stays empty. `live` lists the slots in between, oldest first.
`Tracks` ties them to a log of everything ever published: the live slots hold
the part of the log that has not been released. The rules below say how each
operation of either party moves it.
-/

namespace RingFifo

set_option autoImplicit false

def next (size index : Nat) : Nat := (index + 1) % size

def pending (size head tail : Nat) : Nat := (head + (size - tail)) % size

def live (size head tail : Nat) : List Nat :=
  (List.range (pending size head tail)).map fun offset => (tail + offset) % size

variable {size head tail : Nat}

theorem next_cases {index : Nat} (inside : index < size) :
    (index + 1 < size ∧ next size index = index + 1) ∨
      (index + 1 = size ∧ next size index = 0) := by
  unfold next
  rcases Nat.lt_or_ge (index + 1) size with below | above
  · exact .inl ⟨below, Nat.mod_eq_of_lt below⟩
  · have last : index + 1 = size := by omega
    exact .inr ⟨last, by rw [last, Nat.mod_self]⟩

theorem next_lt {index : Nat} (inside : index < size) : next size index < size :=
  Nat.mod_lt _ (by omega)

theorem next_injective {left right : Nat} (leftIn : left < size) (rightIn : right < size)
    (same : next size left = next size right) : left = right := by
  rcases next_cases leftIn with leftCase | leftCase <;>
    rcases next_cases rightIn with rightCase | rightCase <;> omega

theorem pending_cases (headIn : head < size) (tailIn : tail < size) :
    (tail ≤ head ∧ pending size head tail = head - tail) ∨
      (head < tail ∧ pending size head tail = head + size - tail) := by
  unfold pending
  rcases Nat.lt_or_ge head tail with wrapped | straight
  · refine .inr ⟨wrapped, ?_⟩
    rw [Nat.mod_eq_of_lt (by omega)]
    omega
  · refine .inl ⟨straight, ?_⟩
    have whole : head + (size - tail) = (head - tail) + size := by omega
    rw [whole, Nat.add_mod_right, Nat.mod_eq_of_lt (by omega)]

theorem pending_reaches_head (headIn : head < size) (tailIn : tail < size) :
    (tail + pending size head tail) % size = head := by
  rcases pending_cases headIn tailIn with ⟨order, count⟩ | ⟨order, count⟩
  · rw [count, Nat.add_sub_cancel' order, Nat.mod_eq_of_lt headIn]
  · have whole : tail + (head + size - tail) = head + size := by omega
    rw [count, whole, Nat.add_mod_right, Nat.mod_eq_of_lt headIn]

theorem pending_publish (headIn : head < size) (tailIn : tail < size)
    (room : next size head ≠ tail) :
    pending size (next size head) tail = pending size head tail + 1 := by
  rcases pending_cases headIn tailIn with before | before <;>
    rcases pending_cases (next_lt headIn) tailIn with after | after <;>
    rcases next_cases headIn with step | step <;> omega

theorem pending_release (headIn : head < size) (tailIn : tail < size) (waiting : head ≠ tail) :
    pending size head tail = pending size head (next size tail) + 1 := by
  rcases pending_cases headIn tailIn with before | before <;>
    rcases pending_cases headIn (next_lt tailIn) with after | after <;>
    rcases next_cases tailIn with step | step <;> omega

theorem live_empty (index : Nat) (inside : index < size) : live size index index = [] := by
  have none : pending size index index = 0 := by
    rcases pending_cases inside inside with count | count <;> omega
  rw [live, none, List.range_zero, List.map_nil]

theorem live_publish (headIn : head < size) (tailIn : tail < size)
    (room : next size head ≠ tail) :
    live size (next size head) tail = live size head tail ++ [head] := by
  unfold live
  rw [pending_publish headIn tailIn room, List.range_succ, List.map_append, List.map_singleton,
    pending_reaches_head headIn tailIn]

theorem live_release (headIn : head < size) (tailIn : tail < size) (waiting : head ≠ tail) :
    live size head tail = tail :: live size head (next size tail) := by
  unfold live
  rw [pending_release headIn tailIn waiting, List.range_succ_eq_map, List.map_cons, Nat.add_zero,
    Nat.mod_eq_of_lt tailIn, List.map_map]
  congr 1
  apply List.map_congr_left
  intro offset _
  simp only [Function.comp_apply, next, Nat.mod_add_mod]
  congr 1
  omega

/-- The gap: the slot the writer owns is never one of the live ones. -/
theorem head_not_live (headIn : head < size) (tailIn : tail < size) :
    head ∉ live size head tail := by
  intro member
  obtain ⟨offset, range, reached⟩ := List.mem_map.mp member
  rw [List.mem_range] at range
  have around : pending size head tail < size := Nat.mod_lt _ (by omega)
  rcases pending_cases headIn tailIn with count | count <;>
    rcases Nat.lt_or_ge (tail + offset) size with below | above
  · rw [Nat.mod_eq_of_lt below] at reached
    omega
  · rw [Nat.mod_eq_sub_mod above, Nat.mod_eq_of_lt (by omega)] at reached
    omega
  · rw [Nat.mod_eq_of_lt below] at reached
    omega
  · rw [Nat.mod_eq_sub_mod above, Nat.mod_eq_of_lt (by omega)] at reached
    omega

theorem released_not_live (headIn : head < size) (tailIn : tail < size) (waiting : head ≠ tail) :
    tail ∉ live size head (next size tail) := by
  intro member
  obtain ⟨offset, range, reached⟩ := List.mem_map.mp member
  rw [List.mem_range] at range
  have count := pending_release headIn tailIn waiting
  have around : pending size head tail < size := Nat.mod_lt _ (by omega)
  rcases next_cases tailIn with step | step <;>
    rcases Nat.lt_or_ge (next size tail + offset) size with below | above
  · rw [Nat.mod_eq_of_lt below] at reached
    omega
  · rw [Nat.mod_eq_sub_mod above, Nat.mod_eq_of_lt (by omega)] at reached
    omega
  · rw [Nat.mod_eq_of_lt below] at reached
    omega
  · rw [Nat.mod_eq_sub_mod above, Nat.mod_eq_of_lt (by omega)] at reached
    omega

variable {Item : Type*} {item : Nat → Item} {log : List Item} {released : Nat}

/-- The live slots show the unreleased part of the log. -/
structure Tracks (size head tail : Nat) (item : Nat → Item) (log : List Item)
    (released : Nat) : Prop where
  headIn : head < size
  tailIn : tail < size
  bounded : released ≤ log.length
  contents : (live size head tail).map item = log.drop released

theorem tracks_start (item : Nat → Item) {index : Nat} (inside : index < size) :
    Tracks size index index item [] 0 where
  headIn := inside
  tailIn := inside
  bounded := Nat.le_refl 0
  contents := by rw [live_empty index inside, List.map_nil, List.drop_nil]

theorem tracks_congr {other : Nat → Item} (tracks : Tracks size head tail item log released)
    (same : ∀ index ∈ live size head tail, other index = item index) :
    Tracks size head tail other log released where
  headIn := tracks.headIn
  tailIn := tracks.tailIn
  bounded := tracks.bounded
  contents := by rw [List.map_congr_left same, tracks.contents]

theorem tracks_publish (tracks : Tracks size head tail item log released)
    (room : next size head ≠ tail) :
    Tracks size (next size head) tail item (log ++ [item head]) released where
  headIn := next_lt tracks.headIn
  tailIn := tracks.tailIn
  bounded := by
    have bounded := tracks.bounded
    rw [List.length_append]
    omega
  contents := by
    rw [live_publish tracks.headIn tracks.tailIn room, List.map_append, List.map_singleton,
      tracks.contents, List.drop_append_of_le_length tracks.bounded]

theorem tracks_front (tracks : Tracks size head tail item log released) (waiting : head ≠ tail) :
    log.drop released = item tail :: (live size head (next size tail)).map item := by
  rw [← tracks.contents, live_release tracks.headIn tracks.tailIn waiting, List.map_cons]

theorem tracks_oldest (tracks : Tracks size head tail item log released) (waiting : head ≠ tail) :
    log[released]? = some (item tail) := by
  rw [← List.head?_drop, tracks_front tracks waiting, List.head?_cons]

theorem tracks_release (tracks : Tracks size head tail item log released) (waiting : head ≠ tail) :
    Tracks size head (next size tail) item log (released + 1) where
  headIn := tracks.headIn
  tailIn := next_lt tracks.tailIn
  bounded := by
    have front := congrArg List.length (tracks_front tracks waiting)
    rw [List.length_drop, List.length_cons] at front
    omega
  contents := by
    rw [← List.tail_drop, tracks_front tracks waiting, List.tail_cons]

/-- A room found by the writer outlives a release by the reader. -/
theorem room_after_release (headIn : head < size) (tailIn : tail < size) (waiting : head ≠ tail) :
    next size head ≠ next size tail :=
  fun same => waiting (next_injective headIn tailIn same)

theorem log_entry_cases {Entry : Type*} {log : List Entry} {last entry : Entry} {index : Nat}
    (found : (log ++ [last])[index]? = some entry) :
    log[index]? = some entry ∨ (index = log.length ∧ entry = last) := by
  rcases Nat.lt_trichotomy index log.length with earlier | rfl | later
  · rw [List.getElem?_append_left earlier] at found
    exact .inl found
  · rw [List.getElem?_concat_length] at found
    exact .inr ⟨rfl, (Option.some.inj found).symm⟩
  · have bound := (List.getElem?_eq_some_iff.mp found).1
    rw [List.length_append, List.length_singleton] at bound
    omega

end RingFifo
