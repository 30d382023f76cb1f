import Mathlib.Data.List.Basic

/-!
# Files with a position

A write replaces the items at the position, extends the file where it reaches
past the end, and fills a gap in front of it. What lies behind the items written
stays: nothing here makes a file shorter.
-/

namespace FileImage

set_option autoImplicit false

variable {Item : Type*}

structure OpenFile (Item : Type*) where
  content : List Item
  offset : Nat
  deriving DecidableEq, Repr

def overwrite (filler : Item) (content : List Item) (offset : Nat) (items : List Item) :
    List Item :=
  (content ++ List.replicate (offset - content.length) filler).take offset ++
    (items ++ content.drop (offset + items.length))

def OpenFile.seek (file : OpenFile Item) (offset : Nat) : OpenFile Item :=
  { file with offset := offset }

def OpenFile.write (filler : Item) (file : OpenFile Item) (items : List Item) : OpenFile Item where
  content := overwrite filler file.content file.offset items
  offset := file.offset + items.length

theorem overwrite_behind (filler : Item) (front back items : List Item) :
    overwrite filler (front ++ back) front.length items =
      front ++ (items ++ back.drop items.length) := by
  have inside : front.length - (front ++ back).length = 0 := by
    rw [List.length_append]
    omega
  rw [overwrite, inside, List.replicate_zero, List.append_nil, List.take_left,
    List.drop_length_add_append]

theorem overwrite_part (filler : Item) (front old back items : List Item)
    (same : items.length = old.length) :
    overwrite filler (front ++ (old ++ back)) front.length items = front ++ (items ++ back) := by
  rw [overwrite_behind, same, List.drop_left]

theorem write_chunks (filler : Item) (front back : List Item) (chunks : List (List Item)) :
    chunks.foldl (OpenFile.write filler) ⟨front ++ back, front.length⟩ =
      ⟨front ++ (chunks.flatten ++ back.drop chunks.flatten.length),
        front.length + chunks.flatten.length⟩ := by
  induction chunks generalizing front back with
  | nil => simp
  | cons chunk chunks ih =>
      have first : OpenFile.write filler ⟨front ++ back, front.length⟩ chunk =
          ⟨(front ++ chunk) ++ back.drop chunk.length, (front ++ chunk).length⟩ := by
        rw [OpenFile.write, overwrite_behind, List.append_assoc, List.length_append]
      rw [List.foldl_cons, first, ih, List.drop_drop, List.flatten_cons]
      simp [Nat.add_assoc]

end FileImage
