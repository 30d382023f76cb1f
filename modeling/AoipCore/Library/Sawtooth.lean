import Mathlib.Algebra.Order.Archimedean.Basic
import Mathlib.Tactic.Linarith
import Mathlib.Tactic.Ring

/-!
# A value that climbs and starts again

A step either adds something between two bounds, or starts again at zero when one
is about to be reached. However the additions are rounded, the value returns to
zero after a number of steps that the two bounds determine up to rounding, and
repeats itself from then on.
-/

namespace Sawtooth

set_option autoImplicit false

variable {Value : Type*} [Field Value] [LinearOrder Value] [IsStrictOrderedRing Value]

structure Climbs (step : Value → Value) (low high : Value) : Prop where
  rising : 0 < low
  next : ∀ value, 0 ≤ value → value < 1 →
    (step value = 0 ∧ 1 ≤ value + high) ∨
      (value + low ≤ step value ∧ step value ≤ value + high ∧ step value < 1)

variable {step : Value → Value} {low high : Value}

theorem stays_below (climbs : Climbs step low high) (count : Nat) :
    0 ≤ step^[count] 0 ∧ step^[count] 0 < 1 := by
  induction count with
  | zero => exact ⟨le_refl 0, zero_lt_one⟩
  | succ count ih =>
      have rising := climbs.rising
      rw [Function.iterate_succ_apply']
      rcases climbs.next _ ih.1 ih.2 with ⟨again, -⟩ | ⟨above, -, below⟩
      · rw [again]
        exact ⟨le_refl 0, zero_lt_one⟩
      · exact ⟨by linarith, below⟩

theorem climbed (climbs : Climbs step low high) (count : Nat)
    (unbroken : ∀ earlier, 0 < earlier → earlier ≤ count → step^[earlier] 0 ≠ 0) :
    count * low ≤ step^[count] 0 ∧ step^[count] 0 ≤ count * high := by
  induction count with
  | zero => simp
  | succ count ih =>
      obtain ⟨atLeast, atMost⟩ := ih (by
        intro earlier positive below
        exact unbroken earlier positive (by omega))
      have inside := stays_below climbs count
      have going := unbroken (count + 1) (Nat.succ_pos count) le_rfl
      rw [Function.iterate_succ_apply'] at going ⊢
      push_cast
      rcases climbs.next _ inside.1 inside.2 with ⟨again, -⟩ | ⟨above, below, -⟩
      · exact absurd again going
      · constructor <;> linarith

/-- The value returns to zero for the first time after `length` steps, where
`length - 1` steps cannot have added one and `length` steps can. -/
theorem returns [Archimedean Value] (climbs : Climbs step low high) :
    ∃ length, 0 < length ∧ step^[length] 0 = 0 ∧
      (∀ earlier, 0 < earlier → earlier < length → step^[earlier] 0 ≠ 0) ∧
      (length - 1 : Value) * low < 1 ∧ 1 ≤ length * high := by
  have rising := climbs.rising
  have back : ∃ count, 0 < count ∧ step^[count] 0 = 0 := by
    by_contra never
    have unbroken : ∀ earlier, 0 < earlier → step^[earlier] 0 ≠ 0 := by
      intro earlier positive zero
      exact never ⟨earlier, positive, zero⟩
    obtain ⟨count, enough⟩ := Archimedean.arch 1 rising
    rw [nsmul_eq_mul] at enough
    have reached := (climbed climbs count fun earlier positive _ => unbroken earlier positive).1
    have below := (stays_below climbs count).2
    linarith
  classical
  let length := Nat.find back
  obtain ⟨positive, zero⟩ := Nat.find_spec back
  have first : ∀ earlier, 0 < earlier → earlier < length → step^[earlier] 0 ≠ 0 := by
    intro earlier later before again
    exact Nat.find_min back before ⟨later, again⟩
  refine ⟨length, positive, zero, first, ?_⟩
  obtain ⟨last, split⟩ : ∃ last, length = last + 1 := ⟨length - 1, by omega⟩
  obtain ⟨atLeast, atMost⟩ := climbed climbs last (by
    intro earlier later below
    exact first earlier later (by omega))
  have inside := stays_below climbs last
  change step^[length] 0 = 0 at zero
  rw [split, Function.iterate_succ_apply'] at zero
  rw [split]
  push_cast
  rcases climbs.next _ inside.1 inside.2 with ⟨-, enough⟩ | ⟨above, -, -⟩
  · constructor <;> linarith
  · linarith

end Sawtooth
