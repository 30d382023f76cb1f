import Mathlib.Analysis.Complex.Trigonometric

/-!
# The sine by its series

The partial sums of the series over the rationals, and how far they are from the sine.
-/

namespace SineSeries

open Finset

set_option autoImplicit false

def sineSum (x : ℚ) : Nat → ℚ
  | 0 => 0
  | terms + 1 =>
      sineSum x terms + (-1) ^ terms * x ^ (2 * terms + 1) / (2 * terms + 1).factorial

/-- The sum is the imaginary part of that of the exponential. -/
theorem exponential_sum_im (x : ℚ) (terms : Nat) :
    (∑ index ∈ range (2 * terms), ((x : ℝ) * Complex.I) ^ index / index.factorial).im =
      (sineSum x terms : ℝ) := by
  induction terms with
  | zero => simp [sineSum]
  | succ terms ih =>
      have square : ((x : ℝ) * Complex.I) ^ 2 = ((-x ^ 2 : ℝ) : ℂ) := by
        rw [mul_pow, Complex.I_sq]
        push_cast
        ring
      have even : (((x : ℝ) * Complex.I) ^ (2 * terms) / (2 * terms).factorial).im = 0 := by
        rw [pow_mul, square, ← Complex.ofReal_pow, ← Complex.ofReal_natCast, ← Complex.ofReal_div,
          Complex.ofReal_im]
      have odd : (((x : ℝ) * Complex.I) ^ (2 * terms + 1) / (2 * terms + 1).factorial).im =
          (-1) ^ terms * (x : ℝ) ^ (2 * terms + 1) / (2 * terms + 1).factorial := by
        rw [pow_succ, pow_mul, square, ← Complex.ofReal_pow, ← Complex.ofReal_natCast, ← mul_assoc,
          ← Complex.ofReal_mul, mul_div_right_comm, ← Complex.ofReal_div, Complex.im_ofReal_mul,
          Complex.I_im, mul_one, neg_pow, ← pow_mul, mul_assoc, ← pow_succ]
      rw [Nat.mul_succ, sum_range_succ, sum_range_succ, Complex.add_im, Complex.add_im, ih, even,
        odd, sineSum]
      push_cast
      ring

theorem sine_sum_error (x : ℚ) (terms : Nat) (near : |(x : ℝ)| ≤ terms + 1 / 2) :
    |(sineSum x terms : ℝ) - Real.sin x| ≤
      |(x : ℝ)| ^ (2 * terms) / (2 * terms).factorial * 2 := by
  have size : ‖((x : ℝ) * Complex.I : ℂ)‖ = |(x : ℝ)| := by
    rw [Complex.norm_mul, Complex.norm_I, mul_one, Complex.norm_real, Real.norm_eq_abs]
  have small : ‖((x : ℝ) * Complex.I : ℂ)‖ / (2 * terms).succ ≤ 1 / 2 := by
    rw [size, div_le_iff₀ (Nat.cast_pos.mpr (Nat.succ_pos _))]
    push_cast
    linarith
  have bound := Complex.exp_bound' small
  rw [size] at bound
  refine le_trans ?_ bound
  have part := Complex.abs_im_le_norm (Complex.exp ((x : ℝ) * Complex.I) -
    ∑ index ∈ range (2 * terms), ((x : ℝ) * Complex.I) ^ index / index.factorial)
  rwa [Complex.sub_im, Complex.exp_ofReal_mul_I_im, exponential_sum_im, abs_sub_comm] at part

end SineSeries
