import Mathlib.Algebra.Order.Floor.Ring
import Mathlib.Data.Int.Log
import Mathlib.Data.Rat.Floor
import Mathlib.Tactic.FieldSimp
import Mathlib.Tactic.Linarith
import Mathlib.Tactic.Positivity
import Mathlib.Tactic.Ring

/-!
# Rounding to a binary floating-point format

A finite floating-point number is its rational value. An operation computes the
exact value and rounds it to the nearest number of the format, ties to even. The
exponent is bounded below, as it is for subnormal numbers, and unbounded above.
The rules compare a rounded value with the multiples of a power of two: rounding
never passes one that lies on the format's grid.
-/

namespace BinaryFloat

set_option autoImplicit false

def nearestEven (x : ℚ) : ℤ :=
  if x - ⌊x⌋ < 1 / 2 then ⌊x⌋
  else if 1 / 2 < x - ⌊x⌋ then ⌊x⌋ + 1
  else if ⌊x⌋ % 2 = 0 then ⌊x⌋
  else ⌊x⌋ + 1

theorem nearest_even_cases (x : ℚ) :
    (nearestEven x = ⌊x⌋ ∧ x - ⌊x⌋ ≤ 1 / 2) ∨ (nearestEven x = ⌊x⌋ + 1 ∧ 1 / 2 ≤ x - ⌊x⌋) := by
  unfold nearestEven
  split_ifs with below above even
  · exact .inl ⟨rfl, below.le⟩
  · exact .inr ⟨rfl, above.le⟩
  · exact .inl ⟨rfl, not_lt.mp above⟩
  · exact .inr ⟨rfl, not_lt.mp below⟩

theorem nearest_even_error (x : ℚ) : |(nearestEven x : ℚ) - x| ≤ 1 / 2 := by
  have floor := Int.floor_le x
  have ceiling := Int.lt_floor_add_one x
  rw [abs_le]
  rcases nearest_even_cases x with ⟨down, small⟩ | ⟨up, large⟩
  · rw [down]
    constructor <;> linarith
  · rw [up]
    push_cast
    constructor <;> linarith

theorem nearest_even_le {x : ℚ} {bound : ℤ} (below : x ≤ bound) : nearestEven x ≤ bound := by
  have floor : ⌊x⌋ ≤ bound := by
    rw [← Int.cast_le (R := ℚ)]
    exact (Int.floor_le x).trans below
  rcases nearest_even_cases x with ⟨down, -⟩ | ⟨up, large⟩
  · rw [down]
    exact floor
  · rw [up]
    rcases floor.lt_or_eq with less | same
    · omega
    · rw [← same] at below
      linarith

theorem le_nearest_even {x : ℚ} {bound : ℤ} (above : bound ≤ x) : bound ≤ nearestEven x := by
  have floor : bound ≤ ⌊x⌋ := Int.le_floor.mpr above
  rcases nearest_even_cases x with ⟨down, -⟩ | ⟨up, -⟩
  · rw [down]
    exact floor
  · rw [up]
    omega

theorem nearest_even_mono {x y : ℚ} (order : x ≤ y) : nearestEven x ≤ nearestEven y := by
  rcases (Int.floor_mono order).lt_or_eq with less | same
  · have left : nearestEven x ≤ ⌊y⌋ := by
      rcases nearest_even_cases x with ⟨down, -⟩ | ⟨up, -⟩ <;> omega
    have right : ⌊y⌋ ≤ nearestEven y := le_nearest_even (Int.floor_le y)
    exact left.trans right
  · unfold nearestEven
    rw [same]
    split_ifs <;> first | omega | linarith

/-! ## Formats -/

structure Format where
  precision : Nat
  minExponent : ℤ
  positive : 0 < precision

def binary32 : Format := ⟨24, -149, by decide⟩

def binary64 : Format := ⟨53, -1074, by decide⟩

namespace Format

variable (format : Format)

/-- The exponent of the last place of a number of this magnitude. -/
def exponent (x : ℚ) : ℤ :=
  max (Int.log 2 |x| - (format.precision - 1)) format.minExponent

def spacing (x : ℚ) : ℚ := 2 ^ format.exponent x

def round (x : ℚ) : ℚ := nearestEven (x / format.spacing x) * format.spacing x

variable {format}

theorem spacing_pos (x : ℚ) : 0 < format.spacing x := by
  exact zpow_pos two_pos _

theorem round_error (x : ℚ) : |format.round x - x| ≤ format.spacing x / 2 := by
  have positive := format.spacing_pos x
  have error := nearest_even_error (x / format.spacing x)
  have scaled : format.round x - x =
      (nearestEven (x / format.spacing x) - x / format.spacing x) * format.spacing x := by
    unfold round
    field_simp
  rw [scaled, abs_mul, abs_of_pos positive]
  nlinarith

theorem grid_quotient {x : ℚ} {exponent : ℤ} (coarse : format.exponent x ≤ exponent)
    (factor : ℤ) :
    ∃ multiple : ℤ, (multiple : ℚ) = factor * 2 ^ exponent / format.spacing x := by
  obtain ⟨gap, split⟩ := Int.le.dest coarse
  refine ⟨factor * 2 ^ gap, ?_⟩
  unfold spacing
  rw [← split, zpow_add₀ two_ne_zero, zpow_natCast]
  push_cast
  field_simp

theorem round_le_grid {x : ℚ} {exponent factor : ℤ} (coarse : format.exponent x ≤ exponent)
    (below : x ≤ factor * 2 ^ exponent) : format.round x ≤ factor * 2 ^ exponent := by
  have positive := format.spacing_pos x
  obtain ⟨multiple, quotient⟩ := grid_quotient coarse factor
  have scaled : x / format.spacing x ≤ multiple := by
    rw [quotient]
    exact div_le_div_of_nonneg_right below positive.le
  have rounded : (nearestEven (x / format.spacing x) : ℚ) ≤ multiple :=
    Int.cast_le.mpr (nearest_even_le scaled)
  rw [quotient, le_div_iff₀ positive] at rounded
  exact rounded

theorem grid_le_round {x : ℚ} {exponent factor : ℤ} (coarse : format.exponent x ≤ exponent)
    (above : factor * 2 ^ exponent ≤ x) : factor * 2 ^ exponent ≤ format.round x := by
  have positive := format.spacing_pos x
  obtain ⟨multiple, quotient⟩ := grid_quotient coarse factor
  have scaled : multiple ≤ x / format.spacing x := by
    rw [quotient]
    exact div_le_div_of_nonneg_right above positive.le
  have rounded : (multiple : ℚ) ≤ nearestEven (x / format.spacing x) :=
    Int.cast_le.mpr (le_nearest_even scaled)
  rw [quotient, div_le_iff₀ positive] at rounded
  exact rounded

theorem round_grid {exponent factor : ℤ}
    (coarse : format.exponent (factor * 2 ^ exponent) ≤ exponent) :
    format.round (factor * 2 ^ exponent) = factor * 2 ^ exponent :=
  le_antisymm (round_le_grid coarse le_rfl) (grid_le_round coarse le_rfl)

theorem round_nonneg {x : ℚ} (nonneg : 0 ≤ x) : 0 ≤ format.round x := by
  have scaled : ((0 : ℤ) : ℚ) ≤ x / format.spacing x := by
    rw [Int.cast_zero]
    exact div_nonneg nonneg (format.spacing_pos x).le
  have rounded : (0 : ℚ) ≤ nearestEven (x / format.spacing x) :=
    Int.cast_nonneg (le_nearest_even scaled)
  exact mul_nonneg rounded (format.spacing_pos x).le

theorem round_zero : format.round 0 = 0 := by
  have zero : ((0 : ℤ) : ℚ) = 0 := Int.cast_zero
  have nearest : nearestEven 0 = 0 :=
    le_antisymm (nearest_even_le zero.ge) (le_nearest_even zero.le)
  rw [round, zero_div, nearest, Int.cast_zero, zero_mul]

/-- Between two magnitudes lies a power of two, which neither rounding passes. -/
theorem round_mono {x y : ℚ} (nonneg : 0 ≤ x) (order : x ≤ y) :
    format.round x ≤ format.round y := by
  rcases nonneg.eq_or_lt with rfl | positive
  · rw [round_zero]
    exact round_nonneg order
  have positiveToo : 0 < y := positive.trans_le order
  have logs : Int.log 2 |x| ≤ Int.log 2 |y| := by
    rw [abs_of_pos positive, abs_of_pos positiveToo]
    exact Int.log_mono_right positive order
  have exponents : format.exponent x ≤ format.exponent y := by
    unfold exponent
    omega
  rcases exponents.lt_or_eq with finer | same
  · have digits := format.positive
    have magnitude : format.exponent y = Int.log 2 |y| - (format.precision - 1) := by
      unfold exponent at finer ⊢
      omega
    have apart : Int.log 2 |x| + 1 ≤ Int.log 2 |y| := by
      unfold exponent at finer
      omega
    rw [abs_of_pos positive, abs_of_pos positiveToo] at apart
    rw [abs_of_pos positiveToo] at magnitude
    have between : x ≤ ((1 : ℤ) : ℚ) * 2 ^ Int.log 2 y := by
      rw [Int.cast_one, one_mul]
      have below := (Int.lt_zpow_succ_log_self Nat.one_lt_two x).le
      exact below.trans (zpow_le_zpow_right₀ one_le_two apart)
    have reached : ((1 : ℤ) : ℚ) * 2 ^ Int.log 2 y ≤ y := by
      rw [Int.cast_one, one_mul]
      exact Int.zpow_log_le_self Nat.one_lt_two positiveToo
    exact (round_le_grid (by omega) between).trans (grid_le_round (by omega) reached)
  · have spacings : format.spacing x = format.spacing y := by
      rw [spacing, same, spacing]
    have scaled : x / format.spacing y ≤ y / format.spacing y :=
      div_le_div_of_nonneg_right order (format.spacing_pos y).le
    have rounded : (nearestEven (x / format.spacing y) : ℚ) ≤ nearestEven (y / format.spacing y) :=
      Int.cast_le.mpr (nearest_even_mono scaled)
    rw [round, round, spacings]
    exact mul_le_mul_of_nonneg_right rounded (format.spacing_pos y).le

theorem exponent_below {x : ℚ} {bound : ℤ} (nonzero : x ≠ 0) (below : |x| < 2 ^ bound)
    (low : format.minExponent ≤ bound - format.precision) :
    format.exponent x ≤ bound - format.precision := by
  have log : Int.log 2 |x| < bound :=
    (Int.lt_zpow_iff_log_lt Nat.one_lt_two (abs_pos.mpr nonzero)).mp below
  unfold exponent
  omega

theorem round_error_below {x : ℚ} {bound : ℤ} (below : |x| < 2 ^ bound)
    (low : format.minExponent ≤ bound - format.precision) :
    |format.round x - x| ≤ 2 ^ (bound - format.precision) / 2 := by
  rcases eq_or_ne x 0 with rfl | nonzero
  · rw [round_zero, sub_zero, abs_zero]
    exact div_nonneg (zpow_pos two_pos _).le zero_le_two
  · have place : format.spacing x ≤ 2 ^ (bound - format.precision) :=
      zpow_le_zpow_right₀ one_le_two (format.exponent_below nonzero below low)
    have error := format.round_error x
    linarith

/-- A normal number has as many places as the precision. -/
theorem spacing_relative {x : ℚ}
    (normal : 2 ^ (format.minExponent + format.precision - 1) ≤ x) :
    format.spacing x ≤ x * 2 ^ (1 - format.precision : ℤ) := by
  have positive : 0 < x := (zpow_pos two_pos _).trans_le normal
  have large : format.minExponent + format.precision - 1 ≤ Int.log 2 x :=
    (Int.zpow_le_iff_le_log Nat.one_lt_two positive).mp normal
  have magnitude : format.exponent x = Int.log 2 x + (1 - format.precision) := by
    unfold exponent
    rw [abs_of_pos positive]
    omega
  have reached : (2 : ℚ) ^ Int.log 2 x ≤ x := Int.zpow_log_le_self Nat.one_lt_two positive
  rw [spacing, magnitude, zpow_add₀ two_ne_zero]
  exact mul_le_mul_of_nonneg_right reached (zpow_pos two_pos _).le

theorem round_relative {x : ℚ}
    (normal : 2 ^ (format.minExponent + format.precision - 1) ≤ x) :
    |format.round x - x| ≤ x * 2 ^ (-format.precision : ℤ) := by
  have spaced := spacing_relative normal
  have half : (2 : ℚ) ^ (1 - format.precision : ℤ) = 2 * 2 ^ (-format.precision : ℤ) := by
    rw [sub_eq_add_neg, zpow_add₀ two_ne_zero, zpow_one]
  rw [half] at spaced
  have error := format.round_error x
  linarith

theorem scaled_below (x : ℚ) : |x / format.spacing x| ≤ 2 ^ format.precision := by
  have positive := format.spacing_pos x
  have digits := format.positive
  rcases eq_or_ne x 0 with rfl | nonzero
  · rw [zero_div, abs_zero]
    exact pow_nonneg zero_le_two _
  have below := (Int.lt_zpow_succ_log_self Nat.one_lt_two |x|).le
  have reaches : Int.log 2 |x| + 1 ≤ format.precision + format.exponent x := by
    unfold exponent
    omega
  rw [abs_div, abs_of_pos positive, div_le_iff₀ positive, spacing, ← zpow_natCast,
    ← zpow_add₀ two_ne_zero]
  exact below.trans (zpow_le_zpow_right₀ one_le_two reaches)

theorem round_short {exponent factor : ℤ} (low : format.minExponent ≤ exponent)
    (short : |factor| < 2 ^ format.precision) :
    format.round (factor * 2 ^ exponent) = factor * 2 ^ exponent := by
  have place : (0 : ℚ) < 2 ^ exponent := zpow_pos two_pos _
  rcases eq_or_ne factor 0 with rfl | nonzero
  · rw [Int.cast_zero, zero_mul, round_zero]
  · have value : (factor : ℚ) * 2 ^ exponent ≠ 0 :=
      mul_ne_zero (Int.cast_ne_zero.mpr nonzero) place.ne'
    have below : |(factor : ℚ) * 2 ^ exponent| < 2 ^ (exponent + format.precision) := by
      rw [abs_mul, abs_of_pos place, ← Int.cast_abs, add_comm, zpow_add₀ two_ne_zero, zpow_natCast]
      exact mul_lt_mul_of_pos_right (by exact_mod_cast short) place
    have coarse := format.exponent_below value below (by omega)
    exact round_grid (by omega)

theorem round_fitting {exponent factor : ℤ} (low : format.minExponent ≤ exponent)
    (fits : |factor| ≤ 2 ^ format.precision) :
    format.round (factor * 2 ^ exponent) = factor * 2 ^ exponent := by
  rcases fits.lt_or_eq with short | full
  · exact round_short low short
  · -- the factor has become the next power of two, so half of it is short
    have positive := format.positive
    obtain ⟨half, rfl⟩ : 2 ∣ factor := by
      rw [← dvd_abs, full]
      exact dvd_pow_self 2 (by omega)
    have short : |half| < 2 ^ format.precision := by
      rw [abs_mul, abs_two] at full
      have power : (0 : ℤ) < 2 ^ format.precision := pow_pos two_pos _
      omega
    have same : ((2 * half : ℤ) : ℚ) * 2 ^ exponent = half * 2 ^ (exponent + 1) := by
      rw [zpow_add_one₀ two_ne_zero]
      push_cast
      ring
    rw [same]
    exact round_short (by omega) short

theorem factor_fits (x : ℚ) : |nearestEven (x / format.spacing x)| ≤ 2 ^ format.precision := by
  have bound := abs_le.mp (format.scaled_below x)
  rw [abs_le]
  constructor
  · apply le_nearest_even
    push_cast
    exact bound.1
  · apply nearest_even_le
    push_cast
    exact bound.2

theorem round_round (x : ℚ) : format.round (format.round x) = format.round x :=
  round_fitting (le_max_right _ _) (format.factor_fits x)

/-- Multiplying by a power of two is exact, also into a wider format. -/
theorem round_scaled {wide : Format} {x : ℚ} (member : format.round x = x) (shift : ℤ)
    (wider : format.precision ≤ wide.precision)
    (low : wide.minExponent ≤ format.minExponent + shift) :
    wide.round (x * 2 ^ shift) = x * 2 ^ shift := by
  have onGrid : x * 2 ^ shift =
      nearestEven (x / format.spacing x) * 2 ^ (format.exponent x + shift) := by
    rw [zpow_add₀ two_ne_zero, ← mul_assoc]
    exact congrArg (· * 2 ^ shift) member.symm
  have least : format.minExponent ≤ format.exponent x := le_max_right _ _
  rw [onGrid]
  exact round_fitting (by omega)
    ((format.factor_fits x).trans (pow_le_pow_right₀ one_le_two wider))

end Format

/-! ## Conversion to an integer -/

def truncate (x : ℚ) : ℤ := if 0 ≤ x then ⌊x⌋ else ⌈x⌉

theorem truncate_error (x : ℚ) : |(truncate x : ℚ) - x| < 1 := by
  have floor := Int.floor_le x
  have floorNext := Int.lt_floor_add_one x
  have ceil := Int.le_ceil x
  have ceilNext := Int.ceil_lt_add_one x
  rw [abs_lt]
  unfold truncate
  split_ifs <;> constructor <;> linarith

theorem truncate_between {x : ℚ} {low high : ℤ} (negative : low < 0) (positive : 0 < high)
    (above : low < x) (below : x < high) : low < truncate x ∧ truncate x < high := by
  unfold truncate
  split_ifs with nonneg
  · have floor : 0 ≤ ⌊x⌋ := Int.floor_nonneg.mpr nonneg
    exact ⟨by omega, Int.floor_lt.mpr below⟩
  · have ceil : ⌈x⌉ ≤ 0 := Int.ceil_le.mpr (by rw [Int.cast_zero]; linarith)
    exact ⟨Int.lt_ceil.mpr above, by omega⟩

end BinaryFloat
