import Mathlib.Data.Int.Basic

/-!
# Words read with the other signedness, and signed arithmetic that does not wrap
-/

namespace MachineInt

set_option autoImplicit false

theorem to_int32_value (word : UInt32) :
    word.toInt32.toInt =
      if word.toNat < 2147483648 then (word.toNat : Int) else (word.toNat : Int) - 4294967296 := by
  have value := BitVec.toInt_eq_toNat_cond word.toBitVec
  have signed : word.toInt32.toInt = word.toBitVec.toInt := rfl
  have natural : word.toBitVec.toNat = word.toNat := rfl
  rw [signed, value, natural]
  split_ifs <;> omega

theorem to_uint64_value (value : Int64) :
    (value.toUInt64.toNat : Int) =
      if 0 ≤ value.toInt then value.toInt else value.toInt + 18446744073709551616 := by
  have cases := BitVec.toInt_eq_toNat_cond value.toBitVec
  have signed : value.toInt = value.toBitVec.toInt := rfl
  have natural : value.toUInt64.toNat = value.toBitVec.toNat := rfl
  have bounded := value.toBitVec.isLt
  rw [signed, natural]
  split_ifs at cases ⊢ <;> omega

theorem to_int64_small {word : UInt64} (small : word.toNat < 9223372036854775808) :
    word.toInt64.toInt = word.toNat := by
  have cases := BitVec.toInt_eq_toNat_cond word.toBitVec
  have signed : word.toInt64.toInt = word.toBitVec.toInt := rfl
  have natural : word.toBitVec.toNat = word.toNat := rfl
  rw [signed, cases, natural, if_pos (by omega)]

def InInt64 (value : Int) : Prop :=
  -9223372036854775808 ≤ value ∧ value < 9223372036854775808

theorem wrap_of_in_int64 {value : Int} {modulus : Nat} (inside : InInt64 value)
    (word : modulus = 18446744073709551616) : value.bmod modulus = value := by
  obtain ⟨low, high⟩ := inside
  apply Int.bmod_eq_of_le_mul_two <;> omega

theorem int64_sub_exact {first second : Int64} (inside : InInt64 (first.toInt - second.toInt)) :
    (first - second).toInt = first.toInt - second.toInt := by
  rw [Int64.toInt_sub, wrap_of_in_int64 inside rfl]

theorem int64_add_exact {first second : Int64} (inside : InInt64 (first.toInt + second.toInt)) :
    (first + second).toInt = first.toInt + second.toInt := by
  rw [Int64.toInt_add, wrap_of_in_int64 inside rfl]

theorem half_toward_zero (value : Int) :
    value.tdiv 2 = if 0 ≤ value then value / 2 else -(-value / 2) := by
  split_ifs with sign
  · exact Int.tdiv_eq_ediv_of_nonneg sign
  · have opposite : 0 ≤ -value := by omega
    rw [← Int.tdiv_eq_ediv_of_nonneg opposite, Int.neg_tdiv, Int.neg_neg]

theorem int64_half_exact (value : Int64) : (value / 2).toInt = value.toInt.tdiv 2 := by
  have low := value.le_toInt
  have high := value.toInt_lt
  have two : (2 : Int64).toInt = 2 := rfl
  have half := half_toward_zero value.toInt
  have inside : InInt64 (value.toInt.tdiv 2) := by
    rw [half]
    split_ifs <;> constructor <;> omega
  rw [Int64.toInt_div, two, wrap_of_in_int64 inside rfl]

theorem sub_signed_value (word : UInt64) (value : Int64)
    (low : 0 ≤ (word.toNat : Int) - value.toInt)
    (high : (word.toNat : Int) - value.toInt < 18446744073709551616) :
    ((word - value.toUInt64).toNat : Int) = word.toNat - value.toInt := by
  have unsigned := to_uint64_value value
  have bounded := value.toUInt64.toNat_lt
  rw [UInt64.toNat_sub]
  split_ifs at unsigned <;> omega

/-! A mask of all bits changes nothing. -/

theorem masked_word16 (word : UInt16) : word &&& 0xffff = word :=
  UInt16.and_neg_one

theorem masked_word32 (word : UInt32) : word &&& 0xffffffff = word :=
  UInt32.and_neg_one

end MachineInt
