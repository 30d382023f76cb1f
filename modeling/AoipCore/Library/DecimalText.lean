import Mathlib.Data.Nat.Digits.Lemmas

/-!
# Numbers printed in decimal

The text of a number as `%d` prints it, in ASCII. `readDecimal` recovers the
number, so two numbers with the same text are equal.
-/

namespace DecimalText

set_option autoImplicit false

def digitByte (digit : Nat) : UInt8 := UInt8.ofNat (48 + digit)

def decimal (value : Nat) : List UInt8 :=
  if value = 0 then [digitByte 0] else ((Nat.digits 10 value).map digitByte).reverse

def signedDecimal (value : Int) : List UInt8 :=
  if value < 0 then 45 :: decimal value.natAbs else decimal value.natAbs

def readDecimal (text : List UInt8) : Nat :=
  Nat.ofDigits 10 (text.reverse.map fun byte => byte.toNat - 48)

def IsDigit (byte : UInt8) : Prop := 48 ≤ byte.toNat ∧ byte.toNat ≤ 57

theorem digit_byte_value {digit : Nat} (small : digit < 10) :
    (digitByte digit).toNat = 48 + digit := by
  rw [digitByte, UInt8.toNat_ofNat_of_lt']
  change 48 + digit < 256
  omega

theorem read_decimal_decimal (value : Nat) : readDecimal (decimal value) = value := by
  unfold decimal
  split_ifs with zero
  · rw [zero]
    rfl
  · have digits : ((Nat.digits 10 value).map digitByte).map (fun byte => byte.toNat - 48) =
        Nat.digits 10 value := by
      rw [List.map_map]
      conv_rhs => rw [← List.map_id (Nat.digits 10 value)]
      apply List.map_congr_left
      intro digit member
      rw [Function.comp_apply, digit_byte_value (Nat.digits_lt_base (by decide) member), id_eq]
      omega
    rw [readDecimal, List.reverse_reverse, digits, Nat.ofDigits_digits]

theorem decimal_injective {left right : Nat} (same : decimal left = decimal right) :
    left = right := by
  rw [← read_decimal_decimal left, same, read_decimal_decimal]

theorem decimal_digits (value : Nat) : ∀ byte ∈ decimal value, IsDigit byte := by
  unfold decimal IsDigit
  split_ifs with zero
  · intro byte member
    rw [List.mem_singleton.mp member, digit_byte_value (by decide)]
    omega
  · intro byte member
    obtain ⟨digit, present, rfl⟩ := List.mem_map.mp (List.mem_reverse.mp member)
    have small : digit < 10 := Nat.digits_lt_base (by decide) present
    rw [digit_byte_value small]
    omega

theorem decimal_length_le {value width : Nat} (positive : 0 < width)
    (small : value < 10 ^ width) : (decimal value).length ≤ width := by
  unfold decimal
  split_ifs
  · exact positive
  · rw [List.length_reverse, List.length_map]
    exact (Nat.digits_length_le_iff (by decide) value).mpr small

theorem signed_decimal_bytes (value : Int) :
    ∀ byte ∈ signedDecimal value, byte = 45 ∨ IsDigit byte := by
  unfold signedDecimal
  split_ifs
  · intro byte member
    rcases List.mem_cons.mp member with sign | digit
    · exact .inl sign
    · exact .inr (decimal_digits _ byte digit)
  · intro byte member
    exact .inr (decimal_digits _ byte member)

theorem signed_decimal_length_le {value : Int} {width : Nat} (positive : 0 < width)
    (small : value.natAbs < 10 ^ width) : (signedDecimal value).length ≤ width + 1 := by
  have length := decimal_length_le positive small
  unfold signedDecimal
  split_ifs
  · rw [List.length_cons]
    omega
  · omega

theorem decimal_unsigned (value : Nat) (rest : List UInt8) : decimal value ≠ 45 :: rest := by
  intro same
  have sign := decimal_digits value 45 (by rw [same]; exact List.mem_cons_self)
  exact absurd sign.1 (by decide)

theorem signed_decimal_injective {left right : Int}
    (same : signedDecimal left = signedDecimal right) : left = right := by
  unfold signedDecimal at same
  split_ifs at same with leftSign rightSign rightSign
  · have values := decimal_injective (List.cons.inj same).2
    omega
  · exact absurd same.symm (decimal_unsigned _ _)
  · exact absurd same (decimal_unsigned _ _)
  · have values := decimal_injective same
    omega

def hexDigit (digit : Nat) : UInt8 :=
  if digit < 10 then UInt8.ofNat (48 + digit) else UInt8.ofNat (55 + digit)

def twoHex (byte : UInt8) : List UInt8 := [hexDigit (byte.toNat / 16), hexDigit (byte.toNat % 16)]

end DecimalText
