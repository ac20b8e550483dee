/-
**Whole numbers are finite floats.**

A float whose exponent is at most 971 fits its eleven exponent bits, so it is no infinity. A product
of floats is rounded by two shifts to the right, and each raises the exponent by no more than the
mantissa has bits. A whole number of 64 bits stays far below the bound that way, whether it is read
from a word or from its digits; how exactly the mantissa is rounded does not matter.

* `IsWithin`: zero, or a mantissa of so many bits and an exponent up to a bound;
* `isWithin_roundWithAccuracy`, `isWithin_mul`, `isWithin_round`: rounding keeps within bounds;
* `isWithin_unpack_pack`: so does the packing into 64 bits;
* `isFinite_ofInt`: the float of a whole number of 64 bits, signed or not, is finite.
-/

import Mathlib.Algebra.GroupWithZero.Nat
import Mathlib.Algebra.Ring.Int.Defs
import PromptRelay.Decimal.Binary

namespace PromptRelay.Decimal

open Float.Model (Format UnpackedFloat totalExponent)
open Float.Model.UnpackedFloat

/-- The float is zero, or finite with a mantissa of so many bits and an exponent up to a bound. -/
inductive IsWithin (bits : Nat) (bound : Int) : UnpackedFloat → Prop where
  | zero (sign : Sign) : IsWithin bits bound (.zero sign)
  | finite {sign : Sign} {mantissa : Nat} {exponent : Int} (positive : 0 < mantissa)
      (short : mantissa < 2 ^ bits) (below : exponent ≤ bound) :
      IsWithin bits bound (.finite sign mantissa exponent positive)

variable {bits : Nat} {bound : Int} {float : UnpackedFloat}

theorem IsWithin.isFinite (within : IsWithin bits bound float) : float.isFinite = true := by
  cases within <;> rfl

theorem IsWithin.neg (within : IsWithin bits bound float) : IsWithin bits bound float.neg := by
  cases within with
  | zero sign => exact .zero _
  | finite positive short below => exact .finite positive short below

/-! ### The numbers of the format -/

theorem minExponent_eq : Format.binary64.minExponent = -1074 := by decide

theorem mantissaBits_eq : Format.binary64.mantissaBits = 53 := by decide

theorem exponentBits_eq : Format.binary64.exponentBits = 11 := rfl

theorem exponentBias_eq : Format.binary64.exponentBias = 1023 := by decide

theorem log2_le_of_lt {mantissa : Nat} (short : mantissa < 2 ^ bits) : mantissa.log2 ≤ bits := by
  by_cases isZero : mantissa = 0
  · simp [isZero]
  · exact Nat.le_of_lt ((Nat.log2_lt isZero).mpr short)

/-! ### Rounding -/

/-- Shifting to the right makes no mantissa greater. -/
theorem mantissa_shiftRight_le (extended : ExtendedMantissa) (count : Nat) :
    (extended >>> count).mantissa ≤ extended.mantissa := by
  show (Nat.repeat ExtendedMantissa.shiftRightOne count extended).mantissa ≤ _
  induction count with
  | zero => exact Nat.le_refl _
  | succ count hypothesis => exact Nat.le_trans (Nat.div_le_self _ 2) hypothesis

theorem roundedMantissa_le (extended : ExtendedMantissa) :
    extended.roundedMantissa ≤ extended.mantissa + 1 := by
  obtain ⟨mantissa, roundBit, stickyBit⟩ := extended
  unfold ExtendedMantissa.roundedMantissa ExtendedMantissa.accuracy
  cases roundBit <;> cases stickyBit <;> (dsimp only [Accuracy.roundToNearestEven]; omega)

theorem mantissa_shiftToTargetExponent_le (mantissa : Nat) (exponent : Int) :
    (shiftToTargetExponent .binary64 mantissa exponent .exact).1.mantissa ≤ mantissa :=
  mantissa_shiftRight_le _ _

/-- **A shift raises the exponent** by no more than the mantissa has bits. -/
theorem exponent_shiftToTargetExponent_le {mantissa : Nat} {exponent : Int}
    (short : mantissa < 2 ^ bits) (below : exponent ≤ bound) (least : -1074 ≤ bound) :
    (shiftToTargetExponent .binary64 mantissa exponent .exact).2 ≤ bound + bits := by
  have few := log2_le_of_lt short
  simp only [shiftToTargetExponent, shiftToExponent, Format.targetExponent, minExponent_eq,
    mantissaBits_eq, totalExponent]
  omega

/-- **Rounding shifts twice**, the second time because the first may have rounded up to one bit
more. -/
theorem isWithin_roundWithAccuracy (sign : Sign) {mantissa : Nat} {exponent : Int}
    (short : mantissa < 2 ^ bits) (below : exponent ≤ bound) (least : -1074 ≤ bound) :
    IsWithin (bits + 1) (bound + 2 * bits + 1)
      (roundWithAccuracy .binary64 sign mantissa exponent .exact) := by
  have rounded := Nat.le_trans (roundedMantissa_le _)
    (Nat.succ_le_succ (mantissa_shiftToTargetExponent_le mantissa exponent))
  have firstBelow := exponent_shiftToTargetExponent_le short below least
  unfold roundWithAccuracy
  generalize shiftToTargetExponent .binary64 mantissa exponent .exact = first at *
  obtain ⟨first, firstExponent⟩ := first
  dsimp only at *
  have roundedShort : first.roundedMantissa < 2 ^ (bits + 1) := by
    rw [Nat.pow_succ]
    omega
  have secondMantissa := mantissa_shiftToTargetExponent_le first.roundedMantissa firstExponent
  have secondBelow := exponent_shiftToTargetExponent_le roundedShort firstBelow (by omega)
  generalize shiftToTargetExponent .binary64 first.roundedMantissa firstExponent .exact =
    second at *
  by_cases isZero : second.1.mantissa = 0
  · rw [dif_pos isZero]
    exact .zero sign
  · rw [dif_neg isZero]
    exact .finite _ (by omega) (by omega)

theorem isWithin_mul {left right : UnpackedFloat} {others : Nat} {other : Int}
    (least : -1074 ≤ bound + other) (leftWithin : IsWithin bits bound left)
    (rightWithin : IsWithin others other right) :
    IsWithin (bits + others + 1) (bound + other + 2 * (bits + others : Nat) + 1)
      (mul .binary64 left right) := by
  cases leftWithin with
  | zero sign => cases rightWithin <;> exact .zero _
  | finite positive short below =>
    cases rightWithin with
    | zero sign => exact .zero _
    | finite otherPositive otherShort otherBelow =>
      refine isWithin_roundWithAccuracy _ ?_ (Int.add_le_add below otherBelow) least
      rw [Nat.pow_add]
      exact Nat.mul_lt_mul'' short otherShort

/-- A whole number is first given all the bits of a mantissa. -/
theorem isWithin_round (sign : Sign) {mantissa : Nat} (short : mantissa < 2 ^ bits)
    (enough : 53 ≤ bits) :
    IsWithin (bits + 1) (2 * bits + 1) (UnpackedFloat.round .binary64 sign mantissa 0) := by
  unfold UnpackedFloat.round decreaseExponent
  dsimp only
  rw [Format.targetExponent, mantissaBits_eq, minExponent_eq, totalExponent]
  have amount : (0 - max ((mantissa.log2 : Int) + 1 + 0 - (53 : Nat)) (-1074)).toNat =
      52 - mantissa.log2 := by omega
  rw [amount, ← Int.zero_add (2 * bits : Int)]
  refine isWithin_roundWithAccuracy sign ?_ (by omega) (by decide)
  rw [Nat.shiftLeft_eq]
  -- a mantissa of all its bits is not shifted, and then has no more than it had
  by_cases full : 52 ≤ mantissa.log2
  · rw [Nat.sub_eq_zero_of_le full]
    omega
  · calc mantissa * 2 ^ (52 - mantissa.log2)
        < 2 ^ (mantissa.log2 + 1) * 2 ^ (52 - mantissa.log2) :=
          Nat.mul_lt_mul_of_pos_right Nat.lt_log2_self (Nat.two_pow_pos _)
      _ = 2 ^ 53 := by
          rw [← Nat.pow_add]
          congr 1
          omega
      _ ≤ 2 ^ bits := Nat.pow_le_pow_right (by decide) enough

/-! ### The packing into 64 bits -/

/-- **What 64 bits hold** is within the bound of their exponent bits, if these are not all set. -/
theorem isWithin_unpack {packed : BitVec Format.binary64.numBits}
    (notLast : (unpackExponent packed).toNat < 2047) (least : -1074 ≤ bound)
    (below : ((unpackExponent packed).toNat : Int) ≤ bound + 1075) :
    IsWithin 53 bound (unpack .binary64 packed) := by
  have short : (unpackMantissa packed).toNat < 2 ^ 52 := (unpackMantissa packed).isLt
  have notAllSet : unpackExponent packed ≠ -1#11 := by
    intro last
    rw [last] at notLast
    contradiction
  unfold unpack
  dsimp only
  rw [exponentBias_eq, if_neg notAllSet]
  by_cases isZero : unpackExponent packed = 0#11
  · rw [if_pos isZero]
    by_cases noMantissa : unpackMantissa packed = 0#52
    · rw [dif_pos noMantissa]
      exact .zero _
    · rw [dif_neg noMantissa]
      refine .finite _ ?_ ?_
      · show (unpackMantissa packed).toNat < 2 ^ (52 + 1)
        omega
      · show _ - (1023 + 52) + 1 ≤ bound
        rw [isZero]
        exact least
  · rw [if_neg isZero]
    refine .finite _ (1#1 ++ unpackMantissa packed).isLt ?_
    show _ - (1023 + 52) ≤ bound
    omega

theorem isWithin_unpack_pack (least : -1074 ≤ bound) (most : bound ≤ 971)
    (within : IsWithin bits bound float) :
    IsWithin 53 bound (unpack .binary64 (pack .binary64 float)) := by
  cases within with
  | zero sign =>
    have isZero : unpackExponent (pack .binary64 (.zero sign)) = 0#11 :=
      unpackExponent_packComponents
    refine isWithin_unpack ?_ least ?_ <;> rw [isZero]
    · decide
    · show 0 ≤ bound + 1075
      omega
  | finite positive short below =>
    unfold pack
    dsimp only
    rw [exponentBias_eq, if_neg (by omega)]
    split
    · refine isWithin_unpack ?_ least ?_ <;>
        rw [unpackExponent_packComponents, BitVec.toNat_ofNat, exponentBits_eq] <;> omega
    · refine isWithin_unpack ?_ least ?_ <;>
        rw [unpackExponent_packComponents, BitVec.toNat_zero] <;> omega

/-! ### Floats -/

theorem isFinite_ofModel_pack (least : -1074 ≤ bound) (most : bound ≤ 971)
    (within : IsWithin bits bound float) :
    (Float.ofModel (Float.Model.pack float)).isFinite = true :=
  (isWithin_unpack_pack least most within).isFinite

/-- Exponent bits that are all set hold an infinity or no number. -/
theorem isWithin_of_isFinite {value : Float} (finite : value.isFinite = true) :
    IsWithin 53 971 value.toModel.unpack := by
  generalize isPacked : value.toModel.toBits.toBitVec = packed
  have finite : (unpack .binary64 packed).isFinite = true := isPacked ▸ finite
  have notAllSet : @unpackExponent .binary64 packed ≠ -1#11 := by
    intro allSet
    unfold unpack at finite
    dsimp only at finite
    rw [if_pos allSet] at finite
    split at finite <;> cases finite
  have few : (@unpackExponent .binary64 packed).toNat < 2 ^ 11 :=
    (@unpackExponent .binary64 packed).isLt
  have notLast : (@unpackExponent .binary64 packed).toNat ≠ 2047 := fun same =>
    notAllSet (BitVec.eq_of_toNat_eq same)
  show IsWithin 53 971 (unpack .binary64 value.toModel.toBits.toBitVec)
  rw [isPacked]
  exact isWithin_unpack (by omega) (by decide) (by omega)

theorem isFinite_neg {value : Float} (finite : value.isFinite = true) :
    value.neg.isFinite = true :=
  isFinite_ofModel_pack (by decide) (by decide) (isWithin_of_isFinite finite).neg

/-- The float that digits of up to 53 bits are multiplied by. -/
theorem isWithin_one : IsWithin 53 0 (Float.ofBits 0x3FF0000000000000).toModel.unpack :=
  isWithin_unpack_pack (by decide) (by decide)
    (isWithin_unpack (by decide) (by decide) (by decide))

theorem isWithin_toFloat {word : UInt64} (few : word.toNat < 2 ^ 53) :
    IsWithin 53 107 word.toFloat.toModel.unpack := by
  have within : IsWithin 54 107 (ofUInt64 .binary64 word) := by
    unfold ofUInt64 ofNat ofInt UnpackedFloat.normalize
    split
    · exact isWithin_round _ (by omega) (by decide)
    · exact .zero _
    · exact isWithin_round _ (by omega) (by decide)
  exact isWithin_unpack_pack (by decide) (by decide) within

theorem isWithin_ofScientific {number : Nat} (few : number < 2 ^ 64) :
    IsWithin 119 184 (ofScientific .binary64 number 0) := by
  unfold ofScientific
  by_cases isZero : number = 0
  · rw [dif_pos isZero]
    exact .zero _
  · have notTiny : ¬ (0 : Int) < -((2 ^ Format.binary64.exponentBits : Int) + number.log2) := by
      rw [exponentBits_eq]
      omega
    rw [dif_neg isZero, if_neg (by decide), if_neg notTiny, if_pos (by decide)]
    refine @isWithin_mul 117 (-53) _ _ 1 0 (by decide) ?_ ?_
    · refine .finite _ ?_ (by decide)
      rw [Nat.shiftLeft_eq, mantissaBits_eq]
      omega
    · exact .finite _ (by decide) (by decide)

/-- **A natural number becomes a float** in two ways: from a word up to 53 bits, else from
its digits. -/
theorem isFinite_ofNat {number : Nat} (few : number < 2 ^ 64) :
    (Float.ofNat number).isFinite = true := by
  show (Float.ofScientific number false 0).isFinite = true
  unfold Float.ofScientific
  split
  · rename_i short
    have isNumber : number.toUInt64.toNat = number := UInt64.toNat_ofNat_of_lt' few
    have within := isWithin_toFloat (isNumber ▸ short.1)
    exact isFinite_ofModel_pack (by decide) (by decide)
      (isWithin_mul (by decide) within isWithin_one)
  · exact isFinite_ofModel_pack (by decide) (by decide) (isWithin_ofScientific few)

/-- **Whole numbers are finite floats.** -/
theorem isFinite_ofInt {number : Int} (least : -2 ^ 63 ≤ number) (most : number < 2 ^ 64) :
    (Float.ofInt number).isFinite = true := by
  cases number with
  | ofNat number => exact isFinite_ofNat (Int.ofNat_lt.mp most)
  | negSucc number => exact isFinite_neg (isFinite_ofNat (by omega))

end PromptRelay.Decimal
