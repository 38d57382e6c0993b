import Mathlib
import SceneComponent.Binary64

/-!
# Doubles from indices

A double is its bit pattern, but that all undefined patterns are one.  The main
statements are `index_ofIndex` and `isNegative_ofIndex`: a double made from a
sign and an index up to infinity has that sign and that index.  Conversely sign
and index tell doubles apart, so that equality of numbers is equality but for
zeros with a sign.
-/

set_option autoImplicit false

namespace SceneComponent.Binary64

open Float.Model UnpackedFloat

theorem toNat_unpackExponent (pattern : BitVec 64) :
    (@unpackExponent Format.binary64 pattern).toNat =
      pattern.toNat / 4503599627370496 % 2048 := by
  rw [unpackExponent_def]
  exact (BitVec.extractLsb'_toNat 52 11 pattern).trans (by rw [Nat.shiftRight_eq_div_pow])

theorem toNat_unpackMantissa (pattern : BitVec 64) :
    (@unpackMantissa Format.binary64 pattern).toNat = pattern.toNat % 4503599627370496 := by
  rw [unpackMantissa_def]
  exact BitVec.extractLsb'_toNat 0 52 pattern

/-- A pattern is an undefined number when its magnitude is beyond infinity. -/
theorem isNaNBits_iff (pattern : BitVec 64) :
    @isNaNBits Format.binary64 pattern = true ↔
      9218868437227405312 < pattern.toNat % 9223372036854775808 := by
  have exponent := toNat_unpackExponent pattern
  have mantissa := toNat_unpackMantissa pattern
  have highest : (@unpackExponent Format.binary64 pattern = -1#11) ↔
      pattern.toNat / 4503599627370496 % 2048 = 2047 := by
    rw [← exponent]
    exact BitVec.toNat_inj.symm
  have whole : (@unpackMantissa Format.binary64 pattern = 0#52) ↔
      pattern.toNat % 4503599627370496 = 0 := by
    rw [← mantissa]
    exact BitVec.toNat_inj.symm
  refine decide_eq_true_iff.trans ((and_congr highest (not_congr whole)).trans ?_)
  omega

theorem toBits_ofBits (pattern : UInt64)
    (defined : pattern.toNat % 9223372036854775808 ≤ 9218868437227405312) :
    (Float.ofBits pattern).toBits = pattern := by
  have kept := @pack_unpack Format.binary64 pattern.toBitVec (by decide)
  rw [Bool.eq_false_iff.mpr fun undefined =>
    absurd ((isNaNBits_iff pattern.toBitVec).mp undefined) (Nat.not_lt.mpr defined)] at kept
  exact congrArg UInt64.ofBitVec kept

theorem toBits_ofIndex (negative : Bool) {index : Nat} (bounded : index ≤ infiniteIndex) :
    (ofIndex negative index).toBits.toNat = if negative then signBit + index else index := by
  have limit : infiniteIndex = 9218868437227405312 := rfl
  have sign : signBit = 9223372036854775808 := rfl
  have pattern :
      (UInt64.ofNat (if negative then signBit + index else index)).toNat =
        if negative then signBit + index else index := by
    rw [UInt64.toNat_ofNat']
    split <;> omega
  unfold ofIndex
  rw [toBits_ofBits, pattern]
  rw [pattern]
  split <;> omega

theorem index_ofIndex (negative : Bool) {index : Nat} (bounded : index ≤ infiniteIndex) :
    Binary64.index (ofIndex negative index) = index := by
  have limit : infiniteIndex = 9218868437227405312 := rfl
  have sign : signBit = 9223372036854775808 := rfl
  unfold Binary64.index
  rw [toBits_ofIndex negative bounded, sign]
  split <;> omega

theorem isNegative_ofIndex (negative : Bool) {index : Nat} (bounded : index ≤ infiniteIndex) :
    isNegative (ofIndex negative index) = negative := by
  have limit : infiniteIndex = 9218868437227405312 := rfl
  have sign : signBit = 9223372036854775808 := rfl
  unfold isNegative
  rw [toBits_ofIndex negative bounded]
  cases negative with
  | false => simp; omega
  | true => simp

/-! ## When two doubles are one -/

theorem toBits_eq (x : Float) :
    x.toBits.toNat = if isNegative x then signBit + index x else index x := by
  have bounded : x.toBits.toNat < 18446744073709551616 := x.toBits.toNat_lt
  have sign : signBit = 9223372036854775808 := rfl
  unfold isNegative Binary64.index
  simp only [decide_eq_true_eq, sign]
  split <;> omega

theorem eq_of_index_eq {x y : Float} (sign : isNegative x = isNegative y)
    (magnitude : Binary64.index x = Binary64.index y) : x = y := by
  apply Float.toBits_inj.mp
  apply UInt64.toNat_inj.mp
  rw [toBits_eq x, toBits_eq y, sign, magnitude]

/-- All undefined numbers are one. -/
theorem eq_of_isNaN {x y : Float} (first : isNaN x = true) (second : isNaN y = true) :
    x = y := by
  have packed : ∀ z : Float, isNaN z = true →
      z.toBits.toBitVec = packedNaN Format.binary64 := by
    intro z undefined
    have pattern := of_decide_eq_true
      ((isNaNBits_iff z.toBits.toBitVec).mpr (of_decide_eq_true undefined))
    exact z.toModel.valid.eq_packedNaN pattern.1 pattern.2
  apply Float.toBits_inj.mp
  apply UInt64.toBitVec_inj.mp
  rw [packed x first, packed y second]

def IsNegativeZero (x : Float) : Prop := isNegative x = true ∧ Binary64.index x = 0

theorem not_isNegativeZero_of_index {x : Float} (positive : Binary64.index x ≠ 0) :
    ¬ IsNegativeZero x := fun zero => positive zero.2

/-- Doubles of the same sign and index; a zero has to be told to have no sign. -/
theorem eq_of_equals {x y : Float} (first : ¬ IsNegativeZero x) (second : ¬ IsNegativeZero y)
    (same : equals x y = true) : x = y := by
  simp only [equals, Bool.and_eq_true, Bool.or_eq_true, beq_iff_eq] at same
  obtain ⟨⟨_, magnitude⟩, sameSign | zero⟩ := same
  · exact eq_of_index_eq sameSign magnitude
  · have positive : isNegative x = false :=
      Bool.eq_false_iff.mpr fun negative => first ⟨negative, zero⟩
    have positiveToo : isNegative y = false :=
      Bool.eq_false_iff.mpr fun negative => second ⟨negative, magnitude ▸ zero⟩
    exact eq_of_index_eq (positive.trans positiveToo.symm) magnitude

end SceneComponent.Binary64
