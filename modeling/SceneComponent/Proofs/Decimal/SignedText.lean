import Mathlib
import SceneComponent.Proofs.Binary64.Signed
import SceneComponent.Proofs.Decimal.TextReading

/-!
# The exact number of a text

Before it is rounded to a double, a decimal text is a number of its own: a sign and a decimal.
The text of a double is a number that the double is nearest to, and its first digit stands
where that of the shortest decimal does.
-/

set_option autoImplicit false

namespace SceneComponent

open Binary64

/-- A decimal with its sign; zero may have one. -/
structure SignedDecimal where
  negative : Bool
  magnitude : Decimal
  deriving DecidableEq

namespace SignedDecimal

def value (number : SignedDecimal) : ℚ :=
  if number.negative then -number.magnitude.value else number.magnitude.value

theorem abs_value (number : SignedDecimal) : |number.value| = number.magnitude.value :=
  abs_signed number.magnitude.value_nonneg

/-- The number that a text is, if it is a decimal with or without a sign. -/
def ofText? (text : List Char) : Option SignedDecimal :=
  (Decimal.readMagnitude? (Decimal.splitSign text).2).map fun magnitude =>
    ⟨(Decimal.splitSign text).1, magnitude⟩

theorem ofText?_of_magnitude (negative : Bool) {chars : List Char} {decimal : Decimal}
    (read : Decimal.readMagnitude? chars = some decimal) :
    ofText? (if negative then '-' :: chars else chars) = some ⟨negative, decimal⟩ := by
  rw [ofText?, Decimal.splitSign_of_magnitude negative read, read]
  rfl

end SignedDecimal

namespace Decimal

/-- The first digit of a decimal other than zero stands where its value says. -/
theorem leadingExponent_congr {first second : Decimal} (nonzero : first.coefficient ≠ 0)
    (same : first.value = second.value) : first.leadingExponent = second.leadingExponent := by
  have ten : (1 : ℚ) < 10 := by norm_num
  have positive : 0 < first.value := mul_pos (Nat.cast_pos.mpr (Nat.pos_of_ne_zero nonzero))
    (by positivity)
  have otherNonzero : second.coefficient ≠ 0 := by
    intro zero
    rw [same, value, zero, Nat.cast_zero, zero_mul] at positive
    exact lt_irrefl _ positive
  have lower := (le_value_of_leadingExponent nonzero).trans_lt
    (same ▸ value_lt_of_leadingExponent second)
  have upper := (le_value_of_leadingExponent otherNonzero).trans_lt
    (same ▸ value_lt_of_leadingExponent first)
  rw [zpow_lt_zpow_iff_right₀ ten] at lower upper
  omega

theorem coefficient_shortest_ne_zero {index : Nat} (positive : index ≠ 0) :
    (shortest index).coefficient ≠ 0 := by
  intro zero
  have nothing : (shortest index).value = Binary64.value 0 := by
    rw [value, zero, Nat.cast_zero, zero_mul, value_zero]
  exact positive ((nothing ▸ roundsTo_shortest index).unique (.self 0))

end Decimal

theorem toList_doubleText {x : Float} (finite : isFinite x = true) :
    (doubleText x).toList =
      if isNegative x then '-' :: (Decimal.shortest (index x)).text
      else (Decimal.shortest (index x)).text := by
  have bounded : index x < infiniteIndex := of_decide_eq_true finite
  have defined : isNaN x ≠ true := fun unknown =>
    absurd (of_decide_eq_true unknown) (Nat.not_lt.mpr bounded.le)
  rw [doubleText, if_neg defined, if_pos finite, String.toList_ofList]

/-- Whether a number has the sign of a double, the value of its shortest decimal, and the first
digit where that decimal has it. -/
structure SignedDecimal.Writes (written : SignedDecimal) (x : Float) : Prop where
  sign : written.negative = isNegative x
  value : written.magnitude.value = (Decimal.shortest (index x)).value
  leading : written.magnitude.leadingExponent = Decimal.firstDigitExponent (index x)

/-- The text of a finite double is the number of its shortest decimal. -/
theorem ofText?_doubleText {x : Float} (finite : isFinite x = true) :
    ∃ written, SignedDecimal.ofText? (doubleText x).toList = some written ∧ written.Writes x := by
  rw [toList_doubleText finite]
  by_cases zero : index x = 0
  · have read : Decimal.readMagnitude? (Decimal.shortest 0).text = some ⟨0, -1⟩ := by decide
    have first : (Decimal.mk 0 (-1)).leadingExponent = Decimal.firstDigitExponent 0 := by
      decide
    refine ⟨⟨isNegative x, ⟨0, -1⟩⟩, ?_, rfl, ?_, ?_⟩
    · rw [zero]
      exact SignedDecimal.ofText?_of_magnitude _ read
    · rw [zero, Decimal.shortest, if_pos rfl, Decimal.value, Decimal.value, Nat.cast_zero,
        zero_mul, zero_mul]
    · rw [zero]
      exact first
  · obtain ⟨decimal, read, same⟩ := Decimal.readMagnitude?_text (Decimal.shortest (index x))
    have first : decimal.leadingExponent = Decimal.firstDigitExponent (index x) := by
      rw [Decimal.firstDigitExponent, if_neg zero]
      exact (Decimal.leadingExponent_congr (Decimal.coefficient_shortest_ne_zero zero)
        same.symm).symm
    exact ⟨⟨isNegative x, decimal⟩, SignedDecimal.ofText?_of_magnitude _ read, rfl, same, first⟩

end SceneComponent
