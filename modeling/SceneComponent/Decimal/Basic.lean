import SceneComponent.Binary64

/-!
# Decimal magnitudes

A decimal is a coefficient and a power of ten.  Here are its digits, its
rounding to a given power of ten with halves going up, and the double nearest
to it.
-/

set_option autoImplicit false

namespace SceneComponent

/-- The nonnegative number `coefficient * 10 ^ exponent`. -/
structure Decimal where
  coefficient : Nat
  exponent : Int
  deriving DecidableEq, Repr

namespace Decimal

def tenTo (exponent : Nat) : Nat := Nat.pow 10 exponent

/-- The decimal digits of a number, most significant first. -/
def digits (n : Nat) : List Char := Nat.toDigits 10 n

/-- The number of decimal digits of a number; zero has one. -/
def digitCount (n : Nat) : Nat := (digits n).length

def leadingExponent (decimal : Decimal) : Int :=
  digitCount decimal.coefficient + decimal.exponent - 1

/-- The nearest multiple of `10 ^ places`, a half going up.  A decimal whose
last digit stands at that power or higher is left as it is, and one whose first
digit stands below the next lower power is less than a half. -/
def roundHalfUp (decimal : Decimal) (places : Int) : Decimal :=
  if places ≤ decimal.exponent then decimal
  else if decimal.leadingExponent + 1 < places then ⟨0, places⟩
  else
    let step := tenTo (places - decimal.exponent).toNat
    ⟨(2 * decimal.coefficient + step) / (2 * step), places⟩

/-- The index of the double nearest to a decimal.  Powers of ten far beyond the
finite doubles, or far below the least one, are settled by the position of the
first digit. -/
def nearestIndex (decimal : Decimal) : Nat :=
  if decimal.coefficient = 0 then 0
  else if 400 < decimal.leadingExponent then Binary64.infiniteIndex
  else if decimal.leadingExponent < -400 then 0
  else if 0 ≤ decimal.exponent then
    Binary64.nearest (decimal.coefficient * tenTo decimal.exponent.toNat) 1
  else Binary64.nearest decimal.coefficient (tenTo (-decimal.exponent).toNat)

end Decimal

end SceneComponent
