import SceneComponent.Decimal.Shortest

/-!
# Rounding doubles to decimal places

A double is rounded through its shortest decimal: to the nearest multiple of a
power of ten, a half going away from zero, and then to the double nearest to
that decimal.  A result of zero has no sign.
-/

set_option autoImplicit false

namespace SceneComponent.Decimal

def roundIndex (index : Nat) (places : Int) : Nat :=
  ((shortest index).roundHalfUp (-places)).nearestIndex

/-- A finite double rounded to a number of decimal places; with a negative
number, to tens, hundreds and so on. -/
def roundFinite (x : Float) (places : Int) : Float :=
  let rounded := roundIndex (Binary64.index x) places
  Binary64.ofIndex (Binary64.isNegative x && rounded != 0) rounded

/-- The ways in which a number of places is too large or too small to round to. -/
inductive PlacesFault where
  | beyondDigits
  | beyondMachine
  | beyondExponent
  | invalidExponent
  deriving DecidableEq, Repr

/-- The power of ten of the first digit, taken as `-1` for zero. -/
def firstDigitExponent (index : Nat) : Int :=
  if index = 0 then -1 else (shortest index).leadingExponent

/-- Rounding keeps as many digits as the integer part and the places need, which
has a limit; and the power of ten that is rounded to has limits of its own. -/
def placesFault? (index : Nat) (places : Int) : Option PlacesFault :=
  let kept := firstDigitExponent index + places + 2
  if 9223372036854775807 < kept then some .beyondMachine
  else if 999999999999999999 < kept then some .beyondDigits
  else if 2000054 < -places then some .invalidExponent
  else if 999999 < -places then some .beyondExponent
  else none

end SceneComponent.Decimal
