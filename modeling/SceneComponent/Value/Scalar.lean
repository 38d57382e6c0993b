import SceneComponent.Decimal.Reading
import SceneComponent.Decimal.Rounding
import SceneComponent.Failure

/-!
# Texts and numbers among values

The text of a value that has to be one, the double of a value that is a number, and rounding
to a number of decimal places that is itself a value.
-/

set_option autoImplicit false

namespace SceneComponent.Value

/-! ## Texts

A text may also be left open: a value that does not count as given stands for
the empty text. -/

def toText : Value → Except Failure String
  | .text content => .ok content
  | _ => .error .lacksOperation

theorem toText_eq_ok {value : Value} {content : String} :
    value.toText = .ok content ↔ value = .text content := by
  cases value <;> simp [toText]

/-- The text of a value that may be left open. -/
def toOpenText (value : Value) : Except Failure String :=
  if value.isTruthy then value.toText else .ok ""

/-- The name that a value gives; a name may be left open. -/
def toName (value : Value) : Except Failure String :=
  match value.givenOr (.text "") with
  | .text name => .ok name
  | _ => .error .unsuitableKind

/-! ## Numbers -/

def intDouble (number : Int) : Except Failure Float :=
  (Binary64.ofInt? number).elim (.error .beyondRange) .ok

def truthDouble (truth : Bool) : Float := if truth then 1.0 else 0.0

def numberDouble : Value → Except Failure Float
  | .bool truth => .ok (truthDouble truth)
  | .int number => intDouble number
  | .float number => .ok number
  | _ => .error .unsuitableKind

/-- The double of a value that is a number or the text of one. -/
def toDouble : Value → Except Failure Float
  | .text content =>
      match Decimal.readDouble? content with
      | some double => .ok double
      | none => .error .meaningless
  | value => numberDouble value

def toInteger : Value → Except Failure Int
  | .bool truth => .ok (if truth then 1 else 0)
  | .int number => .ok number
  | _ => .error .unsuitableKind

def placesFailure : Decimal.PlacesFault → Failure
  | .beyondDigits => .meaningless
  | .beyondMachine => .beyondRange
  | .beyondExponent => .exponentTooHigh
  | .invalidExponent => .exponentInvalid

/-- Three decimal places, where nothing else is asked for. -/
def usualPlaces : Value := .int 3

/-- A double rounded to decimal places.  One that is not finite stays as it is,
and the places are not looked at. -/
def roundDouble (number : Float) (places : Value) : Except Failure Float :=
  if Binary64.isFinite number then do
    let places ← places.toInteger
    match Decimal.placesFault? (Binary64.index number) places with
    | some fault => .error (placesFailure fault)
    | none => .ok (Decimal.roundFinite number places)
  else .ok number

def round (value : Value) (places : Value := usualPlaces) : Except Failure Float := do
  roundDouble (← value.numberDouble) places

/-- The rounded value, unless it equals the rounded default. -/
def roundUnlessDefault (value standard : Value) (places : Value := usualPlaces) :
    Except Failure (Option Float) := do
  let rounded ← value.round places
  let roundedStandard ← standard.round places
  return if Binary64.equals rounded roundedStandard then none else some rounded

end SceneComponent.Value
