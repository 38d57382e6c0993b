import SceneComponent.Value.Display

/-!
# Literals of generated code

A value as a literal of the script: whole numbers below `10 ^ 16` without a
point, lists without spaces, and the script's words for truth values and for the
numbers that are not finite.
-/

set_option autoImplicit false

namespace SceneComponent.Value

/-- The whole numbers that are written without a point. -/
def wholeLimit : Nat := Decimal.tenTo 16

def doubleLiteral (number : Float) : String :=
  let index := Binary64.index number
  let sign := if Binary64.isNegative number then "-" else ""
  if Binary64.isNaN number then "NaN"
  else if index = Binary64.infiniteIndex then sign ++ "Infinity"
  else if index = 0 then "0"
  else if Binary64.isWhole index && Binary64.wholePart index < wholeLimit then
    sign ++ toString (Binary64.wholePart index)
  else doubleText number

mutual

def literal : Value → String
  | .bool truth => if truth then "true" else "false"
  | .list items => "[" ++ ",".intercalate (literals items) ++ "]"
  | .int number => intText number
  | .float number => doubleLiteral number
  | .text content => content
  | value => display value

def literals : List Value → List String
  | [] => []
  | item :: rest => literal item :: literals rest

end

end SceneComponent.Value
