import SceneComponent.Decimal.Numeral
import SceneComponent.Text.Escapes
import SceneComponent.Value.Basic

/-!
# Values in messages

How a value is shown in a message, and its plain text, which differs for texts
alone: they are shown between quotes and plain without.
-/

set_option autoImplicit false

namespace SceneComponent.Value

def intText (number : Int) : String :=
  if number < 0 then "-" ++ toString number.natAbs else toString number.natAbs

def truthText (truth : Bool) : String := if truth then "True" else "False"

def constantText (name : String) : String :=
  "Expression(source=" ++ Text.quoted name ++ ")"

mutual

def display : Value → String
  | .null => "None"
  | .bool truth => truthText truth
  | .int number => intText number
  | .float number => doubleText number
  | .text content => Text.quoted content
  | .list items => "[" ++ ", ".intercalate (displayItems items) ++ "]"
  | .map entries => "\x7b" ++ ", ".intercalate (displayEntries entries) ++ "\x7d"
  | .constant name => constantText name

def displayItems : List Value → List String
  | [] => []
  | item :: rest => display item :: displayItems rest

def displayEntries : List (String × Value) → List String
  | [] => []
  | (key, value) :: rest =>
      (Text.quoted key ++ ": " ++ display value) :: displayEntries rest

end

def plainText : Value → String
  | .text content => content
  | value => display value

/-- The plain text of a value that counts as given, and no text otherwise. -/
def givenText (value : Value) : String :=
  if value.isTruthy then value.plainText else ""

mutual

/-- The value with every constant opened into a map of its name. -/
def opened : Value → Value
  | .list items => .list (openedItems items)
  | .map entries => .map (openedEntries entries)
  | .constant name => .map [("source", .text name)]
  | value => value

def openedItems : List Value → List Value
  | [] => []
  | item :: rest => opened item :: openedItems rest

def openedEntries : List (String × Value) → List (String × Value)
  | [] => []
  | (key, value) :: rest => (key, opened value) :: openedEntries rest

end

end SceneComponent.Value
