import SceneComponent.Binary64

/-!
# Loosely typed values

Scene documents, option payloads and property bags hold data whose kind is only
looked at when it is used.
-/

set_option autoImplicit false

namespace SceneComponent

/-- A datum.  A `constant` is the name of a script constant, which stands for
itself wherever it is written. -/
inductive Value where
  | null
  | bool (truth : Bool)
  | int (number : Int)
  | float (number : Float)
  | text (content : String)
  | list (items : List Value)
  | map (entries : List (String × Value))
  | constant (name : String)
  deriving Inhabited

namespace Value

def kindWord : Value → String
  | .null => "NoneType"
  | .bool _ => "bool"
  | .int _ => "int"
  | .float _ => "float"
  | .text _ => "str"
  | .list _ => "list"
  | .map _ => "dict"
  | .constant _ => "Expression"

/-- Whether a value counts as given: null, false, zero and everything empty do
not. -/
def isTruthy : Value → Bool
  | .null => false
  | .bool truth => truth
  | .int number => number != 0
  | .float number => Binary64.index number != 0
  | .text content => !content.isEmpty
  | .list items => !items.isEmpty
  | .map entries => !entries.isEmpty
  | .constant _ => true

/-- A value, or what stands in for one that does not count as given. -/
def givenOr (value standIn : Value) : Value := if value.isTruthy then value else standIn

/-- Whether a value can be a key or a member of a set: lists and maps cannot. -/
def isKey : Value → Bool
  | .list _ => false
  | .map _ => false
  | _ => true

def isNull : Value → Bool
  | .null => true
  | _ => false

def field? (key : String) (entries : List (String × Value)) : Option Value :=
  entries.lookup key

/-- The entry of a key, or a value that stands in for a missing one. -/
def fieldOr (key : String) (standIn : Value) (entries : List (String × Value)) : Value :=
  (field? key entries).getD standIn

/-- Equality of scalars: numbers are compared by value whatever their kind,
true being one and false zero.  Lists and maps equal no scalar. -/
def sameScalar : Value → Value → Bool
  | .null, .null => true
  | .text left, .text right => left == right
  | .constant left, .constant right => left == right
  | .bool left, .bool right => left == right
  | .bool left, .int right => (if left then 1 else 0) == right
  | .int left, .bool right => left == (if right then 1 else 0)
  | .int left, .int right => left == right
  | .float left, .float right => Binary64.equals left right
  | .float left, .int right => Binary64.equalsInt left right
  | .int left, .float right => Binary64.equalsInt right left
  | .float left, .bool right => Binary64.equalsInt left (if right then 1 else 0)
  | .bool left, .float right => Binary64.equalsInt right (if left then 1 else 0)
  | _, _ => false

/-- The items of a value that can be gone through one by one: those of a list,
the characters of a text, the keys of a map. -/
def elements? : Value → Option (List Value)
  | .list items => some items
  | .text content => some (content.toList.map fun c => .text (String.singleton c))
  | .map entries => some (entries.map fun entry => .text entry.1)
  | _ => none

def triple (x y z : Float) : Value := .list [.float x, .float y, .float z]

end Value

end SceneComponent
