import SceneComponent.Text.Pattern
import SceneComponent.Value.Scalar

/-!
# Paths of model files

The absolute path that a component loads its model from: a prefix and a file
name, joined by single slashes.
-/

set_option autoImplicit false

namespace SceneComponent.ModelPath

def isSlash (c : Char) : Bool := c == '/'

def collapse : List Char → List Char
  | '/' :: '/' :: rest => collapse ('/' :: rest)
  | c :: rest => c :: collapse rest
  | [] => []

/-- The parts that hold more than slashes, without the slashes around them. -/
def trimmedParts (parts : List (List Char)) : List (List Char) :=
  (parts.map (Text.trim isSlash)).filter fun part => !part.isEmpty

def join (parts : List (List Char)) : List Char :=
  collapse ('/' :: ['/'].intercalate (trimmedParts parts))

def ofTexts (fileName pathPrefix : String) : String :=
  String.ofList (join [pathPrefix.toList, fileName.toList])

/-- The path of a file below a prefix; either may be left open, and the prefix is
looked at first. -/
def ofValues (fileName pathPrefix : Value) : Except Failure String := do
  let first ← pathPrefix.toOpenText
  let second ← fileName.toOpenText
  return ofTexts second first

end SceneComponent.ModelPath
