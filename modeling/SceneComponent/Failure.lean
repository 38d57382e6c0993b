import SceneComponent.Value.Display

/-!
# Failures

What can go wrong in reading a scene, building options or converting, as causes.
The wording of those that have one is `Failure.message?`.
-/

set_option autoImplicit false

namespace SceneComponent

inductive SceneFault where
  | modelWithoutScene
  | notAnObject (place : String) (given : Value)
  | geometryNotAnObject (node : String)
  | notThreeNumbers (place : String) (given : Value)
  | notFourNumbers (node : String)
  | invalidColor (given : Value)
  | invalidSide (given : Value)

inductive Failure where
  | malformedScene (fault : SceneFault)
  | unknownDialect (given : Value)
  | negativePrecision (given : Value)
  | wrongShape (shape : List Nat)
  | noSceneGraph
  | noDefault (entity property : String)
  /-- A value is of a kind that an operation cannot take. -/
  | unsuitableKind
  /-- A value is of the right kind and has no meaning there. -/
  | meaningless
  /-- A value does not have the operation asked of it: a text operation asked of
  what is no text, a look-up asked of what holds nothing by name. -/
  | lacksOperation
  /-- An integer is beyond the finite doubles, or a count beyond the machine. -/
  | beyondRange
  | beyondMemory
  | missingElement
  /-- A power of ten to round to is too high. -/
  | exponentTooHigh
  /-- A power of ten to round to is out of every range. -/
  | exponentInvalid

namespace SceneFault

def message : SceneFault → String
  | .modelWithoutScene => "model document needs a 'scene' entry"
  | .notAnObject place given =>
      place ++ ": expected an object, got " ++ given.kindWord
  | .geometryNotAnObject node => node ++ ".geometry: expected an object"
  | .notThreeNumbers place given =>
      place ++ ": expected 3 numbers, got " ++ given.display
  | .notFourNumbers node => node ++ ".quaternion: expected 4 numbers"
  | .invalidColor given => "invalid colour " ++ given.display
  | .invalidSide given => "invalid material side " ++ given.display

end SceneFault

namespace Failure

/-- The lengths of an array along its axes; a single one is followed by a
comma. -/
def shapeText : List Nat → String
  | [length] => "(" ++ toString length ++ ",)"
  | shape => "(" ++ ", ".intercalate (shape.map toString) ++ ")"

def message? : Failure → Option String
  | .malformedScene fault => some fault.message
  | .unknownDialect given =>
      some ("Unknown target dialect " ++ given.display ++
        " (expected one of standalone, server-rendered)")
  | .negativePrecision given =>
      some ("decimal_precision must be >= 0, got " ++ given.plainText)
  | .wrongShape shape => some ("Expected 3 components, got shape " ++ shapeText shape)
  | .noSceneGraph => some "No scene graph to convert (model failed to load?)"
  | .noDefault entity property =>
      some ("No default registered for " ++ entity ++ "." ++ property)
  | _ => none

end Failure

end SceneComponent
