import SceneComponent.Failure
import SceneComponent.Scene.Kind

/-!
# Engine defaults

What the engine assumes where a property is absent, by the name of an entity and
the name of the property.  A value equal to its default need not be written.
-/

set_option autoImplicit false

namespace SceneComponent

/-- A default: three fixed numbers, a single value or a side. -/
inductive Default where
  | triple (x y z : Float)
  | value (content : Value)
  | side (side : Side)

namespace Default

def origin : Default := .triple 0.0 0.0 0.0

def unitScale : Default := .triple 1.0 1.0 1.0

def whiteHex : Default := .value (.text "ffffff")

def blackHex : Default := .value (.text "000000")

def table : List ((String × String) × Default) := [
  (("transform", "position"), origin),
  (("transform", "rotation"), origin),
  (("transform", "scale"), unitScale),
  (("box", "width"), .value (.int 1)),
  (("box", "height"), .value (.int 1)),
  (("box", "depth"), .value (.int 1)),
  (("sphere", "radius"), .value (.int 1)),
  (("sphere", "widthSegments"), .value (.int 32)),
  (("sphere", "heightSegments"), .value (.int 16)),
  (("plane", "width"), .value (.int 1)),
  (("plane", "height"), .value (.int 1)),
  (("cylinder", "radiusTop"), .value (.int 1)),
  (("cylinder", "radiusBottom"), .value (.int 1)),
  (("cylinder", "height"), .value (.int 1)),
  (("material", "color"), whiteHex),
  (("material", "transparent"), .value (.bool false)),
  (("material", "opacity"), .value (.float 1.0)),
  (("material", "side"), .side .front),
  (("standard", "roughness"), .value (.float 1.0)),
  (("standard", "metalness"), .value (.float 0.0)),
  (("standard", "emissive"), blackHex),
  (("physical", "roughness"), .value (.float 1.0)),
  (("physical", "metalness"), .value (.float 0.0)),
  (("physical", "emissive"), blackHex),
  (("physical", "clearcoat"), .value (.float 0.0)),
  (("lambert", "emissive"), blackHex),
  (("light", "color"), whiteHex),
  (("light", "intensity"), .value (.float 1.0)),
  (("light", "distance"), .value (.float 0.0)),
  (("spot", "angle"), .value (.float 1.0471975511965976)),
  (("spot", "penumbra"), .value (.float 0.0))]

def find? (entity property : String) : Option Default := table.lookup (entity, property)

def get (entity property : String) : Except Failure Default :=
  match find? entity property with
  | some standard => .ok standard
  | none => .error (.noDefault entity property)

def same : Default → Default → Bool
  | .triple x y z, .triple x' y' z' =>
      Binary64.equals x x' && Binary64.equals y y' && Binary64.equals z z'
  | .value left, .value right => left.sameScalar right
  | .side left, .side right => left == right
  | _, _ => false

/-- Whether something is the default of a property; where none is registered,
nothing is. -/
def isDefault (entity property : String) (candidate : Default) : Bool :=
  match find? entity property with
  | some standard => standard.same candidate
  | none => false

/-- The default of a property under names of any kind that can be keys; none is
registered under what is no text. -/
def ofKeys? (entity property : Value) : Except Failure (Option Default) :=
  match entity, property with
  | .text entity, .text property => .ok (find? entity property)
  | _, _ =>
      if entity.isKey && property.isKey then .ok none else .error .unsuitableKind

def ofKeys (entity property : Value) : Except Failure Default := do
  match ← ofKeys? entity property with
  | some standard => return standard
  | none => .error (.noDefault entity.plainText property.plainText)

def isDefaultOfKeys (entity property : Value) (candidate : Default) :
    Except Failure Bool := do
  return ((← ofKeys? entity property).map (·.same candidate)).getD false

def getValue (entity property : String) : Except Failure Value := do
  match ← get entity property with
  | .value content => return content
  | .triple x y z => return .triple x y z
  | .side face => return .constant face.name

end Default

end SceneComponent
