import SceneComponent.Defaults
import SceneComponent.Inventory.Basic

/-!
# Entries of single nodes

The transform, geometry and material of a mesh, and the entries of lights and
cameras.  Numbers are rounded; transforms and materials keep only what differs
from the defaults of the engine.
-/

set_option autoImplicit false

namespace SceneComponent

/-- A message about a conversion; the informative ones are for every reader. -/
structure Record where
  informative : Bool
  message : String
  deriving DecidableEq, Repr

def Record.detail (message : String) : Record := ⟨false, message⟩

def Record.notice (message : String) : Record := ⟨true, message⟩

/-! ## Transforms -/

namespace Transform

def part (given neutral : Value) (places : Value) : Except Failure (Option Value) := do
  let (x, y, z) ← given.roundComponents places
  let rounded := Value.triple x y z
  return if ← rounded.sameNumbers neutral then none else some rounded

def ofNode (node : Node) (places : Value := Value.usualPlaces) :
    Except Failure Transform := do
  let position ← part node.position (.triple 0.0 0.0 0.0) places
  let rotation ← part node.rotation (.triple 0.0 0.0 0.0) places
  let scale ← part node.scale (.triple 1.0 1.0 1.0) places
  return { position, rotation, scale }

end Transform

/-! ## Geometries -/

namespace GeometryKind

def argumentNames? : GeometryKind → Option (List String)
  | .box => some ["width", "height", "depth"]
  | .sphere => some ["radius", "widthSegments", "heightSegments"]
  | .plane => some ["width", "height"]
  | .cylinder => some ["radiusTop", "radiusBottom", "height"]
  | .other => none

end GeometryKind

namespace GeometryEntry

def tagOf (typeName : String) : String :=
  tagStem ++ Geometry.stemOf typeName ++ "Geometry"

/-- An argument for a kind: the rounded parameter, or the rounded default in place
of a missing one. -/
def argument (kind : GeometryKind) (geometry : Geometry) (places : Value)
    (name : String) : Except Failure Value := do
  let given ← geometry.parameter name
  let value ← if given.isNull then Default.getValue kind.entity name else .ok given
  return .float (← value.round places)

def bareRecord (typeName : String) : Record :=
  .detail ("No constructor args for " ++ typeName ++ ", emitting bare <" ++
    tagOf typeName ++ ">")

/-- The entry of a geometry; one that is not built from parameters has no
arguments, which is recorded. -/
def ofGeometry (geometry : Geometry) (places : Value := Value.usualPlaces) :
    Except Failure (GeometryEntry × List Record) := do
  let typeName ← geometry.typeName.toText
  let kind := GeometryKind.ofTypeName typeName
  match kind.argumentNames? with
  | some names =>
      let arguments ← names.mapM (argument kind geometry places)
      return (⟨tagOf typeName, arguments⟩, [])
  | none => return (⟨tagOf typeName, []⟩, [bareRecord typeName])

end GeometryEntry

/-! ## Materials -/

def colorProperty? (entity property : String) (color : Value) :
    Except Failure (Option Value) := do
  let digits ← Color.toHex color
  return if Default.isDefault entity property (.value (.text digits)) then none
    else some (.text ("#" ++ digits))

/-- A number property, unless its rounded value is the rounded default. -/
def numberProperty? (entity property : String) (number places : Value) :
    Except Failure (Option Value) := do
  let standard ← Default.getValue entity property
  return (← number.roundUnlessDefault standard places).map .float

inductive MaterialProperty where
  | roughness
  | metalness
  | clearcoat
  | emissive
  deriving DecidableEq, Repr

namespace MaterialProperty

def name : MaterialProperty → String
  | .roughness => "roughness"
  | .metalness => "metalness"
  | .clearcoat => "clearcoat"
  | .emissive => "emissive"

def value? (property : MaterialProperty) (entity : String) (material : Material)
    (places : Value) : Except Failure (Option Value) :=
  match property with
  | .roughness => numberProperty? entity property.name material.roughness places
  | .metalness => numberProperty? entity property.name material.metalness places
  | .clearcoat => numberProperty? entity property.name material.clearcoat places
  | .emissive => colorProperty? entity property.name material.emissive

end MaterialProperty

def MaterialKind.properties : MaterialKind → List MaterialProperty
  | .physical => [.roughness, .metalness, .clearcoat, .emissive]
  | .standard => [.roughness, .metalness, .emissive]
  | .lambert => [.emissive]
  | .basic => []

namespace MaterialEntry

def named (name : String) (value : Option Value) : Properties :=
  (value.map (name, ·)).toList

def kindProperties (entity : String) (material : Material) (places : Value) :
    List MaterialProperty → Except Failure Properties
  | [] => .ok []
  | property :: rest => do
      let value ← property.value? entity material places
      let others ← kindProperties entity material places rest
      return named property.name value ++ others

def sideProperty? : Side → Option Value
  | .front => none
  | side => some (.constant side.name)

def propertiesOf (kind : MaterialKind) (material : Material) (places : Value) :
    Except Failure Properties := do
  let color ← colorProperty? "material" "color" material.color
  let ofKind ← kindProperties kind.entity material places kind.properties
  let opacity ← numberProperty? "material" "opacity" material.opacity places
  return named "color" color ++ ofKind ++
    named "transparent" (if material.transparent.isTruthy then some (.bool true) else none) ++
    named "opacity" opacity ++ named "side" (sideProperty? material.side)

/-- The one material of a surface that counts: of several the first, and a plain
one where none is known. -/
def chosen : Surface → Material
  | .none => {}
  | .single material => material
  | .several materials => (materials.head?.bind id).getD {}

def severalRecords : Surface → List Record
  | .several materials =>
      if 1 < materials.length then
        [.detail ("Multi-material mesh: keeping the first of " ++
          toString materials.length ++ " materials")]
      else []
  | _ => []

def ofSurface (surface : Surface) (places : Value := Value.usualPlaces) :
    Except Failure (MaterialEntry × List Record) := do
  let material := chosen surface
  let kind ← material.kind
  let properties ← propertiesOf kind material places
  return ({
    kind := kind.entity
    tag := meshTag ++ kind.name ++ "Material"
    properties }, severalRecords surface)

end MaterialEntry

/-! ## Lights and cameras -/

inductive LightProperty where
  | intensity
  | distance
  | angle
  | penumbra
  deriving DecidableEq, Repr

namespace LightProperty

def name : LightProperty → String
  | .intensity => "intensity"
  | .distance => "distance"
  | .angle => "angle"
  | .penumbra => "penumbra"

def value (property : LightProperty) (light : Light) : Value :=
  match property with
  | .intensity => light.intensity
  | .distance => light.distance
  | .angle => light.angle
  | .penumbra => light.penumbra

end LightProperty

/-- The numbers of a kind of light; a light of another kind is not modelled. -/
def LightKind.properties? : LightKind → Option (List LightProperty)
  | .directional => some [.intensity]
  | .ambient => some [.intensity]
  | .point => some [.intensity, .distance]
  | .spot => some [.intensity, .distance, .angle, .penumbra]
  | .other => none

inductive CameraProperty where
  | fov
  | aspect
  | near
  | far
  | left
  | right
  | top
  | bottom
  deriving DecidableEq, Repr

namespace CameraProperty

def name : CameraProperty → String
  | .fov => "fov"
  | .aspect => "aspect"
  | .near => "near"
  | .far => "far"
  | .left => "left"
  | .right => "right"
  | .top => "top"
  | .bottom => "bottom"

def value (property : CameraProperty) (camera : Camera) : Value :=
  match property with
  | .fov => camera.fov
  | .aspect => camera.aspect
  | .near => camera.near
  | .far => camera.far
  | .left => camera.left
  | .right => camera.right
  | .top => camera.top
  | .bottom => camera.bottom

end CameraProperty

/-- The numbers of a kind of camera; a camera of another kind is not modelled. -/
def CameraKind.properties? : CameraKind → Option (List CameraProperty)
  | .perspective => some [.fov, .aspect, .near, .far]
  | .orthographic => some [.left, .right, .top, .bottom, .near, .far]
  | .other => none

namespace Entry

def roundedProperties (places : Value) : Properties → Except Failure Properties
  | [] => .ok []
  | (name, value) :: rest => do
      let number ← value.round places
      let others ← roundedProperties places rest
      return (name, .float number) :: others

/-- The light of a node; without a payload its type name tells the kind. -/
def lightOf (node : Node) : Light :=
  node.light.getD { typeName := node.typeName.givenOr (.text "Light") }

def ofLight? (node : Node) (places : Value := Value.usualPlaces) :
    Except Failure (Option Entry) := do
  let light := lightOf node
  let kind ← light.kind
  match kind.properties? with
  | some names =>
      let numbers ← roundedProperties places
        (names.map fun property => (property.name, property.value light))
      let color ← colorProperty? "light" "color" light.color
      let transform ← Transform.ofNode node places
      return some {
        tag := tagStem ++ kind.name ++ "Light"
        properties := numbers ++ MaterialEntry.named "color" color
        transform }
  | none => return none

/-- The camera of a node; without a payload its type name tells the kind. -/
def cameraOf (node : Node) : Camera :=
  node.camera.getD { typeName := node.typeName.givenOr (.text "Camera") }

def ofCamera? (node : Node) (places : Value := Value.usualPlaces) :
    Except Failure (Option Entry) := do
  let camera := cameraOf node
  let kind ← camera.kind
  match kind.properties? with
  | some names =>
      let properties ← roundedProperties places
        (names.map fun property => (property.name, property.value camera))
      let transform ← Transform.ofNode node places
      return some {
        tag := tagStem ++ kind.name ++ "Camera"
        properties
        transform }
  | none => return none

end Entry

/-! ## Meshes -/

namespace MeshEntry

/-- A shadow flag: the option for all meshes, or else the flag of the node. -/
def shadowFlag (shadows flag : Value) : Value := shadows.givenOr flag

/-- The entry of a mesh; its index among the meshes tells unnamed ones apart. -/
def ofNode (node : Node) (index : Nat) (places shadows : Value) :
    Except Failure (MeshEntry × List Record) := do
  let name ← node.name.toName
  let (geometry, geometryRecords) ← GeometryEntry.ofGeometry (node.geometry.getD {}) places
  let (material, materialRecords) ← MaterialEntry.ofSurface node.surface places
  let transform ← Transform.ofNode node places
  return ({
    name := Identifier.ofName name "Mesh" (some index)
    geometry, material, transform
    castShadow := shadowFlag shadows node.castShadow
    receiveShadow := shadowFlag shadows node.receiveShadow
  }, geometryRecords ++ materialRecords)

end MeshEntry

end SceneComponent
