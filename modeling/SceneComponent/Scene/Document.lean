import SceneComponent.Rotation
import SceneComponent.Scene.Node

/-!
# Reading scenes

A scene document is a value in which maps stand for nodes, payloads and clips.
Reading goes through the fields in a fixed order, and the first fault ends it;
the faults of a node name the place of the node in the tree.
-/

set_option autoImplicit false

namespace SceneComponent

abbrev Entries := List (String × Value)

def Value.toEntries (value : Value) (place : String) : Except Failure Entries :=
  match value with
  | .map entries => .ok entries
  | _ => .error (.malformedScene (.notAnObject place value))

namespace Entries

def textOr (entries : Entries) (key : String) (standIn : Value) : String :=
  (Value.fieldOr key standIn entries).plainText

def doubleOr (entries : Entries) (key : String) (standIn : Value) :
    Except Failure Value := do
  return .float (← (Value.fieldOr key standIn entries).toDouble)

def truthOf (entries : Entries) (key : String) : Value :=
  .bool (Value.fieldOr key (.bool false) entries).isTruthy

end Entries

/-! ## Payloads -/

/-- The side of a value: a number, or the name of a script constant. -/
def Side.ofValue (value : Value) : Except Failure Side :=
  let invalid := Failure.malformedScene (.invalidSide value)
  match value with
  | .int number => .ok (ofNumber number)
  | .bool truth => .ok (ofNumber (if truth then 1 else 0))
  | .text name => (ofName? name).elim (.error invalid) .ok
  | _ => .error invalid

def Material.ofValue (value : Value) : Except Failure Material := do
  let entries ← value.toEntries "material"
  let side ← Side.ofValue (Value.fieldOr "side" (.text Side.front.name) entries)
  let standard : Material := {}
  let color ← Color.ofValue (Value.fieldOr "color" .null entries)
  let emissive ← Color.ofValue (Value.fieldOr "emissive" .null entries) Color.black
  let roughness ← Entries.doubleOr entries "roughness" standard.roughness
  let metalness ← Entries.doubleOr entries "metalness" standard.metalness
  let clearcoat ← Entries.doubleOr entries "clearcoat" standard.clearcoat
  let opacity ← Entries.doubleOr entries "opacity" standard.opacity
  return {
    typeName := .text (Entries.textOr entries "type" standard.typeName)
    color, emissive, roughness, metalness, clearcoat, opacity, side
    transparent := Entries.truthOf entries "transparent" }

namespace Geometry

/-- The geometry of a node; one that does not count as given is empty. -/
def ofValue (value : Value) (node : String) : Except Failure Geometry := do
  let entries ←
    match value with
    | .map entries => .ok entries
    | _ =>
        if value.isTruthy then .error (.malformedScene (.geometryNotAnObject node))
        else .ok []
  let parameters ← Table.ofValue (Value.fieldOr "parameters" .null entries)
  let standard : Geometry := {}
  return {
    typeName := .text (Entries.textOr entries "type" standard.typeName)
    parameters := some parameters }

end Geometry

def Surface.ofValue (value : Value) : Except Failure Surface :=
  match value with
  | .null => .ok .none
  | .list items => do return .several ((← items.mapM Material.ofValue).map some)
  | _ => do return .single (← Material.ofValue value)

def Light.ofEntries (typeName : String) (entries : Entries) : Except Failure Light := do
  let standard : Light := {}
  let color ← Color.ofValue (Value.fieldOr "color" .null entries)
  let intensity ← entries.doubleOr "intensity" standard.intensity
  let distance ← entries.doubleOr "distance" standard.distance
  let angle ← entries.doubleOr "angle" standard.angle
  let penumbra ← entries.doubleOr "penumbra" standard.penumbra
  return { typeName := .text typeName, color, intensity, distance, angle, penumbra }

def Camera.ofEntries (typeName : String) (entries : Entries) : Except Failure Camera := do
  let standard : Camera := {}
  let fov ← entries.doubleOr "fov" standard.fov
  let aspect ← entries.doubleOr "aspect" standard.aspect
  let near ← entries.doubleOr "near" standard.near
  let far ← entries.doubleOr "far" standard.far
  let left ← entries.doubleOr "left" standard.left
  let right ← entries.doubleOr "right" standard.right
  let top ← entries.doubleOr "top" standard.top
  let bottom ← entries.doubleOr "bottom" standard.bottom
  return {
    typeName := .text typeName, fov, aspect, near, far, left, right, top, bottom }

/-! ## Nodes -/

namespace Node

/-- The kind of a node: the one it names, or the one of its type. -/
def kindOf (typeName : String) (entries : Entries) : NodeKind :=
  match Value.field? "kind" entries with
  | some (.text name) => (NodeKind.ofName? name).getD .other
  | some _ => .other
  | none => .ofTypeName typeName

/-- The rotation of a node; a quaternion goes before angles. -/
def rotationOf (place : String) (entries : Entries) : Except Failure Value :=
  match Value.field? "quaternion" entries with
  | some given => do
      match ← NumberArray.ofValue given with
      | ⟨[_], [x, y, z, w]⟩ =>
          let (first, second, third) := (Quaternion.mk x y z w).angles
          return .triple first second third
      | _ => .error (.malformedScene (.notFourNumbers place))
  | none =>
      (Value.fieldOr "rotation" (.triple 0.0 0.0 0.0) entries).threeNumbers
        (place ++ ".rotation")

/-- The payload that belongs to the kind of a node, by its type name. -/
def withPayload (place typeName : String) (entries : Entries) (node : Node) :
    Except Failure Node :=
  match node.kind with
  | .mesh => do
      let geometry ← Geometry.ofValue (Value.fieldOr "geometry" .null entries) place
      let surface ← Surface.ofValue (Value.fieldOr "material" .null entries)
      return { node with geometry := some geometry, surface }
  | .light => do
      return { node with light := some (← Light.ofEntries typeName entries) }
  | .camera => do
      return { node with camera := some (← Camera.ofEntries typeName entries) }
  | .group => .ok node
  | .other => .ok node

def alone (place : String) (entries : Entries) : Except Failure Node := do
  let typeName := entries.textOr "type" (.text "Object3D")
  let kind := kindOf typeName entries
  let rotation ← rotationOf place entries
  let node ← withPayload place typeName entries
    { kind, typeName := .text typeName, rotation }
  let position ←
    (Value.fieldOr "position" (.triple 0.0 0.0 0.0) entries).threeNumbers
      (place ++ ".position")
  let scale ←
    (Value.fieldOr "scale" (.triple 1.0 1.0 1.0) entries).threeNumbers (place ++ ".scale")
  return { node with
    name := .text (Value.fieldOr "name" .null entries).givenText
    position, scale
    castShadow := entries.truthOf "castShadow"
    receiveShadow := entries.truthOf "receiveShadow" }

def childrenKey : String := "children"

def childPlace (place : String) (index : Nat) : String :=
  place ++ ".children[" ++ toString index ++ "]"

/-- Children that are given otherwise than as a list: none where nothing counts
as given, and no nodes in any other case. -/
def unlistedChildren (place : String) (given : Value) : Except Failure (List Node) :=
  if given.isTruthy then
    match given.elements? with
    | some (first :: _) =>
        .error (.malformedScene (.notAnObject (childPlace place 0) first))
    | some [] => .ok []
    | none => .error .unsuitableKind
  else .ok []

mutual

def read (place : String) : Value → Except Failure Node
  | .map entries => do
      let node ← alone place entries
      let children ← childrenOf place entries
      return { node with children }
  | value => .error (.malformedScene (.notAnObject place value))

/-- Reads the children among the entries of a node; the first entry of their key
counts. -/
def childrenOf (place : String) : List (String × Value) → Except Failure (List Node)
  | [] => .ok []
  | (key, .list items) :: rest =>
      if key = childrenKey then readChildren place 0 items else childrenOf place rest
  | (key, given) :: rest =>
      if key = childrenKey then unlistedChildren place given else childrenOf place rest

def readChildren (place : String) (index : Nat) : List Value → Except Failure (List Node)
  | [] => .ok []
  | item :: rest => do
      let node ← read (childPlace place index) item
      let others ← readChildren place (index + 1) rest
      return node :: others

end

def ofValue (value : Value) : Except Failure Node := read "scene" value

end Node

/-! ## Models -/

/-- A named animation.  Two clips are the same exactly when their identities
are, whatever their names. -/
structure Clip where
  identity : Nat
  name : Value := .text ""
  duration : Float := -1.0

structure Model where
  scene : Node
  clips : List Clip := []

namespace Model

def clipOf (identity : Nat) (value : Value) : Except Failure Clip :=
  match value with
  | .map entries => do
      let duration ← (Value.fieldOr "duration" (.float (-1.0)) entries).toDouble
      return ⟨identity, .text (Value.fieldOr "name" .null entries).givenText, duration⟩
  | _ => .error .lacksOperation

def clipsFrom (identity : Nat) : List Value → Except Failure (List Clip)
  | [] => .ok []
  | value :: rest => do
      let clip ← clipOf identity value
      let others ← clipsFrom (identity + 1) rest
      return clip :: others

def clipsOf (value : Value) : Except Failure (List Clip) :=
  if value.isTruthy then
    match value.elements? with
    | some elements => clipsFrom 0 elements
    | none => .error .unsuitableKind
  else .ok []

/-- Reads a model, the scene before the clips. -/
def ofValue (value : Value) : Except Failure Model :=
  match value with
  | .map entries =>
      match Value.field? "scene" entries with
      | some scene => do
          let scene ← Node.ofValue scene
          let clips ← clipsOf (Value.fieldOr "animations" .null entries)
          return ⟨scene, clips⟩
      | none => .error (.malformedScene .modelWithoutScene)
  | _ => .error (.malformedScene .modelWithoutScene)

end Model

end SceneComponent
