import SceneComponent.Text.Pattern

/-!
# Kinds of nodes and payloads

A scene names the kinds of its nodes, geometries, materials, lights and cameras
by type names.  Each kind that is modelled has a name of its own; every other
type name is of the kind `other`, and every other material is basic.
-/

set_option autoImplicit false

namespace SceneComponent

/-- What a node of a scene represents; a group only holds other nodes. -/
inductive NodeKind where
  | mesh
  | light
  | camera
  | group
  | other
  deriving DecidableEq, Repr

namespace NodeKind

def all : List NodeKind := [.mesh, .light, .camera, .group, .other]

def name : NodeKind → String
  | .mesh => "mesh"
  | .light => "light"
  | .camera => "camera"
  | .group => "group"
  | .other => "other"

def ofName? (name : String) : Option NodeKind := all.find? fun kind => kind.name == name

def meshTypes : List String := ["Mesh", "SkinnedMesh", "InstancedMesh"]

def groupTypes : List String := ["Group", "Scene", "Object3D"]

def ofTypeName (typeName : String) : NodeKind :=
  if meshTypes.contains typeName then .mesh
  else if Text.hasSuffix "Light" typeName then .light
  else if Text.hasSuffix "Camera" typeName then .camera
  else if groupTypes.contains typeName then .group
  else .other

end NodeKind

inductive GeometryKind where
  | box
  | sphere
  | plane
  | cylinder
  | other
  deriving DecidableEq, Repr

namespace GeometryKind

def all : List GeometryKind := [.box, .sphere, .plane, .cylinder, .other]

def name : GeometryKind → String
  | .box => "Box"
  | .sphere => "Sphere"
  | .plane => "Plane"
  | .cylinder => "Cylinder"
  | .other => "Other"

/-- The name of the kind in the table of defaults. -/
def entity : GeometryKind → String
  | .box => "box"
  | .sphere => "sphere"
  | .plane => "plane"
  | .cylinder => "cylinder"
  | .other => "other"

/-- The kind whose name is left when the suffix is taken off a type name. -/
def ofTypeName (typeName : String) : GeometryKind :=
  let stem := Text.withoutSuffix "Geometry" typeName
  (all.find? fun kind => kind.name == stem).getD .other

end GeometryKind

/-- The materials, the first of several that a type name mentions counting. -/
inductive MaterialKind where
  | physical
  | standard
  | lambert
  | basic
  deriving DecidableEq, Repr

namespace MaterialKind

def all : List MaterialKind := [.physical, .standard, .lambert, .basic]

def name : MaterialKind → String
  | .physical => "Physical"
  | .standard => "Standard"
  | .lambert => "Lambert"
  | .basic => "Basic"

/-- The name of the kind in the table of defaults. -/
def entity : MaterialKind → String
  | .physical => "physical"
  | .standard => "standard"
  | .lambert => "lambert"
  | .basic => "basic"

def ofTypeName (typeName : String) : MaterialKind :=
  (all.find? fun kind => Text.contains kind.name typeName).getD .basic

end MaterialKind

inductive LightKind where
  | directional
  | ambient
  | point
  | spot
  | other
  deriving DecidableEq, Repr

namespace LightKind

def all : List LightKind := [.directional, .ambient, .point, .spot, .other]

def name : LightKind → String
  | .directional => "Directional"
  | .ambient => "Ambient"
  | .point => "Point"
  | .spot => "Spot"
  | .other => "Other"

/-- The kind whose name is left when the suffix is taken off a type name. -/
def ofTypeName (typeName : String) : LightKind :=
  let stem := Text.withoutSuffix "Light" typeName
  (all.find? fun kind => kind.name == stem).getD .other

end LightKind

inductive CameraKind where
  | perspective
  | orthographic
  | other
  deriving DecidableEq, Repr

namespace CameraKind

def all : List CameraKind := [.perspective, .orthographic, .other]

def name : CameraKind → String
  | .perspective => "Perspective"
  | .orthographic => "Orthographic"
  | .other => "Other"

/-- The kind whose name is left when the suffix is taken off a type name. -/
def ofTypeName (typeName : String) : CameraKind :=
  let stem := Text.withoutSuffix "Camera" typeName
  (all.find? fun kind => kind.name == stem).getD .other

end CameraKind

inductive Side where
  | front
  | back
  | double
  deriving DecidableEq, Repr

namespace Side

def all : List Side := [.front, .back, .double]

def name : Side → String
  | .front => "FrontSide"
  | .back => "BackSide"
  | .double => "DoubleSide"

def ofName? (name : String) : Option Side := all.find? fun side => side.name == name

/-- The side of a number; numbers without a side of their own mean the front. -/
def ofNumber (number : Int) : Side :=
  if number = 1 then .back else if number = 2 then .double else .front

end Side

end SceneComponent
