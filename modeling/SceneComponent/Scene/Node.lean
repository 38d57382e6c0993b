import SceneComponent.Color
import SceneComponent.Scene.Kind
import SceneComponent.Value.Scalar
import SceneComponent.Value.Table

/-!
# Scenes

A scene is a tree of nodes with payloads.  The names, numbers, vectors and
colours of a node are kept as they were handed over and are looked at when they
are used.

`Node.visited` lists a tree with a stack of the subtrees still to be seen, while
`Node.preorder` is recursive; `visitStack_eq` relates the two for any stack.
-/

set_option autoImplicit false

namespace SceneComponent

/-! ## Kinds by type names -/

def NodeKind.ofValue (typeName : Value) : Except Failure NodeKind :=
  if typeName.isKey then do return NodeKind.ofTypeName (← typeName.toText)
  else .error .unsuitableKind

/-- The kind of a material of a type name: a text, or something whose elements
are the names of kinds. -/
def MaterialKind.ofValue : Value → Except Failure MaterialKind
  | .text typeName => .ok (MaterialKind.ofTypeName typeName)
  | typeName =>
      match typeName.elements? with
      | some elements =>
          .ok ((MaterialKind.all.find? fun kind =>
            elements.any (·.sameScalar (.text kind.name))).getD .basic)
      | none => .error .unsuitableKind

/-! ## Payloads -/

/-- A geometry by its type name, with its parameters; it may hold something that
has no parameters by name. -/
structure Geometry where
  typeName : Value := .text "BufferGeometry"
  parameters : Option Table := some []

namespace Geometry

def kind (geometry : Geometry) : Except Failure GeometryKind := do
  return GeometryKind.ofTypeName (← geometry.typeName.toText)

def stemOf (typeName : String) : String :=
  let rest := Text.withoutPattern "Geometry" typeName
  if rest.isEmpty then "Buffer" else rest

def stem (geometry : Geometry) : Except Failure String := do
  return stemOf (← geometry.typeName.toText)

/-- The parameter of a name; a missing one is null. -/
def parameter (geometry : Geometry) (name : String) : Except Failure Value :=
  match geometry.parameters with
  | some table => .ok ((table.get? (.text name)).getD .null)
  | none => .error .lacksOperation

end Geometry

structure Material where
  typeName : Value := .text "MeshBasicMaterial"
  color : Value := Color.white
  emissive : Value := Color.black
  roughness : Value := .float 1.0
  metalness : Value := .float 0.0
  clearcoat : Value := .float 0.0
  transparent : Value := .bool false
  opacity : Value := .float 1.0
  side : Side := .front

def Material.kind (material : Material) : Except Failure MaterialKind :=
  MaterialKind.ofValue material.typeName

/-- What covers a mesh: nothing that is known, one material, or several. -/
inductive Surface where
  | none
  | single (material : Material)
  | several (materials : List (Option Material))

structure Light where
  typeName : Value := .text "AmbientLight"
  color : Value := Color.white
  intensity : Value := .float 1.0
  distance : Value := .float 0.0
  angle : Value := .float 1.0471975511965976
  penumbra : Value := .float 0.0

def Light.kind (light : Light) : Except Failure LightKind := do
  return LightKind.ofTypeName (← light.typeName.toText)

structure Camera where
  typeName : Value := .text "PerspectiveCamera"
  fov : Value := .float 50.0
  aspect : Value := .float 1.0
  near : Value := .float 0.1
  far : Value := .float 2000.0
  left : Value := .float (-1.0)
  right : Value := .float 1.0
  top : Value := .float 1.0
  bottom : Value := .float (-1.0)

def Camera.kind (camera : Camera) : Except Failure CameraKind := do
  return CameraKind.ofTypeName (← camera.typeName.toText)

/-! ## Nodes -/

/-- A node with its local transform, its payloads and its children in order. -/
structure Node where
  kind : NodeKind := .group
  name : Value := .text ""
  position : Value := .triple 0.0 0.0 0.0
  rotation : Value := .triple 0.0 0.0 0.0
  scale : Value := .triple 1.0 1.0 1.0
  children : List Node := []
  geometry : Option Geometry := none
  surface : Surface := .none
  light : Option Light := none
  camera : Option Camera := none
  castShadow : Value := .bool false
  receiveShadow : Value := .bool false
  typeName : Value := .text ""
  deriving Inhabited

namespace Node

def label (node : Node) : String :=
  (node.name.givenOr (.text "<unnamed>")).plainText ++ " (" ++
    (node.typeName.givenOr (.text node.kind.name)).plainText ++ ")"

mutual

def count : Node → Nat
  | { children := children, .. } => countAll children + 1

def countAll : List Node → Nat
  | [] => 0
  | node :: rest => count node + countAll rest

end

mutual

/-- A node, followed by the trees of its children in order. -/
def preorder : Node → List Node
  | node@{ children := children, .. } => node :: preorderAll children

def preorderAll : List Node → List Node
  | [] => []
  | node :: rest => preorder node ++ preorderAll rest

end

theorem count_eq (node : Node) : node.count = countAll node.children + 1 := by
  cases node; rfl

theorem preorder_eq (node : Node) :
    node.preorder = node :: preorderAll node.children := by
  cases node; rfl

theorem countAll_append (left right : List Node) :
    countAll (left ++ right) = countAll left + countAll right := by
  induction left with
  | nil => simp [countAll]
  | cons node rest inductionHypothesis =>
      simp only [List.cons_append, countAll, inductionHypothesis]
      omega

theorem preorderAll_append (left right : List Node) :
    preorderAll (left ++ right) = preorderAll left ++ preorderAll right := by
  induction left with
  | nil => simp [preorderAll]
  | cons node rest inductionHypothesis =>
      simp [preorderAll, inductionHypothesis, List.append_assoc]

/-- Takes the topmost tree off a stack and puts its children there instead, the
first on top, until the stack is empty. -/
def visitStack : List Node → List Node
  | [] => []
  | node :: stack => node :: visitStack (node.children ++ stack)
  termination_by stack => countAll stack
  decreasing_by
    simp only [countAll, countAll_append, count_eq]
    omega

theorem visitStack_eq (stack : List Node) : visitStack stack = preorderAll stack := by
  fun_induction visitStack stack with
  | case1 => rfl
  | case2 node stack inductionHypothesis =>
      rw [inductionHypothesis, preorderAll_append, preorderAll, preorder_eq]
      rfl

/-- The nodes of a tree in the order of a depth-first visit. -/
def visited (node : Node) : List Node := visitStack [node]

def descendants (node : Node) : List Node := node.visited.drop 1

end Node

end SceneComponent
