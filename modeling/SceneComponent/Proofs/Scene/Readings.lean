import Mathlib
import SceneComponent.Proofs.Checked
import SceneComponent.Scene.Document

/-!
# The readings of a document

Reading a document looks at its parts one after the other, in an order that only
the document decides, and the first part that cannot be read ends it.  The parts
are listed here without reading any of them, and `failure?_ofValue` says that a
model is read exactly when every part on the list can be, and that otherwise the
first part that cannot be read gives the failure.

Most parts are guarded: what goes wrong in them is a fault of the scene.  The
parts that escape the guards are those that `Reading.Escapes` names.
-/

set_option autoImplicit false

namespace SceneComponent

open Checked

/-- One look at a part of a document.  The parts that are no object or no sequence
where one is needed are listed as such, since nothing in them can be read. -/
inductive Reading where
  | refused (fault : SceneFault)
  | quaternion (node : String) (given : Value)
  | vector (place : String) (given : Value)
  | color (given : Value)
  | side (given : Value)
  | number (given : Value)
  | parameters (typeName : String) (given : Value)
  | unlisted (given : Value)
  | fieldless (given : Value)

/-! ## The parts in order -/

namespace Reading

def numberAt (entries : Entries) (key : String) (standIn : Value) : Reading :=
  .number (Value.fieldOr key standIn entries)

def colorAt (entries : Entries) (key : String) : Reading :=
  .color (Value.fieldOr key .null entries)

end Reading

open Reading (numberAt colorAt)

def Material.readings : Value → List Reading
  | .map entries =>
      let standard : Material := {}
      [.side (Value.fieldOr "side" (.text Side.front.name) entries),
        colorAt entries "color", colorAt entries "emissive",
        numberAt entries "roughness" standard.roughness,
        numberAt entries "metalness" standard.metalness,
        numberAt entries "clearcoat" standard.clearcoat,
        numberAt entries "opacity" standard.opacity]
  | value => [.refused (.notAnObject "material" value)]

def Geometry.readings (value : Value) (node : String) : List Reading :=
  let standard : Geometry := {}
  match value with
  | .map entries =>
      [.parameters (Entries.textOr entries "type" standard.typeName)
        (Value.fieldOr "parameters" .null entries)]
  | _ => if value.isTruthy then [.refused (.geometryNotAnObject node)] else []

def Surface.readings : Value → List Reading
  | .null => []
  | .list items => items.flatMap Material.readings
  | value => Material.readings value

def Light.readings (entries : Entries) : List Reading :=
  let standard : Light := {}
  [colorAt entries "color",
    numberAt entries "intensity" standard.intensity,
    numberAt entries "distance" standard.distance,
    numberAt entries "angle" standard.angle,
    numberAt entries "penumbra" standard.penumbra]

def Camera.readings (entries : Entries) : List Reading :=
  let standard : Camera := {}
  [numberAt entries "fov" standard.fov,
    numberAt entries "aspect" standard.aspect,
    numberAt entries "near" standard.near,
    numberAt entries "far" standard.far,
    numberAt entries "left" standard.left,
    numberAt entries "right" standard.right,
    numberAt entries "top" standard.top,
    numberAt entries "bottom" standard.bottom]

namespace Node

def rotationReading (place : String) (entries : Entries) : Reading :=
  match Value.field? "quaternion" entries with
  | some given => .quaternion place given
  | none =>
      .vector (place ++ ".rotation")
        (Value.fieldOr "rotation" (.triple 0.0 0.0 0.0) entries)

def payloadReadings (place : String) (entries : Entries) : NodeKind → List Reading
  | .mesh =>
      Geometry.readings (Value.fieldOr "geometry" .null entries) place ++
        Surface.readings (Value.fieldOr "material" .null entries)
  | .light => Light.readings entries
  | .camera => Camera.readings entries
  | .group => []
  | .other => []

/-- The parts of a node without its children. -/
def ownReadings (place : String) (entries : Entries) : List Reading :=
  rotationReading place entries ::
    payloadReadings place entries (kindOf (entries.textOr "type" (.text "Object3D")) entries) ++
    [.vector (place ++ ".position")
        (Value.fieldOr "position" (.triple 0.0 0.0 0.0) entries),
      .vector (place ++ ".scale") (Value.fieldOr "scale" (.triple 1.0 1.0 1.0) entries)]

def unlistedReadings (place : String) (given : Value) : List Reading :=
  if given.isTruthy then
    match given.elements? with
    | some (first :: _) => [.refused (.notAnObject (childPlace place 0) first)]
    | some [] => []
    | none => [.unlisted given]
  else []

mutual

def readings (place : String) : Value → List Reading
  | .map entries => ownReadings place entries ++ childrenReadings place entries
  | value => [.refused (.notAnObject place value)]

def childrenReadings (place : String) : List (String × Value) → List Reading
  | [] => []
  | (key, .list items) :: rest =>
      if key = childrenKey then itemReadings place 0 items else childrenReadings place rest
  | (key, given) :: rest =>
      if key = childrenKey then unlistedReadings place given else childrenReadings place rest

def itemReadings (place : String) (index : Nat) : List Value → List Reading
  | [] => []
  | item :: rest =>
      readings (childPlace place index) item ++ itemReadings place (index + 1) rest

end

end Node

namespace Model

def clipReadings : Value → List Reading
  | .map entries => [numberAt entries "duration" (.float (-1.0))]
  | value => [.fieldless value]

def clipsReadings (value : Value) : List Reading :=
  if value.isTruthy then
    match value.elements? with
    | some elements => elements.flatMap clipReadings
    | none => [.unlisted value]
  else []

/-- The parts of a document in the order in which they are read. -/
def readings (document : Value) : List Reading :=
  match document with
  | .map entries =>
      match Value.field? "scene" entries with
      | some scene =>
          Node.readings "scene" scene ++
            clipsReadings (Value.fieldOr "animations" .null entries)
      | none => [.refused .modelWithoutScene]
  | _ => [.refused .modelWithoutScene]

end Model

/-! ## What cannot be read -/

namespace Reading

/-- The failure of a part, if it cannot be read. -/
def failure? : Reading → Option Failure
  | .refused fault => some (.malformedScene fault)
  | .quaternion node given =>
      match NumberArray.ofValue given with
      | .error failure => some failure
      | .ok ⟨[_], [_, _, _, _]⟩ => none
      | .ok _ => some (.malformedScene (.notFourNumbers node))
  | .vector place given => Checked.failure? (given.threeNumbers place)
  | .color given => Checked.failure? (Color.ofValue given)
  | .side given => Checked.failure? (Side.ofValue given)
  | .number given => Checked.failure? given.toDouble
  | .parameters _ given => Checked.failure? (Table.ofValue given)
  | .unlisted _ => some .unsuitableKind
  | .fieldless _ => some .lacksOperation

/-- The first failure among parts in order. -/
def firstFailure? (parts : List Reading) : Option Failure := parts.findSome? failure?

@[simp]
theorem firstFailure?_nil : firstFailure? [] = none := rfl

theorem firstFailure?_cons (part : Reading) (rest : List Reading) :
    firstFailure? (part :: rest) = part.failure?.or (firstFailure? rest) := by
  rw [firstFailure?, List.findSome?_cons]
  cases part.failure? <;> rfl

theorem firstFailure?_append (front back : List Reading) :
    firstFailure? (front ++ back) = (firstFailure? front).or (firstFailure? back) :=
  List.findSome?_append

theorem firstFailure?_flatMap {α : Type} (items : List α) (parts : α → List Reading) :
    firstFailure? (items.flatMap parts) = items.findSome? fun item => firstFailure? (parts item) := by
  induction items with
  | nil => rfl
  | cons item rest inductionHypothesis =>
      rw [List.flatMap_cons, firstFailure?_append, inductionHypothesis, List.findSome?_cons]
      cases firstFailure? (parts item) <;> rfl

end Reading

open Reading (firstFailure? firstFailure?_cons firstFailure?_append firstFailure?_flatMap)

/-! ## Payloads -/

theorem Entries.failure?_doubleOr (entries : Entries) (key : String) (standIn : Value) :
    failure? (entries.doubleOr key standIn) = (numberAt entries key standIn).failure? :=
  failure?_bind_pure _ _

theorem Color.failure?_ofValue (value standard : Value) :
    failure? (ofValue value standard) = (Reading.color value).failure? := by
  unfold Reading.failure? ofValue
  cases value <;> rfl

theorem Material.failure?_ofValue (value : Value) :
    failure? (ofValue value) = firstFailure? (readings value) := by
  unfold ofValue readings
  cases value with
  | map entries =>
      simp only [Value.toEntries, ok_bind, firstFailure?_cons, Reading.firstFailure?_nil,
        ← Entries.failure?_doubleOr, Reading.colorAt]
      rw [failure?_bind fun side => failure?_bind fun color => failure?_bind fun emissive =>
        failure?_bind fun roughness => failure?_bind fun metalness => failure?_bind fun clearcoat =>
        failure?_bind_pure _ _]
      simp only [Color.failure?_ofValue, Option.or_none]
      rfl
  | _ => rfl

theorem Geometry.failure?_ofValue (value : Value) (node : String) :
    failure? (ofValue value node) = firstFailure? (readings value node) := by
  unfold ofValue readings
  cases value with
  | map entries =>
      simp only [ok_bind, firstFailure?_cons, Reading.firstFailure?_nil, Option.or_none]
      exact failure?_bind_pure _ _
  | _ =>
      dsimp only
      split <;> rfl

theorem Surface.failure?_ofValue (value : Value) :
    failure? (ofValue value) = firstFailure? (readings value) := by
  unfold ofValue readings
  cases value with
  | null => rfl
  | list items =>
      rw [failure?_bind_pure, failure?_mapM, firstFailure?_flatMap]
      simp only [Material.failure?_ofValue]
  | _ => rw [failure?_bind_pure, Material.failure?_ofValue]

theorem Light.failure?_ofEntries (typeName : String) (entries : Entries) :
    failure? (ofEntries typeName entries) = firstFailure? (readings entries) := by
  unfold ofEntries readings
  simp only [firstFailure?_cons, Reading.firstFailure?_nil, ← Entries.failure?_doubleOr,
    Reading.colorAt]
  rw [failure?_bind fun color => failure?_bind fun intensity => failure?_bind fun distance =>
    failure?_bind fun angle => failure?_bind_pure _ _]
  simp only [Color.failure?_ofValue, Option.or_none]

theorem Camera.failure?_ofEntries (typeName : String) (entries : Entries) :
    failure? (ofEntries typeName entries) = firstFailure? (readings entries) := by
  unfold ofEntries readings
  simp only [firstFailure?_cons, Reading.firstFailure?_nil, ← Entries.failure?_doubleOr]
  rw [failure?_bind fun fov => failure?_bind fun aspect => failure?_bind fun near =>
    failure?_bind fun far => failure?_bind fun left => failure?_bind fun right =>
    failure?_bind fun top => failure?_bind_pure _ _]
  simp only [Option.or_none]

/-! ## Nodes -/

namespace Node

theorem failure?_rotationOf (place : String) (entries : Entries) :
    failure? (rotationOf place entries) = (rotationReading place entries).failure? := by
  unfold rotationOf rotationReading
  cases Value.field? "quaternion" entries with
  | none => rfl
  | some given =>
      unfold Reading.failure?
      dsimp only
      cases NumberArray.ofValue given with
      | error failure => rfl
      | ok array =>
          rw [ok_bind]
          split
          · rfl
          · next other =>
              split
              · contradiction
              · next same => exact absurd (Except.ok.inj same) (other _ _ _ _ _)
              · rfl

theorem failure?_withPayload (place typeName : String) (entries : Entries) (node : Node) :
    failure? (withPayload place typeName entries node) =
      firstFailure? (payloadReadings place entries node.kind) := by
  unfold withPayload payloadReadings
  cases node.kind with
  | mesh =>
      dsimp only
      rw [failure?_bind fun geometry => failure?_bind_pure _ _, firstFailure?_append,
        Geometry.failure?_ofValue, Surface.failure?_ofValue]
  | light => exact (failure?_bind_pure _ _).trans (Light.failure?_ofEntries typeName entries)
  | camera => exact (failure?_bind_pure _ _).trans (Camera.failure?_ofEntries typeName entries)
  | group => rfl
  | other => rfl

/-- The step lemma: a node without its children fails at the first of its own parts. -/
theorem failure?_alone (place : String) (entries : Entries) :
    failure? (alone place entries) = firstFailure? (ownReadings place entries) := by
  unfold alone ownReadings
  rw [List.cons_append, firstFailure?_cons, firstFailure?_append, ← failure?_rotationOf]
  -- only the rotation is handed to the payload, which does not look at it
  cases rotationOf place entries with
  | error failure => rfl
  | ok rotation =>
      rw [ok_bind, failure?_bind fun node => failure?_bind fun position => failure?_bind_pure _ _,
        failure?_withPayload]
      simp only [firstFailure?_cons, Reading.firstFailure?_nil, Option.or_none]
      rfl

theorem failure?_unlistedChildren (place : String) (given : Value) :
    failure? (unlistedChildren place given) = firstFailure? (unlistedReadings place given) := by
  unfold unlistedChildren unlistedReadings
  split
  · cases given.elements? with
    | none => rfl
    | some elements => cases elements <;> rfl
  · rfl

/-- The run lemma: a tree fails at the first of all its parts. -/
theorem failure?_read (place : String) (value : Value) :
    failure? (read place value) = firstFailure? (readings place value) := by
  -- one motive for each of the mutual readers: of a tree, of the entries, of a list
  refine Node.read.induct
    (fun place value => failure? (read place value) = firstFailure? (readings place value))
    (fun place entries =>
      failure? (childrenOf place entries) = firstFailure? (childrenReadings place entries))
    (fun place index items =>
      failure? (readChildren place index items) = firstFailure? (itemReadings place index items))
    ?tree ?noTree ?noItems ?item ?noEntries ?listed ?otherList ?unlisted ?other place value
  case tree =>
    intro place entries inductionHypothesis
    rw [read, readings, firstFailure?_append, ← failure?_alone, ← inductionHypothesis]
    exact failure?_bind fun node => failure?_bind_pure _ _
  case noTree =>
    intro value place notMap
    cases value with
    | map entries => exact absurd rfl (notMap entries)
    | _ => rfl
  case noItems =>
    intro place index
    rfl
  case item =>
    intro place index item rest itemHypothesis restHypothesis
    rw [readChildren, itemReadings, firstFailure?_append, ← itemHypothesis, ← restHypothesis]
    exact failure?_bind fun node => failure?_bind_pure _ _
  case noEntries =>
    intro place
    rfl
  case listed =>
    intro place items rest inductionHypothesis
    rw [childrenOf, childrenReadings, if_pos rfl, if_pos rfl]
    exact inductionHypothesis
  case otherList =>
    intro place key items rest different inductionHypothesis
    rw [childrenOf, childrenReadings, if_neg different, if_neg different]
    exact inductionHypothesis
  case unlisted =>
    intro place given rest notList
    rw [childrenOf, childrenReadings, if_pos rfl, if_pos rfl]
    · exact failure?_unlistedChildren place given
    · exact notList
    · exact notList
  case other =>
    intro place key given rest notList different inductionHypothesis
    rw [childrenOf, childrenReadings, if_neg different, if_neg different]
    · exact inductionHypothesis
    · exact notList
    · exact notList

/-! ## What holds of a whole tree -/

theorem unlistedChildren_eq_nil {place : String} {given : Value} {children : List Node}
    (success : unlistedChildren place given = .ok children) : children = [] := by
  unfold unlistedChildren at success
  split at success
  · split at success
    · cases success
    · cases success
      rfl
    · cases success
  · cases success
    rfl

/-- Whatever holds of every node that is read alone from allowed parts holds of all
nodes of a tree whose parts are allowed. -/
theorem forall_mem_preorder_of_read {allows : Reading → Prop} {holds : Node → Prop}
    (kept : ∀ (node : Node) (children : List Node), holds node → holds { node with children })
    (step : ∀ (place : String) (entries : Entries) (bare : Node),
      (∀ part ∈ ownReadings place entries, allows part) → alone place entries = .ok bare →
        holds bare)
    {place : String} {value : Value} {node : Node}
    (allowed : ∀ part ∈ readings place value, allows part)
    (success : read place value = .ok node) : ∀ below ∈ node.preorder, holds below := by
  revert node
  revert allowed
  refine Node.read.induct
    (fun place value => (∀ part ∈ readings place value, allows part) →
      ∀ {node}, read place value = .ok node → ∀ below ∈ node.preorder, holds below)
    (fun place entries => (∀ part ∈ childrenReadings place entries, allows part) →
      ∀ {children}, childrenOf place entries = .ok children →
        ∀ below ∈ preorderAll children, holds below)
    (fun place index items => (∀ part ∈ itemReadings place index items, allows part) →
      ∀ {children}, readChildren place index items = .ok children →
        ∀ below ∈ preorderAll children, holds below)
    ?tree ?noTree ?noItems ?item ?noEntries ?listed ?otherList ?unlisted ?other place value
  case tree =>
    intro place entries inductionHypothesis allowed node success
    rw [readings, List.forall_mem_append] at allowed
    rw [read] at success
    obtain ⟨bare, made, success⟩ := bind_eq_ok.mp success
    obtain ⟨children, childrenRead, success⟩ := bind_eq_ok.mp success
    cases return_eq_ok.mp success
    rw [preorder_eq]
    exact List.forall_mem_cons.mpr ⟨kept bare children (step place entries bare allowed.1 made),
      inductionHypothesis allowed.2 childrenRead⟩
  case noTree =>
    intro value place notMap allowed node success
    cases value with
    | map entries => exact absurd rfl (notMap entries)
    | _ => simp [read] at success
  case noItems =>
    intro place index allowed children success
    cases success
    simp [preorderAll]
  case item =>
    intro place index item rest itemHypothesis restHypothesis allowed children success
    rw [itemReadings, List.forall_mem_append] at allowed
    rw [readChildren] at success
    obtain ⟨first, firstRead, success⟩ := bind_eq_ok.mp success
    obtain ⟨others, othersRead, success⟩ := bind_eq_ok.mp success
    cases return_eq_ok.mp success
    rw [preorderAll]
    exact List.forall_mem_append.mpr
      ⟨itemHypothesis allowed.1 firstRead, restHypothesis allowed.2 othersRead⟩
  case noEntries =>
    intro place allowed children success
    cases success
    simp [preorderAll]
  case listed =>
    intro place items rest inductionHypothesis allowed children success
    rw [childrenReadings, if_pos rfl] at allowed
    rw [childrenOf, if_pos rfl] at success
    exact inductionHypothesis allowed success
  case otherList =>
    intro place key items rest different inductionHypothesis allowed children success
    rw [childrenReadings, if_neg different] at allowed
    rw [childrenOf, if_neg different] at success
    exact inductionHypothesis allowed success
  case unlisted =>
    intro place given rest notList allowed children success
    rw [childrenOf, if_pos rfl] at success
    · rw [unlistedChildren_eq_nil success]
      simp [preorderAll]
    · exact notList
  case other =>
    intro place key given rest notList different inductionHypothesis allowed children success
    rw [childrenReadings, if_neg different] at allowed
    · rw [childrenOf, if_neg different] at success
      · exact inductionHypothesis allowed success
      · exact notList
    · exact notList

end Node

/-! ## Models -/

namespace Model

theorem failure?_clipOf (identity : Nat) (value : Value) :
    failure? (clipOf identity value) = firstFailure? (clipReadings value) := by
  unfold clipOf clipReadings
  cases value with
  | map entries =>
      rw [firstFailure?_cons, Reading.firstFailure?_nil, Option.or_none]
      exact failure?_bind_pure _ _
  | _ => rfl

theorem failure?_clipsFrom (identity : Nat) (values : List Value) :
    failure? (clipsFrom identity values) = firstFailure? (values.flatMap clipReadings) := by
  induction values generalizing identity with
  | nil => rfl
  | cons value rest inductionHypothesis =>
      rw [clipsFrom, List.flatMap_cons, firstFailure?_append, ← failure?_clipOf identity,
        ← inductionHypothesis (identity + 1)]
      exact failure?_bind fun clip => failure?_bind_pure _ _

theorem failure?_clipsOf (value : Value) :
    failure? (clipsOf value) = firstFailure? (clipsReadings value) := by
  unfold clipsOf clipsReadings
  split
  · cases value.elements? with
    | none => rfl
    | some elements => exact failure?_clipsFrom 0 elements
  · rfl

/-- A model fails at the first of the parts of its document, and at nothing else. -/
theorem failure?_ofValue (document : Value) :
    failure? (ofValue document) = firstFailure? (readings document) := by
  unfold ofValue readings
  cases document with
  | map entries =>
      dsimp only
      cases Value.field? "scene" entries with
      | none => rfl
      | some scene =>
          dsimp only
          rw [firstFailure?_append, ← Node.failure?_read, ← failure?_clipsOf]
          exact failure?_bind fun node => failure?_bind_pure _ _
  | _ => rfl

end Model

end SceneComponent
