import Mathlib
import SceneComponent.Proofs.Inventory.Elision
import SceneComponent.Proofs.Inventory.Partition
import SceneComponent.Proofs.Value.WholeNumbers

/-!
# Where entries stand

The entries of an inventory stand side by side, each with the transform of its own node.
The transforms of the nodes around a node are in no entry, so that an entry stands at the
point of its own node whatever it is nested in.  That is its point in the scene exactly
when the points of the nodes around it, the root aside, add up to the origin.

Points are those of nodes whose positions are integers, which rounding keeps.
-/

set_option autoImplicit false

namespace SceneComponent

open Checked Binary64

/-! ## Points -/

abbrev Point := ℤ × ℤ × ℤ

namespace Value

/-- The point of a value whose three components are integers. -/
def point? (value : Value) : Option Point :=
  match value.components with
  | .ok (x, y, z) => do return (← toInt? x, ← toInt? y, ← toInt? z)
  | .error _ => none

variable {value places : Value} {point : Point}

theorem point?_eq_some_iff : value.point? = some point ↔
    ∃ x y z, value.components = .ok (x, y, z) ∧
      toInt? x = some point.1 ∧ toInt? y = some point.2.1 ∧ toInt? z = some point.2.2 := by
  obtain ⟨first, second, third⟩ := point
  unfold point?
  cases value.components with
  | error failure => simp
  | ok components =>
      obtain ⟨x, y, z⟩ := components
      simp [Option.bind_eq_some_iff]

theorem point?_of_roundComponents (behindPoint : places.AreBehindPoint) {x y z : Float}
    (success : value.roundComponents places = .ok (x, y, z)) (given : value.point? = some point) :
    (triple x y z).point? = some point := by
  obtain ⟨x', y', z', components, first, second, third⟩ := point?_eq_some_iff.mp given
  rw [roundComponents, components, ok_bind] at success
  obtain ⟨_, firstRounded, success⟩ := bind_eq_ok.mp success
  obtain ⟨_, secondRounded, success⟩ := bind_eq_ok.mp success
  obtain ⟨_, thirdRounded, success⟩ := bind_eq_ok.mp success
  cases return_eq_ok.mp success
  exact point?_eq_some_iff.mpr ⟨x, y, z, components_triple x y z,
    toInt?_roundDouble behindPoint firstRounded first,
    toInt?_roundDouble behindPoint secondRounded second,
    toInt?_roundDouble behindPoint thirdRounded third⟩

end Value

/-! ## Nodes in the scene -/

namespace Node

/-- The point of a node relative to the node that it is a child of. -/
def ownPoint (node : Node) : Point := node.position.point?.getD 0

mutual

/-- The nodes of a tree in pre-order, each with the sum of the points of the nodes around
it; the nodes around the tree contribute the given point. -/
def placed (around : Point) : Node → List (Node × Point)
  | node@{ children := children, .. } =>
      (node, around) :: placedAll (around + node.ownPoint) children

def placedAll (around : Point) : List Node → List (Node × Point)
  | [] => []
  | node :: rest => placed around node ++ placedAll around rest

end

mutual

theorem map_fst_placed (around : Point) : (node : Node) →
    (placed around node).map Prod.fst = node.preorder
  | node@{ children := children, .. } => by
      rw [placed, preorder, List.map_cons, map_fst_placedAll _ children]

theorem map_fst_placedAll (around : Point) : (nodes : List Node) →
    (placedAll around nodes).map Prod.fst = preorderAll nodes
  | [] => rfl
  | node :: rest => by
      rw [placedAll, preorderAll, List.map_append, map_fst_placed around node,
        map_fst_placedAll around rest]

end

/-- The nodes of a role below a root, with the points of the nodes around them. -/
def placedOf (role : Role) (root : Node) : List (Node × Point) :=
  (placedAll 0 root.children).filter fun found => found.1.plays role

open Finding.FoundAlong in
theorem map_fst_placedOf (role : Role) (root : Node) :
    (root.placedOf role).map Prod.fst = ofRole role root.properDescendants := by
  rw [properDescendants, ← map_fst_placedAll 0, ofRole, List.filter_map]
  rfl

end Node

/-! ## Entries of nodes -/

namespace Transform

/-- The point of a transform; one without a position is at the origin. -/
def point? (transform : Transform) : Option Point :=
  (transform.position.getD (.triple 0.0 0.0 0.0)).point?

/-- What is at the point of its own node, whatever that node is nested in.  It is at the
point of the node in the scene exactly when the nodes around the node add nothing. -/
structure StandsAlone (transform : Transform) (found : Node × Point) : Prop where
  own : transform.point? = some found.1.ownPoint
  inScene_iff : transform.point? = some (found.2 + found.1.ownPoint) ↔ found.2 = 0

variable {places : Value} {node : Node} {transform : Transform}

theorem point?_of_ofNode (behindPoint : places.AreBehindPoint)
    (success : ofNode node places = .ok transform) {point : Point}
    (given : node.position.point? = some point) : transform.point? = some point := by
  obtain ⟨x, y, z, rounded, standsFor⟩ := (elides_of_ofNode success).position.lossless
  rw [point?, standsFor]
  exact Value.point?_of_roundComponents behindPoint rounded given

theorem standsAlone_of_ofNode (behindPoint : places.AreBehindPoint)
    (success : ofNode node places = .ok transform)
    (whole : node.position.point?.isSome = true) (around : Point) :
    transform.StandsAlone (node, around) := by
  obtain ⟨point, given⟩ := Option.isSome_iff_exists.mp whole
  have own : transform.point? = some node.ownPoint := by
    rw [point?_of_ofNode behindPoint success given, Node.ownPoint, given, Option.getD_some]
  refine ⟨own, ?_⟩
  rw [own, Option.some_inj]
  exact right_eq_add

end Transform

namespace Entry

variable {node : Node} {places : Value} {entry : Entry}

theorem transform_of_ofLight? (success : ofLight? node places = .ok (some entry)) :
    Transform.ofNode node places = .ok entry.transform := by
  unfold ofLight? at success
  obtain ⟨kind, _, success⟩ := bind_eq_ok.mp success
  split at success
  · obtain ⟨numbers, _, success⟩ := bind_eq_ok.mp success
    obtain ⟨color, _, success⟩ := bind_eq_ok.mp success
    obtain ⟨transform, placed, success⟩ := bind_eq_ok.mp success
    cases return_eq_ok.mp success
    exact placed
  · cases return_eq_ok.mp success

theorem transform_of_ofCamera? (success : ofCamera? node places = .ok (some entry)) :
    Transform.ofNode node places = .ok entry.transform := by
  unfold ofCamera? at success
  obtain ⟨kind, _, success⟩ := bind_eq_ok.mp success
  split at success
  · obtain ⟨numbers, _, success⟩ := bind_eq_ok.mp success
    obtain ⟨transform, placed, success⟩ := bind_eq_ok.mp success
    cases return_eq_ok.mp success
    exact placed
  · cases return_eq_ok.mp success

end Entry

/-! ## Inventories -/

namespace Inventory

open Finding.FoundAlong

/-- The entries of each role stand alone, one for each node of the role and in order. -/
structure StandsAlone (inventory : Inventory) (root : Node) : Prop where
  meshes : List.Forall₂ (fun found entry => entry.transform.StandsAlone found)
    (root.placedOf .mesh) inventory.meshes
  lights : List.Forall₂ (fun found entry => entry.transform.StandsAlone found)
    (root.placedOf .light) inventory.lights
  cameras : List.Forall₂ (fun found entry => entry.transform.StandsAlone found)
    (root.placedOf .camera) inventory.cameras

variable {root : Node} {places : Value}

theorem forall₂_standsAlone {Item : Type} {role : Role} {items : List Item}
    {transformOf : Item → Transform} (behindPoint : places.AreBehindPoint)
    (whole : ∀ node ∈ root.properDescendants, node.position.point?.isSome = true)
    (made : List.Forall₂ (fun node item => Transform.ofNode node places = .ok (transformOf item))
      (ofRole role root.properDescendants) items) :
    List.Forall₂ (fun found item => (transformOf item).StandsAlone found) (root.placedOf role)
      items := by
  have wholeOf : ∀ node ∈ ofRole role root.properDescendants,
      node.position.point?.isSome = true := fun node member =>
    whole node (List.mem_of_mem_filter member)
  have madeWhole := (List.forall₂_and_left _ _).mpr ⟨wholeOf, made⟩
  rw [← Node.map_fst_placedOf, List.forall₂_map_left_iff] at madeWhole
  exact madeWhole.imp fun found item given =>
    Transform.standsAlone_of_ofNode behindPoint given.2 given.1 found.2

/-- Entries stand at the points of their own nodes, at any depth and below nodes of any
kind. -/
theorem stands_alone_of_survey {clips : List Clip} {shadows : Value} {inventory : Inventory}
    {records : List Record} (behindPoint : places.AreBehindPoint)
    (whole : ∀ node ∈ root.properDescendants, node.position.point?.isSome = true)
    (success : survey root clips places shadows = .ok (inventory, records)) :
    inventory.StandsAlone root := by
  refine {
    meshes := forall₂_standsAlone behindPoint whole ?_
    lights := forall₂_standsAlone behindPoint whole ?_
    cameras := forall₂_standsAlone behindPoint whole ?_ }
  · have described : List.Forall₂ (fun placed (entry : MeshEntry) =>
        Transform.ofNode placed.1 places = .ok entry.transform)
          (ofRole .mesh root.properDescendants).zipIdx inventory.meshes :=
      (meshes_of_survey success).imp fun placed entry describes => describes.transform
    have mapped := List.forall₂_map_left_iff (f := Prod.fst)
      (R := fun node (entry : MeshEntry) => Transform.ofNode node places = .ok entry.transform)
      |>.mpr described
    rwa [List.zipIdx_map_fst] at mapped
  · exact (lights_of_survey success).imp fun node entry => Entry.transform_of_ofLight?
  · exact (cameras_of_survey success).imp fun node entry => Entry.transform_of_ofCamera?

/-- Two groups that are moved to and fro, with a mesh, a light and a camera in them, each
below another. -/
def movedScene : Node where
  children := [{
    position := .triple 3.0 0.0 (-1.0)
    children := [
      { kind := .mesh, position := .triple 1.0 2.0 0.0
        children := [{
          kind := .light, typeName := .text "PointLight", position := .triple 0.0 7.0 0.0 }] },
      { position := .triple (-3.0) 0.0 1.0
        children := [{
          kind := .camera, typeName := .text "PerspectiveCamera"
          position := .triple 0.0 0.0 1e20 }] }] }]

theorem movedScene_stands_alone : ∃ inventory records,
    survey movedScene [] = .ok (inventory, records) ∧
      (∀ node ∈ movedScene.properDescendants, node.position.point?.isSome = true) ∧
      inventory.meshes.map (fun entry => entry.transform.point?) = [some (1, 2, 0)] ∧
      (movedScene.placedOf .mesh).map Prod.snd = [(3, 0, -1)] ∧
      inventory.cameras.map (fun entry => entry.transform.point?) = [some (0, 0, 10 ^ 20)] ∧
      (movedScene.placedOf .camera).map Prod.snd = [0] ∧
      inventory.StandsAlone movedScene := by
  have points : (survey movedScene []).toOption.map (fun result =>
      (result.1.meshes.map (fun entry => entry.transform.point?),
        result.1.cameras.map (fun entry => entry.transform.point?))) =
          some ([some (1, 2, 0)], [some (0, 0, 10 ^ 20)]) := by decide +kernel
  have whole : ∀ node ∈ movedScene.properDescendants,
      node.position.point?.isSome = true := by
    rw [← List.all_eq_true]
    decide +kernel
  have behindPoint : Value.usualPlaces.AreBehindPoint := fun count counted => by
    cases counted
    decide
  obtain ⟨⟨inventory, records⟩, made, found⟩ := ok_of_map_toOption points
  exact ⟨inventory, records, made, whole, congrArg Prod.fst found, by decide +kernel,
    congrArg Prod.snd found, by decide +kernel, stands_alone_of_survey behindPoint whole made⟩

/-- A box that is moved by one, in a group that is moved by one. -/
def shiftedBox : Node where
  children := [{
    position := .triple 1.0 0.0 0.0
    children := [{ kind := .mesh, position := .triple 1.0 0.0 0.0 }] }]

/-- In the scene the box is moved by two, and its entry by one. -/
theorem shiftedBox_out_of_place : ∃ inventory records,
    survey shiftedBox [] = .ok (inventory, records) ∧
      shiftedBox.ownPoint = 0 ∧
      (∀ node ∈ shiftedBox.properDescendants, node.position.point?.isSome = true ∧
        node.rotation.point? = some 0 ∧ node.scale.point? = some 1) ∧
      inventory.meshes.map (fun entry => entry.transform.point?) = [some (1, 0, 0)] ∧
      ¬ List.Forall₂ (fun found entry =>
          entry.transform.point? = some (found.2 + found.1.ownPoint))
        (shiftedBox.placedOf .mesh) inventory.meshes := by
  have points : (survey shiftedBox []).toOption.map (fun result =>
      result.1.meshes.map (fun entry => entry.transform.point?)) = some [some (1, 0, 0)] := by
    decide +kernel
  have neutral : ∀ node ∈ shiftedBox.properDescendants,
      node.position.point?.isSome = true ∧
        node.rotation.point? = some 0 ∧ node.scale.point? = some 1 := by
    have computed : (shiftedBox.properDescendants.all fun node =>
        node.position.point?.isSome && node.rotation.point? == some 0 &&
          node.scale.point? == some 1) = true := by decide +kernel
    simpa [and_assoc] using List.all_eq_true.mp computed
  have inScene : (shiftedBox.placedOf .mesh).map (fun found => found.2 + found.1.ownPoint) =
      [(2, 0, 0)] := by decide +kernel
  obtain ⟨⟨inventory, records⟩, made, found⟩ := ok_of_map_toOption points
  refine ⟨inventory, records, made, by decide +kernel, neutral, found, fun inPlace => ?_⟩
  have same : (shiftedBox.placedOf .mesh).map
      (fun found => some (found.2 + found.1.ownPoint)) =
        inventory.meshes.map (fun entry => entry.transform.point?) := by
    rw [← List.forall₂_eq_eq_eq, List.forall₂_map_left_iff, List.forall₂_map_right_iff]
    exact inPlace.imp fun _ _ => Eq.symm
  have moved := (congrArg (List.map some) inScene).symm
  rw [List.map_map] at moved
  have twoIsOne := moved.trans (same.trans found)
  revert twoIsOne
  decide

end Inventory

end SceneComponent
