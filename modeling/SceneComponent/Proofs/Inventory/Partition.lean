import Mathlib
import SceneComponent.Proofs.Inventory.Roles

/-!
# Inventories as partitions

A survey sorts the nodes below the root by their roles and keeps their order: the
meshes, lights, cameras and leftovers of the inventory are, one for one, the
nodes of these roles.  Nothing is lost under a node of any role, nothing is noted
twice, and meshes without a usable name are told apart by their index.
-/

set_option autoImplicit false

namespace SceneComponent

open Checked

/-- Whether nothing of the name of a node can be used in an identifier. -/
def Node.IsNameless (node : Node) : Prop :=
  ∃ name, node.name.toName = .ok name ∧ Identifier.clean name.toList = []

theorem Identifier.ofValue_nameless {raw : Value} {name : String} (fallback : String)
    (index : Nat) (text : raw.toName = .ok name)
    (nothing : Identifier.clean name.toList = []) :
    Identifier.ofValue raw (.text fallback) (.int index) =
      .ok (Identifier.cleanFallback fallback ++ ("_" ++ toString index)) := by
  unfold Identifier.ofValue Identifier.resolve
  rw [text]
  simp only [bind, Except.bind, nothing, pure, Except.pure]
  rw [← Value.intText_natCast]
  rfl

namespace MeshEntry

theorem Describes.name_ne {places shadows : Value} {first second : Node}
    {firstEntry secondEntry : MeshEntry} {firstIndex secondIndex : Nat}
    (firstDescribed : firstEntry.Describes places shadows firstIndex first)
    (secondDescribed : secondEntry.Describes places shadows secondIndex second)
    (firstNameless : first.IsNameless) (secondNameless : second.IsNameless)
    (apart : firstIndex ≠ secondIndex) : firstEntry.name ≠ secondEntry.name := by
  obtain ⟨firstName, firstText, firstNothing⟩ := firstNameless
  obtain ⟨secondName, secondText, secondNothing⟩ := secondNameless
  have firstGiven := firstDescribed.name
  have secondGiven := secondDescribed.name
  rw [Identifier.ofValue_nameless "Mesh" firstIndex firstText firstNothing] at firstGiven
  rw [Identifier.ofValue_nameless "Mesh" secondIndex secondText secondNothing] at secondGiven
  intro same
  rw [← Except.ok.inj firstGiven, ← Except.ok.inj secondGiven] at same
  have sameSuffix := (String.append_right_inj _).mp same
  exact apart (Nat.repr_inj.mp ((String.append_right_inj _).mp sameSuffix))

end MeshEntry

namespace Finding.FoundAlong

variable {places shadows : Value} {meshCount : Nat} {nodes : List Node}
  {findings : List Finding}

def ofRole (role : Role) (nodes : List Node) : List Node := nodes.filter (Node.plays role)

theorem ofRole_cons {node : Node} {played : Role} (settled : node.role? = .ok played)
    (role : Role) (rest : List Node) :
    ofRole role (node :: rest) =
      if played = role then node :: ofRole role rest else ofRole role rest := by
  simp only [ofRole, List.filter_cons, Node.plays_eq_decide settled, decide_eq_true_eq]

theorem roles (along : FoundAlong places shadows meshCount nodes findings) :
    ∀ node ∈ nodes, ∃! role, node.role? = .ok role := by
  induction along with
  | nil => simp
  | cons settled found others inductionHypothesis =>
      intro other member
      rcases List.mem_cons.mp member with rfl | inRest
      · refine ⟨_, settled, fun role played => ?_⟩
        exact Except.ok.inj (played.symm.trans settled)
      · exact inductionHypothesis other inRest

/-- The entries of one role, in order, belong to the nodes of that role: it is
enough that every finding holds an entry exactly at a node of the role. -/
theorem selected {Entry : Type} {role : Role} {select : Finding → Option Entry}
    {Belongs : Node → Entry → Prop}
    (hit : ∀ {meshCount : Nat} {node : Node} {finding : Finding},
      FoundAt places shadows meshCount node role finding →
        ∃ entry, select finding = some entry ∧ Belongs node entry)
    (miss : ∀ {meshCount : Nat} {node : Node} {played : Role} {finding : Finding},
      played ≠ role → FoundAt places shadows meshCount node played finding →
        select finding = none)
    (along : FoundAlong places shadows meshCount nodes findings) :
    List.Forall₂ Belongs (ofRole role nodes) (findings.filterMap select) := by
  induction along with
  | nil => exact .nil
  | @cons _ node played finding _ _ settled found others inductionHypothesis =>
      rw [ofRole_cons settled]
      by_cases same : played = role
      · subst same
        obtain ⟨entry, selects, belongs⟩ := hit found
        rw [if_pos rfl, List.filterMap_cons_some selects]
        exact .cons belongs inductionHypothesis
      · rw [if_neg same, List.filterMap_cons_none (miss same found)]
        exact inductionHypothesis

theorem lights (along : FoundAlong places shadows meshCount nodes findings) :
    List.Forall₂ (fun node entry => Entry.ofLight? node places = .ok (some entry))
      (ofRole .light nodes) (findings.filterMap Finding.light?) := by
  refine along.selected (fun found => ?_) (fun different found => ?_)
  · cases found with
    | light given => exact ⟨_, rfl, given⟩
  · cases found with
    | light given => exact absurd rfl different
    | _ => rfl

theorem cameras (along : FoundAlong places shadows meshCount nodes findings) :
    List.Forall₂ (fun node entry => Entry.ofCamera? node places = .ok (some entry))
      (ofRole .camera nodes) (findings.filterMap Finding.camera?) := by
  refine along.selected (fun found => ?_) (fun different found => ?_)
  · cases found with
    | camera given => exact ⟨_, rfl, given⟩
  · cases found with
    | camera given => exact absurd rfl different
    | _ => rfl

theorem leftovers (along : FoundAlong places shadows meshCount nodes findings) :
    findings.filterMap Finding.leftover? = (ofRole .leftover nodes).map Node.label := by
  have labelled : List.Forall₂ (fun node label => node.label = label)
      (ofRole .leftover nodes) (findings.filterMap Finding.leftover?) := by
    refine along.selected (fun found => ?_) (fun different found => ?_)
    · cases found with
      | leftover => exact ⟨_, rfl, rfl⟩
    · cases found with
      | leftover => exact absurd rfl different
      | _ => rfl
  have mapped := (List.forall₂_map_left_iff (f := Node.label)).mpr labelled
  exact (List.forall₂_eq_eq_eq ▸ mapped).symm

/-- The meshes are counted on the way, so this is an induction of its own. -/
theorem meshes (along : FoundAlong places shadows meshCount nodes findings) :
    List.Forall₂ (fun placed entry =>
        MeshEntry.Describes places shadows placed.2 placed.1 entry)
      ((ofRole .mesh nodes).zipIdx meshCount) (findings.filterMap Finding.mesh?) := by
  induction along with
  | nil => exact .nil
  | cons settled found others inductionHypothesis =>
      rw [ofRole_cons settled]
      cases found with
      | mesh described => exact .cons described inductionHypothesis
      | _ => exact inductionHypothesis

theorem total (along : FoundAlong places shadows meshCount nodes findings) :
    (findings.filterMap Finding.mesh?).length + (findings.filterMap Finding.light?).length +
        (findings.filterMap Finding.camera?).length +
        (findings.filterMap Finding.leftover?).length =
      (nodes.filter fun node => node.kind ≠ .group).length := by
  induction along with
  | nil => rfl
  | @cons _ node played finding _ _ settled found others inductionHypothesis =>
      have container := Node.role_container_iff settled
      cases found with
      | container =>
          rw [List.filter_cons_of_neg (by simp [container.mp rfl])]
          exact inductionHypothesis
      | _ =>
          rw [List.filter_cons_of_pos (by simpa using fun group => by cases container.mpr group)]
          simp only [List.filterMap_cons, Finding.mesh?, Finding.light?, Finding.camera?,
            Finding.leftover?, List.length_cons]
          omega

end Finding.FoundAlong

namespace Inventory

open Finding.FoundAlong

/-- An inventory notes every node of a list once, in order, and by its role. -/
structure Partitions (places shadows : Value) (nodes : List Node)
    (inventory : Inventory) : Prop where
  roles : ∀ node ∈ nodes, ∃! role, node.role? = .ok role
  /-- Every mesh is described, with the number of meshes before it. -/
  meshes : List.Forall₂ (fun placed entry =>
      MeshEntry.Describes places shadows placed.2 placed.1 entry)
    (ofRole .mesh nodes).zipIdx inventory.meshes
  lights : List.Forall₂ (fun node entry => Entry.ofLight? node places = .ok (some entry))
    (ofRole .light nodes) inventory.lights
  cameras : List.Forall₂ (fun node entry => Entry.ofCamera? node places = .ok (some entry))
    (ofRole .camera nodes) inventory.cameras
  leftovers : inventory.leftovers = (ofRole .leftover nodes).map Node.label
  total : inventory.meshes.length + inventory.lights.length + inventory.cameras.length +
    inventory.leftovers.length = (nodes.filter fun node => node.kind ≠ .group).length
  /-- Two meshes without a usable name have different names in the inventory. -/
  namesApart : ∀ (firstIndex secondIndex : Nat) (first second : Node)
    (firstEntry secondEntry : MeshEntry), firstIndex ≠ secondIndex →
    (ofRole .mesh nodes)[firstIndex]? = some first →
    (ofRole .mesh nodes)[secondIndex]? = some second →
    first.IsNameless → second.IsNameless →
    inventory.meshes[firstIndex]? = some firstEntry →
    inventory.meshes[secondIndex]? = some secondEntry →
    firstEntry.name ≠ secondEntry.name

theorem describes_of_getElem? {places shadows : Value} {nodes : List Node}
    {entries : List MeshEntry} {index : Nat} {node : Node} {entry : MeshEntry}
    (described : List.Forall₂ (fun placed entry =>
      MeshEntry.Describes places shadows placed.2 placed.1 entry) nodes.zipIdx entries)
    (atNode : nodes[index]? = some node) (atEntry : entries[index]? = some entry) :
    entry.Describes places shadows index node := by
  have inEntries := (List.getElem?_eq_some_iff.mp atEntry).1
  have placed : nodes.zipIdx[index]? = some (node, index) := by
    rw [List.getElem?_zipIdx, atNode]
    simp
  have inNodes := (List.getElem?_eq_some_iff.mp placed).1
  have related := described.get inNodes inEntries
  rw [List.get_eq_getElem, List.get_eq_getElem] at related
  rw [(List.getElem?_eq_some_iff.mp placed).2, (List.getElem?_eq_some_iff.mp atEntry).2] at related
  exact related

section OfSurvey

variable {root : Node} {clips : List Clip} {places shadows : Value} {inventory : Inventory}
  {records : List Record}

theorem meshes_of_survey (success : survey root clips places shadows = .ok (inventory, records)) :
    List.Forall₂ (fun placed entry =>
        MeshEntry.Describes places shadows placed.2 placed.1 entry)
      (ofRole .mesh root.properDescendants).zipIdx inventory.meshes := by
  obtain ⟨findings, slots, along, _, rfl⟩ := survey_trace success
  exact along.meshes

theorem lights_of_survey (success : survey root clips places shadows = .ok (inventory, records)) :
    List.Forall₂ (fun node entry => Entry.ofLight? node places = .ok (some entry))
      (ofRole .light root.properDescendants) inventory.lights := by
  obtain ⟨findings, slots, along, _, rfl⟩ := survey_trace success
  exact along.lights

theorem cameras_of_survey (success : survey root clips places shadows = .ok (inventory, records)) :
    List.Forall₂ (fun node entry => Entry.ofCamera? node places = .ok (some entry))
      (ofRole .camera root.properDescendants) inventory.cameras := by
  obtain ⟨findings, slots, along, _, rfl⟩ := survey_trace success
  exact along.cameras

theorem leftovers_of_survey
    (success : survey root clips places shadows = .ok (inventory, records)) :
    inventory.leftovers = (ofRole .leftover root.properDescendants).map Node.label := by
  obtain ⟨findings, slots, along, _, rfl⟩ := survey_trace success
  exact along.leftovers

end OfSurvey

theorem survey_partitions {root : Node} {clips : List Clip} {places shadows : Value}
    {inventory : Inventory} {records : List Record}
    (success : survey root clips places shadows = .ok (inventory, records)) :
    inventory.Partitions places shadows root.properDescendants := by
  obtain ⟨findings, slots, along, _, rfl⟩ := survey_trace success
  refine {
    roles := along.roles
    meshes := along.meshes
    lights := along.lights
    cameras := along.cameras
    leftovers := along.leftovers
    total := along.total
    namesApart := ?_ }
  intro firstIndex secondIndex first second firstEntry secondEntry apart atFirst atSecond
    firstNameless secondNameless atFirstEntry atSecondEntry
  have firstDescribed := describes_of_getElem? along.meshes atFirst atFirstEntry
  have secondDescribed := describes_of_getElem? along.meshes atSecond atSecondEntry
  exact firstDescribed.name_ne secondDescribed firstNameless secondNameless apart

/-- Meshes and lights below nodes of every kind, two of the meshes without a usable
name. -/
def nestedScene : Node :=
  { kind := .mesh
    children := [
      { kind := .mesh, name := .text "..."
        children := [{ kind := .light, typeName := .text "SpotLight" }, { kind := .mesh }] },
      { kind := .light, typeName := .text "HemisphereLight"
        children := [{ kind := .camera, typeName := .text "PerspectiveCamera" }] },
      { kind := .other, typeName := .text "Bone"
        children := [{ children := [{ kind := .mesh, name := .text "Cube.001" }] }] }] }

theorem nestedScene_partitioned : ∃ inventory records,
    survey nestedScene [] = .ok (inventory, records) ∧
      inventory.meshes.map MeshEntry.name = ["Mesh_0", "Mesh_1", "Cube_001"] ∧
      inventory.Partitions Value.usualPlaces (.bool false) nestedScene.properDescendants := by
  have names : (survey nestedScene []).toOption.map
      (fun result => result.1.meshes.map MeshEntry.name) =
        some ["Mesh_0", "Mesh_1", "Cube_001"] := by decide +kernel
  obtain ⟨⟨inventory, records⟩, made, named⟩ := ok_of_map_toOption names
  exact ⟨inventory, records, made, named, survey_partitions made⟩

end Inventory

end SceneComponent
