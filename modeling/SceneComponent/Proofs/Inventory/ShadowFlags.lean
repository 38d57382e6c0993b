import Mathlib
import SceneComponent.Proofs.Inventory.Partition
import SceneComponent.Proofs.Scene.ShadowFlags

/-!
# Surveys and flags of shadows

The option of shadows and the flags of the nodes reach an inventory only as the flags of its
meshes.  So scenes that are one without flags have inventories that are one without flags,
whatever the option is; and where the option is set, it stands for all flags.
-/

set_option autoImplicit false

namespace SceneComponent

open Checked

/-! ## Nodes of a scene without flags -/

namespace Node

mutual

theorem preorder_unflagged : (node : Node) → node.unflagged.preorder =
    node.preorder.map unflagged
  | node@{ children := children, .. } => by
      rw [preorder_eq, preorder_eq, List.map_cons, ← preorderAll_unflagged children]
      rfl

theorem preorderAll_unflagged : (nodes : List Node) → preorderAll (unflaggedAll nodes) =
    (preorderAll nodes).map unflagged
  | [] => rfl
  | node :: rest => by
      rw [unflaggedAll, preorderAll, preorderAll, List.map_append, preorder_unflagged node,
        preorderAll_unflagged rest]

end

theorem properDescendants_unflagged (node : Node) :
    node.unflagged.properDescendants = node.properDescendants.map unflagged := by
  rw [properDescendants, properDescendants, ← preorderAll_unflagged, unflagged_eq]

/-- A node by itself, without its flags and without the nodes below it. -/
def core (node : Node) : Node := { node.dropFlags with children := [] }

theorem core_unflagged (node : Node) : node.unflagged.core = node.core := by
  cases node; rfl

/-- Scenes that are one without flags have the same nodes but for flags. -/
theorem map_core_of_unflagged {first second : Node}
    (alike : first.unflagged = second.unflagged) :
    first.properDescendants.map core = second.properDescendants.map core := by
  have ofUnflagged : ∀ node : Node,
      node.properDescendants.map core = node.unflagged.properDescendants.map core := by
    intro node
    rw [properDescendants_unflagged, List.map_map]
    exact List.map_congr_left fun node _ => (core_unflagged node).symm
  rw [ofUnflagged first, alike, ← ofUnflagged second]

end Node

/-! ## What is found without flags -/

def MeshEntry.unflagged (entry : MeshEntry) : MeshEntry :=
  { entry with castShadow := .bool false, receiveShadow := .bool false }

def Finding.unflagged : Finding → Finding
  | .mesh entry => .mesh entry.unflagged
  | finding => finding

def Visit.unflagged (visit : Visit) : Visit := { visit with finding := visit.finding.unflagged }

def Inventory.unflagged (inventory : Inventory) : Inventory :=
  { inventory with meshes := inventory.meshes.map MeshEntry.unflagged }

theorem MeshEntry.ofNode_core (places shadows : Value) (index : Nat) (node : Node) :
    (ofNode node index places shadows).map (Prod.map unflagged id) =
      (ofNode node.core index places (.bool false)).map (Prod.map unflagged id) := by
  unfold ofNode
  simp only [mapped_bind]
  rfl

namespace Visit

variable (places shadows : Value)

/-- The step lemma: a visit depends on the node by itself, but for the flags. -/
theorem ofNode_core (meshCount : Nat) (node : Node) :
    (ofNode places shadows meshCount node).map unflagged =
      (ofNode places (.bool false) meshCount node.core).map unflagged := by
  have sameKind : node.core.kind = node.kind := rfl
  unfold ofNode
  rw [sameKind]
  cases node.kind with
  | mesh =>
      have entries := MeshEntry.ofNode_core places shadows meshCount node
      have visits : ∀ outcome : Except Failure (MeshEntry × List Record),
          (do let made ← outcome; return (⟨.mesh made.1, made.2⟩ : Visit)).map unflagged =
            (outcome.map (Prod.map MeshEntry.unflagged id)).map fun made =>
              ⟨.mesh made.1, made.2⟩ := by
        intro outcome
        cases outcome <;> rfl
      exact (visits _).trans ((congrArg _ entries).trans (visits _).symm)
  | _ => rfl

/-- The run lemma. -/
theorem ofNodes_core (meshCount : Nat) (nodes : List Node) :
    (ofNodes places shadows meshCount nodes).map (List.map unflagged) =
      (ofNodes places (.bool false) meshCount (nodes.map Node.core)).map
        (List.map unflagged) := by
  induction nodes generalizing meshCount with
  | nil => rfl
  | cons node rest inductionHypothesis =>
      have split : ∀ (visit : Except Failure Visit) (others : Except Failure (List Visit)),
          (do let first ← visit; let later ← others; return first :: later).map
              (List.map unflagged) =
            (do
              let first ← visit.map unflagged
              let later ← others.map (List.map unflagged)
              return first :: later) := by
        intro visit others
        cases visit <;> cases others <;> rfl
      rw [List.map_cons, ofNodes, ofNodes, split, split, ofNode_core, inductionHypothesis]
      rfl

end Visit

/-! ## Inventories without flags -/

namespace Inventory

theorem unflagged_ofFindings (findings : List Finding) (slots : List Clip.Slot) :
    (ofFindings findings slots).unflagged =
      ofFindings (findings.map Finding.unflagged) slots := by
  have meshes : (findings.map Finding.unflagged).filterMap Finding.mesh? =
      (findings.filterMap Finding.mesh?).map MeshEntry.unflagged := by
    rw [List.filterMap_map, List.map_filterMap]
    refine List.filterMap_congr fun finding _ => ?_
    cases finding <;> rfl
  have others : ∀ {Item : Type} (select : Finding → Option Item),
      (∀ entry, select (.mesh entry) = none) →
        (findings.map Finding.unflagged).filterMap select = findings.filterMap select := by
    intro Item select noMesh
    rw [List.filterMap_map]
    refine List.filterMap_congr fun finding _ => ?_
    cases finding with
    | mesh entry => exact (noMesh _).trans (noMesh _).symm
    | _ => rfl
  have references : ∀ entries : List MeshEntry,
      (entries.map MeshEntry.unflagged).flatMap meshReferences =
        entries.flatMap meshReferences := fun entries => List.flatMap_map ..
  rw [ofFindings, ofFindings, meshes, others Finding.light? fun _ => rfl,
    others Finding.camera? fun _ => rfl, others Finding.leftover? fun _ => rfl]
  simp only [unflagged, referencesOf, references]

/-- What a survey finds without flags, and its records. -/
def bare (found : Inventory × List Record) : Inventory × List Record :=
  (found.1.unflagged, found.2)

theorem survey_core (root : Node) (clips : List Clip) (places shadows : Value) :
    (survey root clips places shadows).map bare =
      (do
        let visits ← (Visit.ofNodes places (.bool false) 0
          (root.properDescendants.map Node.core)).map (List.map Visit.unflagged)
        let slots ← Clip.slots clips
        return (ofFindings (visits.map Visit.finding) slots, visits.flatMap Visit.records)) := by
  rw [← Visit.ofNodes_core places shadows, survey, Node.descendants_eq_proper, mapped_bind,
    bind_mapped]
  refine congrArg _ (funext fun visits => ?_)
  rw [mapped_bind]
  refine congrArg _ (funext fun slots => ?_)
  rw [map_return, bare, unflagged_ofFindings, List.map_map, List.map_map, List.flatMap_map]
  rfl

/-- Scenes that are one without flags are surveyed alike but for flags, whatever the
option of shadows is. -/
theorem survey_alike {first second : Node} (alike : first.unflagged = second.unflagged)
    (clips : List Clip) (places shadows others : Value) :
    (survey first clips places shadows).map bare =
      (survey second clips places others).map bare := by
  rw [survey_core, survey_core, Node.map_core_of_unflagged alike]

theorem unflagged_eq_of_surveys {first second : Node} {clips : List Clip}
    {places shadows others : Value} {inventory found : Inventory}
    {records foundRecords : List Record} (alike : first.unflagged = second.unflagged)
    (surveyed : survey first clips places shadows = .ok (inventory, records))
    (surveyedToo : survey second clips places others = .ok (found, foundRecords)) :
    inventory.unflagged = found.unflagged := by
  have surveys := survey_alike alike clips places shadows others
  rw [surveyed, surveyedToo] at surveys
  exact congrArg Prod.fst (Except.ok.inj surveys)

/-- Whether all meshes cast and receive shadows. -/
def IsShaded (inventory : Inventory) : Prop :=
  ∀ entry ∈ inventory.meshes,
    entry.castShadow.isTruthy = true ∧ entry.receiveShadow.isTruthy = true

theorem isShaded_of_survey {root : Node} {clips : List Clip} {places shadows : Value}
    {inventory : Inventory} {records : List Record}
    (success : survey root clips places shadows = .ok (inventory, records))
    (shaded : shadows.isTruthy = true) : inventory.IsShaded := by
  intro entry member
  obtain ⟨placed, _, described⟩ := exists_of_mem_right (meshes_of_survey success) member
  have given : ∀ flag : Value, shadows.givenOr flag = shadows := fun flag => if_pos shaded
  rw [described.castShadow, described.receiveShadow, given, given]
  exact ⟨shaded, shaded⟩

end Inventory

end SceneComponent
