import SceneComponent.Inventory.Extraction

/-!
# Surveys

A survey goes once through the nodes below the root of a scene, in pre-order,
and notes what it finds at each of them.  The inventory is read off the
findings, and the records of the survey are those of its findings.
-/

set_option autoImplicit false

namespace SceneComponent

inductive Finding where
  | mesh (entry : MeshEntry)
  | light (entry : Entry)
  | camera (entry : Entry)
  | leftover (label : String)
  | container

namespace Finding

def mesh? : Finding → Option MeshEntry
  | .mesh entry => some entry
  | _ => none

def light? : Finding → Option Entry
  | .light entry => some entry
  | _ => none

def camera? : Finding → Option Entry
  | .camera entry => some entry
  | _ => none

def leftover? : Finding → Option String
  | .leftover label => some label
  | _ => none

end Finding

structure Visit where
  finding : Finding
  records : List Record := []

namespace Visit

/-- A node that no entry models; its label is recorded. -/
def leftover (kind : String) (node : Node) : Visit :=
  ⟨.leftover node.label,
    [.detail ("Unsupported " ++ kind ++ " " ++ node.label ++
      " left to the scene primitive")]⟩

/-- The visit to a node; the meshes before it are counted. -/
def ofNode (places shadows : Value) (meshCount : Nat) (node : Node) :
    Except Failure Visit :=
  match node.kind with
  | .mesh => do
      let (entry, records) ← MeshEntry.ofNode node meshCount places shadows
      return ⟨.mesh entry, records⟩
  | .light => do
      return (← Entry.ofLight? node places).elim (leftover "light" node)
        fun entry => ⟨.light entry, []⟩
  | .camera => do
      return (← Entry.ofCamera? node places).elim (leftover "camera" node)
        fun entry => ⟨.camera entry, []⟩
  | .group => .ok ⟨.container, []⟩
  | .other => .ok (leftover "node" node)

def ofNodes (places shadows : Value) : (meshCount : Nat) → List Node →
    Except Failure (List Visit)
  | _, [] => .ok []
  | meshCount, node :: rest => do
      let visit ← ofNode places shadows meshCount node
      let others ← ofNodes places shadows
        (if node.kind = .mesh then meshCount + 1 else meshCount) rest
      return visit :: others

end Visit

namespace Inventory

def ofFindings (findings : List Finding) (slots : List Clip.Slot) : Inventory :=
  let meshes := findings.filterMap Finding.mesh?
  let lights := findings.filterMap Finding.light?
  let cameras := findings.filterMap Finding.camera?
  { meshes, lights, cameras
    clipNames := slots.map fun slot => .text slot.name
    clipIndices := slots.map fun slot => .int (Int.ofNat slot.index)
    references := referencesOf meshes lights cameras (!slots.isEmpty)
    leftovers := findings.filterMap Finding.leftover? }

def survey (root : Node) (clips : List Clip) (places : Value := Value.usualPlaces)
    (shadows : Value := .bool false) : Except Failure (Inventory × List Record) := do
  let visits ← Visit.ofNodes places shadows 0 root.descendants
  let slots ← Clip.slots clips
  return (ofFindings (visits.map Visit.finding) slots, visits.flatMap Visit.records)

end Inventory

end SceneComponent
