import Mathlib
import SceneComponent.Inventory.Survey
import SceneComponent.Proofs.Checked
import SceneComponent.Proofs.Names
import SceneComponent.Proofs.Scene.Preorder

/-!
# Roles of nodes

What a node contributes to an inventory is settled by its role: the kind of the
node and, for lights and cameras, the kind of the payload.  `Visit.ofNode_finds`
is the step lemma of a survey and `Visit.ofNodes_trace` its run lemma; what holds
of a whole inventory is derived from the trace.
-/

set_option autoImplicit false

namespace SceneComponent

open Checked

inductive Role where
  | mesh
  | light
  | camera
  | leftover
  | container
  deriving DecidableEq, Repr

namespace Node

/-- The role of a node.  A light or a camera whose kind is not modelled is left
over; its payload has to have a kind at all. -/
def role? (node : Node) : Except Failure Role :=
  match node.kind with
  | .mesh => .ok .mesh
  | .light => do
      return if (← (Entry.lightOf node).kind) = .other then .leftover else .light
  | .camera => do
      return if (← (Entry.cameraOf node).kind) = .other then .leftover else .camera
  | .group => .ok .container
  | .other => .ok .leftover

def plays (role : Role) (node : Node) : Bool :=
  match node.role? with
  | .ok played => played == role
  | .error _ => false

theorem plays_iff {role : Role} {node : Node} :
    node.plays role = true ↔ node.role? = .ok role := by
  unfold plays
  cases node.role? with
  | error failure => simp
  | ok played => simp

theorem plays_eq_decide {played : Role} {node : Node} (settled : node.role? = .ok played)
    (role : Role) : node.plays role = decide (played = role) := by
  simp only [plays, settled]
  rfl

theorem role_of_light {node : Node} {kind : LightKind} (isLight : node.kind = .light)
    (payload : (Entry.lightOf node).kind = .ok kind) :
    node.role? = .ok (if kind = .other then .leftover else .light) := by
  simp only [role?, isLight, payload]
  rfl

theorem role_of_camera {node : Node} {kind : CameraKind} (isCamera : node.kind = .camera)
    (payload : (Entry.cameraOf node).kind = .ok kind) :
    node.role? = .ok (if kind = .other then .leftover else .camera) := by
  simp only [role?, isCamera, payload]
  rfl

theorem kind_of_role_mesh {node : Node} (settled : node.role? = .ok .mesh) :
    node.kind = .mesh := by
  unfold role? at settled
  cases kind : node.kind with
  | mesh => rfl
  | light =>
      simp only [kind] at settled
      obtain ⟨payload, _, settled⟩ := bind_eq_ok.mp settled
      have chosen := return_eq_ok.mp settled
      split at chosen <;> cases chosen
  | camera =>
      simp only [kind] at settled
      obtain ⟨payload, _, settled⟩ := bind_eq_ok.mp settled
      have chosen := return_eq_ok.mp settled
      split at chosen <;> cases chosen
  | group => simp [kind] at settled
  | other => simp [kind] at settled

theorem role_container_iff {node : Node} {role : Role} (settled : node.role? = .ok role) :
    role = .container ↔ node.kind = .group := by
  unfold role? at settled
  cases kind : node.kind with
  | mesh =>
      simp only [kind] at settled
      simp [← Except.ok.inj settled]
  | light =>
      simp only [kind] at settled
      obtain ⟨payload, _, settled⟩ := bind_eq_ok.mp settled
      rw [← return_eq_ok.mp settled]
      split <;> simp
  | camera =>
      simp only [kind] at settled
      obtain ⟨payload, _, settled⟩ := bind_eq_ok.mp settled
      rw [← return_eq_ok.mp settled]
      split <;> simp
  | group =>
      simp only [kind] at settled
      simp [← Except.ok.inj settled]
  | other =>
      simp only [kind] at settled
      simp [← Except.ok.inj settled]

end Node

/-- What an entry of a mesh says of a node that is met after `index` other
meshes: its identifier, its own geometry, material and transform, and the flags
of its shadows. -/
structure MeshEntry.Describes (places shadows : Value) (index : Nat) (node : Node)
    (entry : MeshEntry) : Prop where
  name : Identifier.ofValue node.name (.text "Mesh") (.int index) = .ok entry.name
  geometry : ∃ records,
    GeometryEntry.ofGeometry (node.geometry.getD {}) places = .ok (entry.geometry, records)
  material : ∃ records,
    MaterialEntry.ofSurface node.surface places = .ok (entry.material, records)
  transform : Transform.ofNode node places = .ok entry.transform
  castShadow : entry.castShadow = shadows.givenOr node.castShadow
  receiveShadow : entry.receiveShadow = shadows.givenOr node.receiveShadow

def Role.counted (role : Role) (meshCount : Nat) : Nat :=
  if role = .mesh then meshCount + 1 else meshCount

namespace Finding

/-- What is found at a node of a role that is met after some meshes. -/
inductive FoundAt (places shadows : Value) (meshCount : Nat) (node : Node) :
    Role → Finding → Prop where
  | mesh {entry : MeshEntry} (described : entry.Describes places shadows meshCount node) :
      FoundAt places shadows meshCount node .mesh (.mesh entry)
  | light {entry : Entry} (given : Entry.ofLight? node places = .ok (some entry)) :
      FoundAt places shadows meshCount node .light (.light entry)
  | camera {entry : Entry} (given : Entry.ofCamera? node places = .ok (some entry)) :
      FoundAt places shadows meshCount node .camera (.camera entry)
  | leftover : FoundAt places shadows meshCount node .leftover (.leftover node.label)
  | container : FoundAt places shadows meshCount node .container .container

/-- What is found along a list of nodes, the meshes being counted. -/
inductive FoundAlong (places shadows : Value) : Nat → List Node → List Finding → Prop where
  | nil (meshCount : Nat) : FoundAlong places shadows meshCount [] []
  | cons {meshCount : Nat} {node : Node} {role : Role} {finding : Finding}
      {nodes : List Node} {findings : List Finding}
      (settled : node.role? = .ok role)
      (found : FoundAt places shadows meshCount node role finding)
      (others : FoundAlong places shadows (role.counted meshCount) nodes findings) :
      FoundAlong places shadows meshCount (node :: nodes) (finding :: findings)

end Finding

/-! ## The step of a survey -/

theorem MeshEntry.describes_of_ofNode {node : Node} {index : Nat} {places shadows : Value}
    {entry : MeshEntry} {records : List Record}
    (success : MeshEntry.ofNode node index places shadows = .ok (entry, records)) :
    entry.Describes places shadows index node := by
  unfold MeshEntry.ofNode at success
  obtain ⟨name, named, success⟩ := bind_eq_ok.mp success
  obtain ⟨⟨geometry, geometryRecords⟩, shaped, success⟩ := bind_eq_ok.mp success
  obtain ⟨⟨material, materialRecords⟩, covered, success⟩ := bind_eq_ok.mp success
  obtain ⟨transform, placed, success⟩ := bind_eq_ok.mp success
  cases return_eq_ok.mp success
  exact {
    name := Identifier.ofValue_eq_ofName index named
    geometry := ⟨geometryRecords, shaped⟩
    material := ⟨materialRecords, covered⟩
    transform := placed
    castShadow := rfl
    receiveShadow := rfl }

theorem GeometryKind.argumentNames?_eq_none {kind : GeometryKind} :
    kind.argumentNames? = none ↔ kind = .other := by
  cases kind <;> simp [argumentNames?]

/-- A geometry of a kind with arguments has them all, and nothing is recorded; any other has
none, which is recorded. -/
theorem GeometryEntry.ofGeometry_inversion {geometry : Geometry} {places : Value}
    {entry : GeometryEntry} {records : List Record}
    (success : ofGeometry geometry places = .ok (entry, records)) :
    ∃ typeName, geometry.typeName = .text typeName ∧ entry.tag = tagOf typeName ∧
      ((GeometryKind.ofTypeName typeName = .other ∧ entry.arguments = [] ∧
          records = [bareRecord typeName]) ∨
        ∃ names, (GeometryKind.ofTypeName typeName).argumentNames? = some names ∧
          names.mapM (argument (GeometryKind.ofTypeName typeName) geometry places) =
            .ok entry.arguments ∧ records = []) := by
  unfold ofGeometry at success
  obtain ⟨typeName, isText, success⟩ := bind_eq_ok.mp success
  refine ⟨typeName, Value.toText_eq_ok.mp isText, ?_⟩
  dsimp only at success
  split at success
  · next names known =>
      obtain ⟨arguments, listed, success⟩ := bind_eq_ok.mp success
      cases return_eq_ok.mp success
      exact ⟨rfl, .inr ⟨names, known, listed, rfl⟩⟩
  · next unknown =>
      cases return_eq_ok.mp success
      exact ⟨rfl, .inl ⟨GeometryKind.argumentNames?_eq_none.mp unknown, rfl, rfl⟩⟩

theorem LightKind.properties?_eq_none {kind : LightKind} :
    kind.properties? = none ↔ kind = .other := by
  cases kind <;> simp [properties?]

theorem CameraKind.properties?_eq_none {kind : CameraKind} :
    kind.properties? = none ↔ kind = .other := by
  cases kind <;> simp [properties?]

theorem Entry.kind_of_ofLight? {node : Node} {places : Value} {found : Option Entry}
    (success : Entry.ofLight? node places = .ok found) :
    ∃ kind, (Entry.lightOf node).kind = .ok kind ∧ (kind = .other ↔ found = none) := by
  unfold Entry.ofLight? at success
  obtain ⟨kind, settled, success⟩ := bind_eq_ok.mp success
  refine ⟨kind, settled, LightKind.properties?_eq_none.symm.trans ?_⟩
  cases modelled : kind.properties? with
  | none =>
      rw [modelled] at success
      cases return_eq_ok.mp success
      exact iff_of_true rfl rfl
  | some names =>
      simp only [modelled] at success
      obtain ⟨numbers, _, success⟩ := bind_eq_ok.mp success
      obtain ⟨color, _, success⟩ := bind_eq_ok.mp success
      obtain ⟨transform, _, success⟩ := bind_eq_ok.mp success
      cases return_eq_ok.mp success
      simp

theorem Entry.kind_of_ofCamera? {node : Node} {places : Value} {found : Option Entry}
    (success : Entry.ofCamera? node places = .ok found) :
    ∃ kind, (Entry.cameraOf node).kind = .ok kind ∧ (kind = .other ↔ found = none) := by
  unfold Entry.ofCamera? at success
  obtain ⟨kind, settled, success⟩ := bind_eq_ok.mp success
  refine ⟨kind, settled, CameraKind.properties?_eq_none.symm.trans ?_⟩
  cases modelled : kind.properties? with
  | none =>
      rw [modelled] at success
      cases return_eq_ok.mp success
      exact iff_of_true rfl rfl
  | some names =>
      simp only [modelled] at success
      obtain ⟨properties, _, success⟩ := bind_eq_ok.mp success
      obtain ⟨transform, _, success⟩ := bind_eq_ok.mp success
      cases return_eq_ok.mp success
      simp

namespace Visit

open Finding

theorem ofNode_finds {places shadows : Value} {meshCount : Nat} {node : Node} {visit : Visit}
    (success : ofNode places shadows meshCount node = .ok visit) :
    ∃ role, node.role? = .ok role ∧
      FoundAt places shadows meshCount node role visit.finding ∧
      (if node.kind = .mesh then meshCount + 1 else meshCount) = role.counted meshCount := by
  unfold ofNode at success
  cases kind : node.kind with
  | mesh =>
      simp only [kind] at success
      obtain ⟨⟨entry, records⟩, made, success⟩ := bind_eq_ok.mp success
      cases return_eq_ok.mp success
      exact ⟨.mesh, by rw [Node.role?, kind], .mesh (MeshEntry.describes_of_ofNode made), rfl⟩
  | light =>
      simp only [kind] at success
      obtain ⟨found, made, success⟩ := bind_eq_ok.mp success
      obtain ⟨payload, settled, unmodelled⟩ := Entry.kind_of_ofLight? made
      cases return_eq_ok.mp success
      cases found with
      | none =>
          exact ⟨.leftover, by rw [Node.role_of_light kind settled, if_pos (unmodelled.mpr rfl)],
            .leftover, rfl⟩
      | some entry =>
          have modelled : payload ≠ .other := fun other => by cases unmodelled.mp other
          exact ⟨.light, by rw [Node.role_of_light kind settled, if_neg modelled],
            .light made, rfl⟩
  | camera =>
      simp only [kind] at success
      obtain ⟨found, made, success⟩ := bind_eq_ok.mp success
      obtain ⟨payload, settled, unmodelled⟩ := Entry.kind_of_ofCamera? made
      cases return_eq_ok.mp success
      cases found with
      | none =>
          exact ⟨.leftover, by rw [Node.role_of_camera kind settled, if_pos (unmodelled.mpr rfl)],
            .leftover, rfl⟩
      | some entry =>
          have modelled : payload ≠ .other := fun other => by cases unmodelled.mp other
          exact ⟨.camera, by rw [Node.role_of_camera kind settled, if_neg modelled],
            .camera made, rfl⟩
  | group =>
      simp only [kind] at success
      cases success
      exact ⟨.container, by rw [Node.role?, kind], .container, rfl⟩
  | other =>
      simp only [kind] at success
      cases success
      exact ⟨.leftover, by rw [Node.role?, kind], .leftover, rfl⟩

theorem ofNodes_trace {places shadows : Value} {meshCount : Nat} {nodes : List Node}
    {visits : List Visit} (success : ofNodes places shadows meshCount nodes = .ok visits) :
    FoundAlong places shadows meshCount nodes (visits.map Visit.finding) := by
  induction nodes generalizing meshCount visits with
  | nil =>
      cases success
      exact .nil meshCount
  | cons node rest inductionHypothesis =>
      unfold ofNodes at success
      obtain ⟨visit, visited, success⟩ := bind_eq_ok.mp success
      obtain ⟨others, remaining, success⟩ := bind_eq_ok.mp success
      cases return_eq_ok.mp success
      obtain ⟨role, settled, found, counted⟩ := ofNode_finds visited
      rw [counted] at remaining
      exact .cons settled found (inductionHypothesis remaining)

end Visit

namespace Inventory

/-- The inventory of a survey is read off what is found along the nodes. -/
theorem survey_trace {root : Node} {clips : List Clip} {places shadows : Value}
    {inventory : Inventory} {records : List Record}
    (success : survey root clips places shadows = .ok (inventory, records)) :
    ∃ findings slots, Finding.FoundAlong places shadows 0 root.properDescendants findings ∧
      Clip.slots clips = .ok slots ∧ inventory = ofFindings findings slots := by
  unfold survey at success
  obtain ⟨visits, visited, success⟩ := bind_eq_ok.mp success
  obtain ⟨slots, played, success⟩ := bind_eq_ok.mp success
  cases return_eq_ok.mp success
  rw [Node.descendants_eq_proper] at visited
  exact ⟨_, slots, Visit.ofNodes_trace visited, played, rfl⟩

end Inventory

end SceneComponent
