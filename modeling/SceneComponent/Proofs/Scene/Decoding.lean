import Mathlib
import SceneComponent.Inventory.Extraction
import SceneComponent.Proofs.Scene.Preorder
import SceneComponent.Proofs.Scene.Readings
import SceneComponent.Proofs.Value.Rounding

/-!
# What a loaded scene holds

Reading a document settles the kinds of most values: names are texts, numbers are
doubles, vectors and colours are three doubles each, and a node has the payload of
its kind.  Two things are let through as they are: the parameters of geometries,
and undefined components of vectors and colours.
-/

set_option autoImplicit false

namespace SceneComponent

open Checked

def Value.IsText (value : Value) : Prop := ∃ content, value = .text content

def Value.IsDouble (value : Value) : Prop := ∃ number, value = .float number

theorem Value.IsDouble.isNumber {value : Value} (double : value.IsDouble) :
    Succeeds value.numberDouble := by
  obtain ⟨number, rfl⟩ := double
  exact succeeds_ok number

/-! ## Payloads -/

structure Geometry.IsDecoded (geometry : Geometry) : Prop where
  typeName : geometry.typeName.IsText
  parameters : ∃ table, geometry.parameters = some table

structure Material.IsDecoded (material : Material) : Prop where
  typeName : material.typeName.IsText
  color : material.color.IsTriple
  emissive : material.emissive.IsTriple
  roughness : material.roughness.IsDouble
  metalness : material.metalness.IsDouble
  clearcoat : material.clearcoat.IsDouble
  opacity : material.opacity.IsDouble

def Surface.IsDecoded : Surface → Prop
  | .none => True
  | .single material => material.IsDecoded
  | .several materials => ∀ material ∈ materials, ∃ known, material = some known ∧ known.IsDecoded

structure Light.IsDecoded (light : Light) : Prop where
  typeName : light.typeName.IsText
  color : light.color.IsTriple
  numbers : ∀ property : LightProperty, (property.value light).IsDouble

structure Camera.IsDecoded (camera : Camera) : Prop where
  typeName : camera.typeName.IsText
  numbers : ∀ property : CameraProperty, (property.value camera).IsDouble

theorem Value.isTriple_of_threeNumbers {value result : Value} {place : String}
    (success : value.threeNumbers place = .ok result) : result.IsTriple := by
  unfold threeNumbers at success
  split at success
  · cases success
    exact ⟨_, _, _, rfl⟩
  · cases success
  · cases success

theorem Color.isTriple_of_ofValue {value standard result : Value}
    (standardTriple : standard.IsTriple) (success : ofValue value standard = .ok result) :
    result.IsTriple := by
  unfold ofValue at success
  split at success
  · cases success
    exact standardTriple
  · cases success
  · cases success
    exact ⟨_, _, _, rfl⟩
  · split at success
    · cases success
      exact ⟨_, _, _, rfl⟩
    · cases success
  · exact Value.isTriple_of_threeNumbers success

theorem Color.isTriple_white : Color.white.IsTriple := ⟨_, _, _, rfl⟩

theorem Color.isTriple_black : Color.black.IsTriple := ⟨_, _, _, rfl⟩

theorem Entries.isDouble_of_doubleOr {entries : Entries} {key : String} {standIn result : Value}
    (success : entries.doubleOr key standIn = .ok result) : result.IsDouble := by
  obtain ⟨number, _, success⟩ := bind_eq_ok.mp success
  exact ⟨number, (return_eq_ok.mp success).symm⟩

theorem Material.isDecoded_of_ofValue {value : Value} {material : Material}
    (success : ofValue value = .ok material) : material.IsDecoded := by
  unfold ofValue at success
  obtain ⟨entries, _, success⟩ := bind_eq_ok.mp success
  obtain ⟨side, _, success⟩ := bind_eq_ok.mp success
  obtain ⟨color, colored, success⟩ := bind_eq_ok.mp success
  obtain ⟨emissive, emitting, success⟩ := bind_eq_ok.mp success
  obtain ⟨roughness, rough, success⟩ := bind_eq_ok.mp success
  obtain ⟨metalness, metallic, success⟩ := bind_eq_ok.mp success
  obtain ⟨clearcoat, coated, success⟩ := bind_eq_ok.mp success
  obtain ⟨opacity, opaqueness, success⟩ := bind_eq_ok.mp success
  cases return_eq_ok.mp success
  exact {
    typeName := ⟨_, rfl⟩
    color := Color.isTriple_of_ofValue Color.isTriple_white colored
    emissive := Color.isTriple_of_ofValue Color.isTriple_black emitting
    roughness := Entries.isDouble_of_doubleOr rough
    metalness := Entries.isDouble_of_doubleOr metallic
    clearcoat := Entries.isDouble_of_doubleOr coated
    opacity := Entries.isDouble_of_doubleOr opaqueness }

theorem Material.isDecoded_plain : Material.IsDecoded {} where
  typeName := ⟨_, rfl⟩
  color := Color.isTriple_white
  emissive := Color.isTriple_black
  roughness := ⟨_, rfl⟩
  metalness := ⟨_, rfl⟩
  clearcoat := ⟨_, rfl⟩
  opacity := ⟨_, rfl⟩

theorem Geometry.isDecoded_of_ofValue {value : Value} {node : String} {geometry : Geometry}
    (success : ofValue value node = .ok geometry) : geometry.IsDecoded := by
  unfold ofValue at success
  dsimp only at success
  split at success
  · obtain ⟨entries, _, success⟩ := bind_eq_ok.mp success
    obtain ⟨parameters, _, success⟩ := bind_eq_ok.mp success
    cases return_eq_ok.mp success
    exact ⟨⟨_, rfl⟩, parameters, rfl⟩
  · split at success
    · cases success
    · obtain ⟨entries, _, success⟩ := bind_eq_ok.mp success
      obtain ⟨parameters, _, success⟩ := bind_eq_ok.mp success
      cases return_eq_ok.mp success
      exact ⟨⟨_, rfl⟩, parameters, rfl⟩

theorem Surface.isDecoded_of_ofValue {value : Value} {surface : Surface}
    (success : ofValue value = .ok surface) : surface.IsDecoded := by
  unfold ofValue at success
  split at success
  · cases success
    trivial
  · obtain ⟨materials, read, success⟩ := bind_eq_ok.mp success
    cases return_eq_ok.mp success
    intro material member
    obtain ⟨known, inMaterials, rfl⟩ := List.mem_map.mp member
    obtain ⟨item, _, made⟩ := exists_of_mem_right (mapM_eq_ok.mp read) inMaterials
    exact ⟨known, rfl, Material.isDecoded_of_ofValue made⟩
  · obtain ⟨material, made, success⟩ := bind_eq_ok.mp success
    cases return_eq_ok.mp success
    exact Material.isDecoded_of_ofValue made

theorem Surface.IsDecoded.chosen {surface : Surface} (decoded : surface.IsDecoded) :
    (MaterialEntry.chosen surface).IsDecoded := by
  cases surface with
  | none => exact Material.isDecoded_plain
  | single material => exact decoded
  | several materials =>
      cases materials with
      | nil => exact Material.isDecoded_plain
      | cons first rest =>
          obtain ⟨known, rfl, knownDecoded⟩ := decoded first (List.mem_cons_self ..)
          exact knownDecoded

theorem Light.isDecoded_of_ofEntries {typeName : String} {entries : Entries} {light : Light}
    (success : ofEntries typeName entries = .ok light) : light.IsDecoded := by
  unfold ofEntries at success
  obtain ⟨color, colored, success⟩ := bind_eq_ok.mp success
  obtain ⟨intensity, intense, success⟩ := bind_eq_ok.mp success
  obtain ⟨distance, distant, success⟩ := bind_eq_ok.mp success
  obtain ⟨angle, angled, success⟩ := bind_eq_ok.mp success
  obtain ⟨penumbra, shaded, success⟩ := bind_eq_ok.mp success
  cases return_eq_ok.mp success
  refine ⟨⟨_, rfl⟩, Color.isTriple_of_ofValue Color.isTriple_white colored, ?_⟩
  intro property
  cases property with
  | intensity => exact Entries.isDouble_of_doubleOr intense
  | distance => exact Entries.isDouble_of_doubleOr distant
  | angle => exact Entries.isDouble_of_doubleOr angled
  | penumbra => exact Entries.isDouble_of_doubleOr shaded

theorem Camera.isDecoded_of_ofEntries {typeName : String} {entries : Entries} {camera : Camera}
    (success : ofEntries typeName entries = .ok camera) : camera.IsDecoded := by
  unfold ofEntries at success
  obtain ⟨fov, fovRead, success⟩ := bind_eq_ok.mp success
  obtain ⟨aspect, aspectRead, success⟩ := bind_eq_ok.mp success
  obtain ⟨near, nearRead, success⟩ := bind_eq_ok.mp success
  obtain ⟨far, farRead, success⟩ := bind_eq_ok.mp success
  obtain ⟨left, leftRead, success⟩ := bind_eq_ok.mp success
  obtain ⟨right, rightRead, success⟩ := bind_eq_ok.mp success
  obtain ⟨top, topRead, success⟩ := bind_eq_ok.mp success
  obtain ⟨bottom, bottomRead, success⟩ := bind_eq_ok.mp success
  cases return_eq_ok.mp success
  refine ⟨⟨_, rfl⟩, ?_⟩
  intro property
  cases property with
  | fov => exact Entries.isDouble_of_doubleOr fovRead
  | aspect => exact Entries.isDouble_of_doubleOr aspectRead
  | near => exact Entries.isDouble_of_doubleOr nearRead
  | far => exact Entries.isDouble_of_doubleOr farRead
  | left => exact Entries.isDouble_of_doubleOr leftRead
  | right => exact Entries.isDouble_of_doubleOr rightRead
  | top => exact Entries.isDouble_of_doubleOr topRead
  | bottom => exact Entries.isDouble_of_doubleOr bottomRead

/-! ## Nodes -/

namespace Node

def HasPayload (node : Node) : Prop :=
  match node.kind with
  | .mesh => (∃ geometry, node.geometry = some geometry ∧ geometry.IsDecoded) ∧
      node.surface.IsDecoded
  | .light => ∃ light, node.light = some light ∧ light.IsDecoded
  | .camera => ∃ camera, node.camera = some camera ∧ camera.IsDecoded
  | .group => True
  | .other => True

structure IsDecoded (node : Node) : Prop where
  name : node.name.IsText
  position : node.position.IsTriple
  rotation : node.rotation.IsTriple
  scale : node.scale.IsTriple
  payload : node.HasPayload

theorem isTriple_of_rotationOf {place : String} {entries : Entries} {rotation : Value}
    (success : rotationOf place entries = .ok rotation) : rotation.IsTriple := by
  unfold rotationOf at success
  split at success
  · obtain ⟨array, _, success⟩ := bind_eq_ok.mp success
    split at success
    · exact ⟨_, _, _, (return_eq_ok.mp success).symm⟩
    · cases success
  · exact Value.isTriple_of_threeNumbers success

theorem withPayload_spec {place typeName : String} {entries : Entries} {bare node : Node}
    (success : withPayload place typeName entries bare = .ok node) :
    node.HasPayload ∧ node.rotation = bare.rotation := by
  unfold withPayload at success
  unfold HasPayload
  cases kind : bare.kind with
  | mesh =>
      simp only [kind] at success
      obtain ⟨geometry, shaped, success⟩ := bind_eq_ok.mp success
      obtain ⟨surface, covered, success⟩ := bind_eq_ok.mp success
      cases return_eq_ok.mp success
      simp only [and_true]
      exact ⟨⟨geometry, rfl, Geometry.isDecoded_of_ofValue shaped⟩,
        Surface.isDecoded_of_ofValue covered⟩
  | light =>
      simp only [kind] at success
      obtain ⟨light, lit, success⟩ := bind_eq_ok.mp success
      cases return_eq_ok.mp success
      simp only [and_true]
      exact ⟨light, rfl, Light.isDecoded_of_ofEntries lit⟩
  | camera =>
      simp only [kind] at success
      obtain ⟨camera, seen, success⟩ := bind_eq_ok.mp success
      cases return_eq_ok.mp success
      simp only [and_true]
      exact ⟨camera, rfl, Camera.isDecoded_of_ofEntries seen⟩
  | group =>
      simp only [kind] at success
      cases success
      simp [kind]
  | other =>
      simp only [kind] at success
      cases success
      simp [kind]

/-- The step lemma of reading: a node without its children is decoded. -/
theorem isDecoded_of_alone {place : String} {entries : Entries} {node : Node}
    (success : alone place entries = .ok node) : node.IsDecoded := by
  unfold alone at success
  obtain ⟨rotation, turned, success⟩ := bind_eq_ok.mp success
  obtain ⟨filled, payload, success⟩ := bind_eq_ok.mp success
  obtain ⟨position, placed, success⟩ := bind_eq_ok.mp success
  obtain ⟨scale, scaled, success⟩ := bind_eq_ok.mp success
  obtain ⟨hasPayload, sameRotation⟩ := withPayload_spec payload
  cases return_eq_ok.mp success
  exact {
    name := ⟨_, rfl⟩
    position := Value.isTriple_of_threeNumbers placed
    rotation := by
      rw [sameRotation]
      exact isTriple_of_rotationOf turned
    scale := Value.isTriple_of_threeNumbers scaled
    payload := hasPayload }

theorem IsDecoded.withChildren {node : Node} (decoded : node.IsDecoded) (children : List Node) :
    IsDecoded { node with children } :=
  ⟨decoded.name, decoded.position, decoded.rotation, decoded.scale, decoded.payload⟩

/-- The run lemma of reading: every node of a tree that was read is decoded. -/
theorem isDecoded_of_read {place : String} {value : Value} {node : Node}
    (success : read place value = .ok node) : ∀ below ∈ node.preorder, below.IsDecoded := by
  have step : ∀ (place : String) (entries : Entries) (bare : Node),
      (∀ part ∈ ownReadings place entries, True) → alone place entries = .ok bare →
        bare.IsDecoded := fun _ _ _ _ made => isDecoded_of_alone made
  exact forall_mem_preorder_of_read (fun _ children decoded => decoded.withChildren children) step
    (fun _ _ => trivial) success

end Node

/-! ## Models -/

namespace Model

theorem clip_isText_of_clipsFrom {identity : Nat} {values : List Value} {clips : List Clip}
    (success : clipsFrom identity values = .ok clips) : ∀ clip ∈ clips, clip.name.IsText := by
  induction values generalizing identity clips with
  | nil =>
      cases success
      simp
  | cons value rest inductionHypothesis =>
      rw [clipsFrom] at success
      obtain ⟨clip, made, success⟩ := bind_eq_ok.mp success
      obtain ⟨others, remaining, success⟩ := bind_eq_ok.mp success
      cases return_eq_ok.mp success
      refine List.forall_mem_cons.mpr ⟨?_, inductionHypothesis remaining⟩
      unfold clipOf at made
      split at made
      · obtain ⟨duration, _, made⟩ := bind_eq_ok.mp made
        cases return_eq_ok.mp made
        exact ⟨_, rfl⟩
      · cases made

/-- A loaded model: every node is decoded and every clip has a name. -/
theorem isDecoded_of_ofValue {document : Value} {model : Model}
    (success : ofValue document = .ok model) :
    (∀ node ∈ model.scene.properDescendants, node.IsDecoded) ∧
      ∀ clip ∈ model.clips, clip.name.IsText := by
  unfold ofValue at success
  split at success
  · split at success
    · obtain ⟨scene, read, success⟩ := bind_eq_ok.mp success
      obtain ⟨clips, listed, success⟩ := bind_eq_ok.mp success
      cases return_eq_ok.mp success
      have decoded := Node.isDecoded_of_read read
      rw [Node.preorder_eq] at decoded
      refine ⟨(List.forall_mem_cons.mp decoded).2, ?_⟩
      unfold clipsOf at listed
      split at listed
      · split at listed
        · exact clip_isText_of_clipsFrom listed
        · cases listed
      · cases listed
        simp
    · cases success
  · cases success

end Model

end SceneComponent
