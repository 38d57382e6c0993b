import Mathlib
import SceneComponent.Proofs.Component.TemplateText

/-!
# Names of inventories

The names of meshes and clips are made identifiers, and the tags of lights, cameras and
materials are words of the library.  The tag of a geometry alone takes over a type name of
the scene, with nothing but one word removed, so that the names of an inventory are all
identifiers exactly when these type names are harmless.
-/

set_option autoImplicit false

namespace SceneComponent

open Checked Text

def IsIdentifier (name : String) : Prop := Identifier.spells name.toList = true

instance : DecidablePred IsIdentifier := fun name =>
  inferInstanceAs (Decidable (Identifier.spells name.toList = true))

theorem isIdentifier_frameworkName {rest : String}
    (restPlain : ∀ c ∈ rest.toList, Identifier.isRest c = true) :
    IsIdentifier (tagStem ++ rest) := by
  have stem : Identifier.spells tagStem.toList = true := rfl
  rw [IsIdentifier, String.toList_append]
  exact Identifier.spells_append stem restPlain

theorem isIdentifier_of_mem_engineConstants {name : String}
    (engine : name ∈ Imports.engineConstants) : IsIdentifier name := by
  revert name
  decide

/-- The tag of a geometry is an identifier exactly when what it takes over of the type name
is made of letters, digits and underscores. -/
theorem isIdentifier_tagOf_iff {typeName : String} :
    IsIdentifier (GeometryEntry.tagOf typeName) ↔ IsTypeName (Geometry.stemOf typeName) := by
  constructor
  · intro spelled c member
    refine Identifier.isRest_of_spells spelled c ?_
    rw [GeometryEntry.tagOf, String.toList_append, String.toList_append]
    exact List.mem_append_left _ (List.mem_append_right _ member)
  · intro plain
    have tail : ∀ c ∈ (Geometry.stemOf typeName ++ "Geometry").toList,
        Identifier.isRest c = true := by
      rw [String.toList_append]
      exact List.forall_mem_append.mpr ⟨plain, List.all_eq_true.mp rfl⟩
    rw [GeometryEntry.tagOf, String.append_assoc]
    exact isIdentifier_frameworkName tail

namespace Inventory

/-- Whether every name of an inventory is an identifier. -/
structure HoldsIdentifiers (inventory : Inventory) : Prop where
  meshes : ∀ entry ∈ inventory.meshes, IsIdentifier entry.name
  clips : ∀ value ∈ inventory.clipNames, ∃ name, value = .text name ∧ IsIdentifier name
  tags : ∀ tag ∈ inventory.entryTags, IsIdentifier tag
  references : ∀ name ∈ inventory.references, IsIdentifier name

/-- The names that are identifiers in any case: all of them but the tags of geometries. -/
structure NamesOthers (inventory : Inventory) : Prop where
  meshes : ∀ entry ∈ inventory.meshes, IsIdentifier entry.name
  clips : ∀ value ∈ inventory.clipNames, ∃ name, value = .text name ∧ IsIdentifier name
  tags : ∀ tag ∈ inventory.entryTags,
    IsIdentifier tag ∨ ∃ entry ∈ inventory.meshes, tag = entry.geometry.tag
  references : ∀ name ∈ inventory.references,
    IsIdentifier name ∨ ∃ entry ∈ inventory.meshes, name = entry.geometry.tag

variable {IsType : String → Prop} {inventory : Inventory}

theorem IsRegular.namesOthers (regular : inventory.IsRegular IsType) : inventory.NamesOthers := by
  have tags : ∀ tag ∈ inventory.entryTags,
      IsIdentifier tag ∨ ∃ entry ∈ inventory.meshes, tag = entry.geometry.tag := by
    intro tag member
    refine (regular.tag_cases member).imp_left ?_
    rintro ⟨word, isWord, rfl⟩
    exact isIdentifier_frameworkName fun c inWord =>
      Identifier.isRest_of_isAlphanumeric (isWord c inWord)
  refine {
    meshes := fun entry member => (regular.meshes entry member).name
    clips := ?_
    tags
    references := ?_ }
  · intro value member
    obtain ⟨slots, spelled, names, _⟩ := regular.clips
    rw [names] at member
    obtain ⟨slot, inSlots, rfl⟩ := List.mem_map.mp member
    exact ⟨slot.name, rfl, spelled slot inSlots⟩
  · intro name member
    rcases regular.mem_references.mp member with inTags | isConstant | ⟨_, rfl⟩
    · exact tags name inTags
    · exact .inl (isIdentifier_of_mem_engineConstants (regular.mem_engineConstants isConstant))
    · exact .inl (by decide)

/-- It is enough to look at the geometries. -/
theorem NamesOthers.holdsIdentifiers (others : inventory.NamesOthers)
    (geometries : ∀ entry ∈ inventory.meshes, IsIdentifier entry.geometry.tag) :
    inventory.HoldsIdentifiers where
  meshes := others.meshes
  clips := others.clips
  tags := fun tag member => (others.tags tag member).elim id fun ⟨entry, inMeshes, same⟩ =>
    same ▸ geometries entry inMeshes
  references := fun name member => (others.references name member).elim id
    fun ⟨entry, inMeshes, same⟩ => same ▸ geometries entry inMeshes

theorem tag_mem_entryTags {entry : MeshEntry} (member : entry ∈ inventory.meshes) :
    entry.geometry.tag ∈ inventory.entryTags := by
  have isTag : entry.geometry.tag ∈ entry.tags := by simp [MeshEntry.tags]
  exact List.mem_append_left _ (List.mem_append_right _
    (List.mem_flatMap.mpr ⟨entry, member, isTag⟩))

/-- Every geometry below the root has its tag in the inventory. -/
theorem exists_tag_of_survey {root : Node} {clips : List Clip} {places shadows : Value}
    {records : List Record}
    (success : survey root clips places shadows = .ok (inventory, records)) {node : Node}
    (below : node ∈ root.properDescendants) (kind : node.kind = .mesh) {typeName : String}
    (named : (node.geometry.getD {}).typeName = .text typeName) :
    ∃ entry ∈ inventory.meshes, entry.geometry.tag = GeometryEntry.tagOf typeName := by
  have role : node.role? = .ok .mesh := by rw [Node.role?, kind]
  have inRole : node ∈ Finding.FoundAlong.ofRole .mesh root.properDescendants :=
    List.mem_filter.mpr ⟨below, Node.plays_iff.mpr role⟩
  obtain ⟨index, inside, atIndex⟩ := List.getElem_of_mem inRole
  have placed : (node, index) ∈ (Finding.FoundAlong.ofRole .mesh root.properDescendants).zipIdx :=
    List.mk_mem_zipIdx_iff_getElem?.mpr (List.getElem?_eq_some_iff.mpr ⟨inside, atIndex⟩)
  obtain ⟨entry, inMeshes, described⟩ :=
    exists_of_mem_right (List.Forall₂.flip (meshes_of_survey success)) placed
  obtain ⟨_, shaped⟩ := described.geometry
  obtain ⟨⟨given, isText, tag⟩, _⟩ := GeometryEntry.isExtracted_of_ofGeometry shaped
  obtain rfl : typeName = given := Value.text.inj (named.symm.trans isText)
  exact ⟨entry, inMeshes, tag⟩

/-- All names of a survey but the tags of geometries are identifiers, and these are exactly
when no type name of a mesh brings in other characters than those of identifiers. -/
theorem holdsIdentifiers_iff {root : Node} {clips : List Clip} {places shadows : Value}
    {records : List Record}
    (success : survey root clips places shadows = .ok (inventory, records)) :
    inventory.NamesOthers ∧
      (inventory.HoldsIdentifiers ↔
        Node.GeometriesAre (fun typeName => IsTypeName (Geometry.stemOf typeName))
          root.properDescendants) := by
  have regular : inventory.IsRegular fun _ => True :=
    isRegular_of_survey success fun _ _ _ _ _ => trivial
  refine ⟨regular.namesOthers, ?_, ?_⟩
  · intro identifiers node below kind typeName named
    obtain ⟨entry, inMeshes, tag⟩ := exists_tag_of_survey success below kind named
    have spelled := identifiers.tags _ (tag_mem_entryTags inMeshes)
    rw [tag] at spelled
    exact isIdentifier_tagOf_iff.mp spelled
  · intro plain
    refine regular.namesOthers.holdsIdentifiers fun entry member => ?_
    obtain ⟨typeName, typed, tag⟩ :=
      ((isRegular_of_survey success plain).meshes entry member).geometry
    rw [tag]
    exact isIdentifier_tagOf_iff.mpr typed

/-- Names of all kinds of characters, under a type name that is an identifier. -/
def wordyScene : Node :=
  { children := [
      { kind := .mesh, name := .text "3D Model", geometry := some { typeName := .text "Box_2Geometry" }
        surface := .single { typeName := .text "Phong!", side := .back } },
      { kind := .light, name := .text "<sun>", typeName := .text "SpotLight" }] }

theorem wordyScene_typeNames :
    Node.GeometriesAre (fun typeName => IsTypeName (Geometry.stemOf typeName))
      wordyScene.properDescendants := by
  have stem : (Geometry.stemOf "Box_2Geometry").toList.all Identifier.isRest = true := by
    decide
  intro node member kind typeName named
  simp only [wordyScene, Node.properDescendants, Node.preorderAll, Node.preorder,
    List.append_nil, List.cons_append, List.nil_append, List.mem_cons, List.not_mem_nil,
    or_false] at member
  rcases member with rfl | rfl
  · obtain rfl : "Box_2Geometry" = typeName := Value.text.inj named
    exact List.all_eq_true.mp stem
  · cases kind

theorem wordyScene_identifiers : ∃ inventory records,
    survey wordyScene [⟨0, .text "Armature|Walk", 1.0⟩] = .ok (inventory, records) ∧
      inventory.HoldsIdentifiers := by
  have surveyed : (survey wordyScene [⟨0, .text "Armature|Walk", 1.0⟩]).toOption.map
      (fun _ => ()) = some () := by decide +kernel
  obtain ⟨⟨inventory, records⟩, made, _⟩ := ok_of_map_toOption surveyed
  exact ⟨inventory, records, made, (holdsIdentifiers_iff made).2.mpr wordyScene_typeNames⟩

def spacedScene : Node :=
  { children := [{ kind := .mesh, geometry := some { typeName := .text "Wide BoxGeometry" } }] }

/-- A type name with a blank in it becomes a tag, and a reference, with a blank in it. -/
theorem spacedScene_not_identifier : ∃ inventory records,
    survey spacedScene [] = .ok (inventory, records) ∧
      inventory.meshes.map (fun entry => entry.geometry.tag) = ["TresWide BoxGeometry"] ∧
      "TresWide BoxGeometry" ∈ inventory.references.names ∧ ¬ inventory.HoldsIdentifiers := by
  have names : (survey spacedScene []).toOption.map (fun result =>
      (result.1.meshes.map (fun entry => entry.geometry.tag), result.1.references.names)) =
        some (["TresWide BoxGeometry"],
          ["TresMesh", "TresMeshBasicMaterial", "TresWide BoxGeometry"]) := by decide +kernel
  obtain ⟨⟨inventory, records⟩, made, read⟩ := ok_of_map_toOption names
  obtain ⟨tagged, referred⟩ := Prod.mk.inj read
  have member : "TresWide BoxGeometry" ∈ inventory.references.names := by
    rw [referred]
    simp
  refine ⟨inventory, records, made, tagged, member, ?_⟩
  intro identifiers
  exact absurd (identifiers.references _ member) (by decide)

end Inventory

end SceneComponent
