import Mathlib
import SceneComponent.Component.Template
import SceneComponent.Proofs.Inventory.Contents

/-!
# References and bound names

The template of a component is written entry by entry, while its imports are
picked out of the references of the inventory.  Both come down to the tags of the
entries and the constants among their properties; a tag begins with the word of
the framework and a constant of the engine does not, so neither is ever taken for
the other.
-/

set_option autoImplicit false

namespace SceneComponent

open Text

def IsFrameworkName (name : String) : Prop := tagStem.toList.isPrefixOf name.toList = true

instance (name : String) : Decidable (IsFrameworkName name) :=
  inferInstanceAs (Decidable (tagStem.toList.isPrefixOf name.toList = true))

theorem isFrameworkName_append (word : String) : IsFrameworkName (tagStem ++ word) := by
  unfold IsFrameworkName
  rw [String.toList_append, List.isPrefixOf_iff_prefix]
  exact List.prefix_append _ _

theorem not_isFrameworkName_engine {name : String} (engine : name ∈ Imports.engineConstants) :
    ¬ IsFrameworkName name := by
  have all : ∀ name ∈ Imports.engineConstants, ¬ IsFrameworkName name := by decide
  exact all name engine

/-! ## The names of an inventory -/

namespace MeshEntry

def tags (entry : MeshEntry) : List String := [meshTag, entry.geometry.tag, entry.material.tag]

end MeshEntry

namespace Inventory

def entryTags (inventory : Inventory) : List String :=
  inventory.lights.map Entry.tag ++ inventory.meshes.flatMap MeshEntry.tags ++
    inventory.cameras.map Entry.tag

def boundConstants (inventory : Inventory) : List String :=
  inventory.lights.flatMap (fun entry => entry.properties.constants) ++
    inventory.meshes.flatMap (fun entry => entry.material.properties.constants) ++
    inventory.cameras.flatMap (fun entry => entry.properties.constants)

theorem mem_entryReferences {entries : List Entry} {name : String} :
    name ∈ entries.flatMap entryReferences ↔
      name ∈ entries.map Entry.tag ∨
        name ∈ entries.flatMap fun entry => entry.properties.constants := by
  induction entries with
  | nil => simp
  | cons entry rest inductionHypothesis =>
      simp only [List.flatMap_cons, List.map_cons, List.mem_append, List.mem_cons,
        entryReferences, inductionHypothesis]
      tauto

theorem mem_meshReferences {entries : List MeshEntry} {name : String} :
    name ∈ entries.flatMap meshReferences ↔
      name ∈ entries.flatMap MeshEntry.tags ∨
        name ∈ entries.flatMap fun entry => entry.material.properties.constants := by
  induction entries with
  | nil => simp
  | cons entry rest inductionHypothesis =>
      simp only [List.flatMap_cons, List.mem_append, List.mem_cons, List.not_mem_nil, or_false,
        meshReferences, MeshEntry.tags, inductionHypothesis]
      tauto

namespace IsRegular

variable {IsType : String → Prop} {inventory : Inventory}

theorem mem_references (regular : inventory.IsRegular IsType) {name : String} :
    name ∈ inventory.references ↔
      name ∈ inventory.entryTags ∨ name ∈ inventory.boundConstants ∨
        (inventory.hasClips = true ∧ name = clipHelper) := by
  have helper : name ∈ (if inventory.hasClips then [clipHelper] else []) ↔
      inventory.hasClips = true ∧ name = clipHelper := by
    split <;> simp_all
  rw [regular.references, referencesOf, NameSet.mem_ofList]
  simp only [List.mem_append, mem_entryReferences, mem_meshReferences, helper, entryTags,
    boundConstants]
  tauto

/-- A tag is the word of the framework and another word, unless it is that of a geometry. -/
theorem tag_cases (regular : inventory.IsRegular IsType) {tag : String}
    (member : tag ∈ inventory.entryTags) :
    (∃ word, IsWord word ∧ tag = tagStem ++ word) ∨
      ∃ entry ∈ inventory.meshes, tag = entry.geometry.tag := by
  have ofEntries : ∀ entries : List Entry, (∀ entry ∈ entries, entry.IsRegular) →
      tag ∈ entries.map Entry.tag → ∃ word, IsWord word ∧ tag = tagStem ++ word := by
    intro entries entriesRegular inEntries
    obtain ⟨entry, inList, rfl⟩ := List.mem_map.mp inEntries
    exact (entriesRegular entry inList).tag
  simp only [entryTags, List.mem_append] at member
  rcases member with (inLights | inMeshes) | inCameras
  · exact .inl (ofEntries _ regular.lights inLights)
  · obtain ⟨entry, inList, isTag⟩ := List.mem_flatMap.mp inMeshes
    simp only [MeshEntry.tags, List.mem_cons, List.not_mem_nil, or_false] at isTag
    rcases isTag with rfl | rfl | rfl
    · exact .inl ⟨"Mesh", by decide, rfl⟩
    · exact .inr ⟨entry, inList, rfl⟩
    · exact .inl (regular.meshes entry inList).material
  · exact .inl (ofEntries _ regular.cameras inCameras)

theorem isFrameworkName_of_mem_entryTags (regular : inventory.IsRegular IsType) {name : String}
    (member : name ∈ inventory.entryTags) : IsFrameworkName name := by
  rcases regular.tag_cases member with ⟨word, _, rfl⟩ | ⟨entry, inMeshes, rfl⟩
  · exact isFrameworkName_append word
  · obtain ⟨typeName, _, tag⟩ := (regular.meshes entry inMeshes).geometry
    rw [tag, GeometryEntry.tagOf, String.append_assoc]
    exact isFrameworkName_append _

theorem mem_engineConstants (regular : inventory.IsRegular IsType) {name : String}
    (member : name ∈ inventory.boundConstants) : name ∈ Imports.engineConstants := by
  have ofProperties : ∀ properties : Properties, properties.AreRegular →
      name ∈ properties.constants → name ∈ Imports.engineConstants := by
    intro properties propertiesRegular isConstant
    obtain ⟨⟨property, content⟩, inList, selected⟩ := List.mem_filterMap.mp isConstant
    have contentRegular := (propertiesRegular _ inList).2
    cases contentRegular with
    | side side =>
        cases Option.some.inj selected
        cases side <;> decide
    | _ => cases selected
  simp only [boundConstants, List.mem_append] at member
  rcases member with (inLights | inMeshes) | inCameras
  · obtain ⟨entry, inList, isConstant⟩ := List.mem_flatMap.mp inLights
    exact ofProperties _ (regular.lights entry inList).properties isConstant
  · obtain ⟨entry, inList, isConstant⟩ := List.mem_flatMap.mp inMeshes
    exact ofProperties _ (regular.meshes entry inList).properties isConstant
  · obtain ⟨entry, inList, isConstant⟩ := List.mem_flatMap.mp inCameras
    exact ofProperties _ (regular.cameras entry inList).properties isConstant

end IsRegular

end Inventory

/-! ## The names of a template -/

namespace Element

theorem tagsOf_append (front back : List Element) :
    tagsOf (front ++ back) = tagsOf front ++ tagsOf back := by
  induction front with
  | nil => rfl
  | cons element rest inductionHypothesis =>
      simp only [List.cons_append, tagsOf, inductionHypothesis, List.append_assoc]

theorem constantsOf_append (front back : List Element) :
    constantsOf (front ++ back) = constantsOf front ++ constantsOf back := by
  induction front with
  | nil => rfl
  | cons element rest inductionHypothesis =>
      simp only [List.cons_append, constantsOf, inductionHypothesis, List.append_assoc]

theorem constantsOfAttributes_append (front back : List Attribute) :
    constantsOfAttributes (front ++ back) =
      constantsOfAttributes front ++ constantsOfAttributes back := List.filterMap_append

theorem constantsOfAttributes_ofProperties (properties : Properties) :
    constantsOfAttributes (properties.map Attribute.ofProperty) = properties.constants := by
  unfold constantsOfAttributes Properties.constants
  rw [List.filterMap_map]
  refine List.filterMap_congr ?_
  intro entry _
  obtain ⟨name, content⟩ := entry
  cases content with
  | bool truth => cases truth <;> rfl
  | _ => rfl

end Element

theorem Transform.IsRegular.constants_attributes {transform : Transform}
    (regular : transform.IsRegular) : transform.attributes.constants = [] := by
  have ofPart : ∀ (name : String) (part : Option Value),
      (∀ value, part = some value → value.IsTriple) →
        Properties.constants (part.map (name, ·)).toList = [] := by
    intro name part triple
    cases part with
    | none => rfl
    | some value =>
        obtain ⟨x, y, z, rfl⟩ := triple value rfl
        rfl
  have position := ofPart "position" _ regular.position
  have rotation := ofPart "rotation" _ regular.rotation
  have scale := ofPart "scale" _ regular.scale
  unfold Properties.constants at position rotation scale ⊢
  rw [attributes, List.filterMap_append, List.filterMap_append, position, rotation, scale]
  rfl

namespace Template

open Element

theorem tagsOf_entryElements (entries : List Entry) :
    tagsOf (entries.map entryElement) = entries.map Entry.tag := by
  induction entries with
  | nil => rfl
  | cons entry rest inductionHypothesis =>
      simp only [List.map_cons, tagsOf, inductionHypothesis]
      rfl

theorem tagsOf_meshElements (style : Style) (entries : List MeshEntry) :
    tagsOf (entries.flatMap (meshElements style)) = entries.flatMap MeshEntry.tags := by
  induction entries with
  | nil => rfl
  | cons entry rest inductionHypothesis =>
      rw [List.flatMap_cons, List.flatMap_cons, tagsOf_append, inductionHypothesis]
      rfl

theorem tags_root (inventory : Inventory) (style : Style) :
    (root inventory style).tags = Imports.groupTag :: (inventory.entryTags ++ ["primitive"]) := by
  rw [root, tags, tagsOf_append, tagsOf_append, tagsOf_append, tagsOf_entryElements,
    tagsOf_entryElements, tagsOf_meshElements]
  rfl

theorem constants_ofEntry {properties : Properties} {transform : Transform}
    (regular : transform.IsRegular) :
    constantsOfAttributes (Attribute.ofEntry properties transform) = properties.constants := by
  have none := regular.constants_attributes
  unfold Properties.constants at none
  rw [Attribute.ofEntry, constantsOfAttributes_ofProperties, Properties.constants,
    List.filterMap_append, none, List.nil_append]
  rfl

theorem constantsOf_entryElements {entries : List Entry}
    (regular : ∀ entry ∈ entries, entry.IsRegular) :
    constantsOf (entries.map entryElement) =
      entries.flatMap fun entry => entry.properties.constants := by
  induction entries with
  | nil => rfl
  | cons entry rest inductionHypothesis =>
      obtain ⟨headRegular, restRegular⟩ := List.forall_mem_cons.mp regular
      rw [List.map_cons, constantsOf, List.flatMap_cons, inductionHypothesis restRegular,
        entryElement, constants, constants_ofEntry headRegular.transform]

theorem constants_shadowAttributes (style : Style) (entry : MeshEntry) :
    constantsOfAttributes (shadowAttributes style entry) = [] := by
  unfold shadowAttributes
  split
  · split <;> split <;> rfl
  · rfl

theorem constants_geometryElement (entry : GeometryEntry) :
    (geometryElement entry).constants = [] := by
  unfold geometryElement
  split <;> rfl

theorem constantsOf_meshElements {IsType : String → Prop} {style : Style}
    {entries : List MeshEntry} (regular : ∀ entry ∈ entries, entry.IsRegular IsType) :
    constantsOf (entries.flatMap (meshElements style)) =
      entries.flatMap fun entry => entry.material.properties.constants := by
  induction entries with
  | nil => rfl
  | cons entry rest inductionHypothesis =>
      obtain ⟨headRegular, restRegular⟩ := List.forall_mem_cons.mp regular
      have ofMaterial : (materialElement entry.material).constants =
          entry.material.properties.constants := by
        rw [materialElement, constants, constants_ofEntry ⟨by simp, by simp, by simp⟩]
      have ofMesh : constantsOf (meshElements style entry) =
          entry.material.properties.constants := by
        simp only [meshElements, constantsOf, constants, constantsOfAttributes_append,
          constants_ofEntry headRegular.transform, constants_shadowAttributes,
          constants_geometryElement, ofMaterial, List.nil_append, List.append_nil]
        rfl
      rw [List.flatMap_cons, List.flatMap_cons, constantsOf_append,
        inductionHypothesis restRegular, ofMesh]

theorem constants_root {IsType : String → Prop} {inventory : Inventory}
    (regular : inventory.IsRegular IsType) (style : Style) :
    (root inventory style).constants = inventory.boundConstants := by
  have opening : constantsOfAttributes
      (if inventory.hasClips then [⟨"ref", .fixed "group"⟩] else []) = [] := by
    split <;> rfl
  rw [root, constants, constantsOf_append, constantsOf_append, constantsOf_append,
    constantsOf_entryElements regular.lights, constantsOf_entryElements regular.cameras,
    constantsOf_meshElements regular.meshes, opening]
  simp only [Inventory.boundConstants, List.nil_append]
  exact List.append_nil _

end Template

end SceneComponent
