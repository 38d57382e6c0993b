import Mathlib
import SceneComponent.Proofs.Component.References

/-!
# Attributes and remarks of templates

The attributes and the remarks of an element are listed with those of all elements
within it.  The attributes of a template come from few sources: some are fixed, some
write a property of an entry, some a list of numbers.  What holds of each source holds
of every attribute; the remarks are the names of the meshes and one fixed text.
-/

set_option autoImplicit false

namespace SceneComponent

namespace Element

mutual

def attributesIn : Element → List Attribute
  | .blank => []
  | .comment _ => []
  | .leaf _ attributes => attributes
  | .branch _ attributes content => attributes ++ attributesOf content

def attributesOf : List Element → List Attribute
  | [] => []
  | element :: rest => attributesIn element ++ attributesOf rest

end

mutual

def remarks : Element → List String
  | .blank => []
  | .comment text => [text]
  | .leaf _ _ => []
  | .branch _ _ content => remarksOf content

def remarksOf : List Element → List String
  | [] => []
  | element :: rest => remarks element ++ remarksOf rest

end

theorem attributesOf_eq (elements : List Element) :
    attributesOf elements = elements.flatMap attributesIn := by
  induction elements with
  | nil => rfl
  | cons element rest inductionHypothesis =>
      rw [attributesOf, inductionHypothesis, List.flatMap_cons]

theorem remarksOf_eq (elements : List Element) :
    remarksOf elements = elements.flatMap remarks := by
  induction elements with
  | nil => rfl
  | cons element rest inductionHypothesis =>
      rw [remarksOf, inductionHypothesis, List.flatMap_cons]

end Element

namespace Template

open Element

variable {IsType : String → Prop} {inventory : Inventory}

/-- The attributes that templates write whatever the entries hold. -/
def fixedAttributes : List Attribute :=
  [⟨"ref", .fixed "group"⟩, ⟨"object", .code "scene"⟩, ⟨"cast-shadow", .flag⟩,
    ⟨"receive-shadow", .flag⟩]

/-- A property of all that the attributes of templates come from. -/
structure HoldsOfSources (holds : Attribute → Prop) : Prop where
  fixed : ∀ item ∈ fixedAttributes, holds item
  property : ∀ {name : String} {value : Value}, IsWord name → value.IsRegular →
    holds (.ofProperty (name, value))
  numbers : ∀ {name : String} (numbers : List Float), IsWord name →
    holds (.ofProperty (name, .list (numbers.map .float)))

namespace HoldsOfSources

variable {holds : Attribute → Prop}

theorem properties (sources : HoldsOfSources holds) {properties : Properties}
    (regular : properties.AreRegular) : ∀ item ∈ properties.map Attribute.ofProperty, holds item := by
  intro item member
  obtain ⟨entry, inProperties, rfl⟩ := List.mem_map.mp member
  obtain ⟨word, content⟩ := regular entry inProperties
  exact sources.property word content

theorem transform (sources : HoldsOfSources holds) {transform : Transform}
    (regular : transform.IsRegular) :
    ∀ item ∈ transform.attributes.map Attribute.ofProperty, holds item := by
  have ofPart : ∀ (name : String), IsWord name → ∀ part : Option Value,
      (∀ value, part = some value → value.IsTriple) →
        ∀ item ∈ (part.map (name, ·)).toList.map Attribute.ofProperty, holds item := by
    intro name word part triple
    cases part with
    | none => simp
    | some value =>
        obtain ⟨x, y, z, rfl⟩ := triple value rfl
        have listed := sources.numbers [x, y, z] word
        simpa [Value.triple] using listed
  unfold Transform.attributes
  simp only [List.map_append, List.forall_mem_append]
  exact ⟨⟨ofPart "position" (by decide) _ regular.position,
    ofPart "rotation" (by decide) _ regular.rotation⟩, ofPart "scale" (by decide) _ regular.scale⟩

theorem entry (sources : HoldsOfSources holds) {properties : Properties} {transform : Transform}
    (propertiesRegular : properties.AreRegular) (transformRegular : transform.IsRegular) :
    ∀ item ∈ Attribute.ofEntry properties transform, holds item := by
  rw [Attribute.ofEntry, List.map_append]
  exact List.forall_mem_append.mpr
    ⟨sources.transform transformRegular, sources.properties propertiesRegular⟩

theorem entries (sources : HoldsOfSources holds) {entries : List Entry}
    (regular : ∀ entry ∈ entries, entry.IsRegular) :
    ∀ item ∈ (entries.map entryElement).flatMap attributesIn, holds item := by
  intro item member
  obtain ⟨element, inElements, inItems⟩ := List.mem_flatMap.mp member
  obtain ⟨entry, inEntries, rfl⟩ := List.mem_map.mp inElements
  have entryRegular := regular entry inEntries
  exact sources.entry entryRegular.properties entryRegular.transform item inItems

theorem mesh (sources : HoldsOfSources holds) {entry : MeshEntry} (regular : entry.IsRegular IsType)
    (style : Style) : ∀ item ∈ attributesOf (meshElements style entry), holds item := by
  obtain ⟨numbers, arguments⟩ := regular.arguments
  have neutral : Transform.IsRegular {} := ⟨by simp, by simp, by simp⟩
  have placed := sources.entry Properties.areRegular_nil regular.transform
  have shadows : ∀ item ∈ shadowAttributes style entry, holds item := by
    have flags := sources.fixed
    simp only [fixedAttributes, List.forall_mem_cons] at flags
    unfold shadowAttributes
    split
    · refine List.forall_mem_append.mpr ⟨?_, ?_⟩ <;> split <;> simp [flags]
    · simp
  have geometry : ∀ item ∈ (geometryElement entry.geometry).attributesIn, holds item := by
    rw [geometryElement, attributesIn, arguments]
    split
    · simp [Attribute.ofEntry, Transform.attributes]
    · simpa [Attribute.ofEntry, Transform.attributes] using
        sources.numbers numbers (by decide : IsWord "args")
  have material : ∀ item ∈ (materialElement entry.material).attributesIn, holds item := by
    rw [materialElement, attributesIn]
    exact sources.entry regular.properties neutral
  simp only [meshElements, attributesOf, attributesIn, List.append_nil, List.nil_append,
    List.forall_mem_append]
  exact ⟨⟨placed, shadows⟩, geometry, material⟩

/-- What holds of all sources holds of the attributes of a template. -/
theorem root (sources : HoldsOfSources holds) (regular : inventory.IsRegular IsType)
    (style : Style) : ∀ item ∈ (root inventory style).attributesIn, holds item := by
  have fixed := sources.fixed
  simp only [fixedAttributes, List.forall_mem_cons] at fixed
  have meshes : ∀ item ∈ (inventory.meshes.flatMap (meshElements style)).flatMap attributesIn,
      holds item := by
    intro item member
    rw [List.flatMap_assoc] at member
    obtain ⟨entry, inMeshes, inItems⟩ := List.mem_flatMap.mp member
    rw [← attributesOf_eq] at inItems
    exact sources.mesh (regular.meshes entry inMeshes) style item inItems
  have reference : ∀ item ∈ (if inventory.hasClips then [Attribute.mk "ref" (.fixed "group")]
      else []), holds item := by
    split <;> simp [fixed]
  have scene : ∀ item ∈ sceneElements.flatMap attributesIn, holds item := by
    simp [sceneElements, attributesIn, fixed]
  rw [Template.root, attributesIn, attributesOf_eq]
  simp only [List.flatMap_append, List.forall_mem_append]
  exact ⟨reference, ⟨⟨sources.entries regular.lights, meshes⟩, sources.entries regular.cameras⟩,
    scene⟩

end HoldsOfSources

theorem remarks_root (inventory : Inventory) (style : Style) :
    (root inventory style).remarks = inventory.meshes.map MeshEntry.name ++ ["GLTF scene"] := by
  have ofEntries : ∀ entries : List Entry, (entries.map entryElement).flatMap remarks = [] := by
    intro entries
    rw [List.flatMap_map, List.flatMap_eq_nil_iff]
    exact fun entry _ => rfl
  have ofMeshes : (inventory.meshes.flatMap (meshElements style)).flatMap remarks =
      inventory.meshes.map MeshEntry.name := by
    rw [List.flatMap_assoc, List.map_eq_flatMap]
    exact List.flatMap_congr fun entry _ => rfl
  have ofScene : sceneElements.flatMap remarks = ["GLTF scene"] := rfl
  rw [root, remarks, remarksOf_eq, List.flatMap_append, List.flatMap_append, List.flatMap_append,
    ofEntries, ofEntries, ofMeshes, ofScene]
  simp

end Template

end SceneComponent
