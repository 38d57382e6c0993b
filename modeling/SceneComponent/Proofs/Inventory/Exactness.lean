import Mathlib
import SceneComponent.Proofs.Component.AttributeReading
import SceneComponent.Proofs.Component.TemplateText

/-!
# What entries are exactly

No zero among the numbers of a surveyed entry has a sign, so that they can be told from
their literals.  The names of its properties are those of no part of a transform, and the
end of its tag tells what it is an entry of.
-/

set_option autoImplicit false

namespace SceneComponent

open Text

/-! ## Properties -/

theorem Value.IsExtracted.isExact {value : Value} (extracted : value.IsExtracted) :
    value.IsExact := by
  cases extracted with
  | flag => exact .flag
  | number x unsigned => exact .number x unsigned
  | color digits alphanumeric => exact .color digits alphanumeric
  | side side => exact .side side

theorem Value.IsRoundedTriple.isExact {value : Value} (rounded : value.IsRoundedTriple) :
    value.IsExact := by
  obtain ⟨x, y, z, rfl, first, second, third⟩ := rounded
  have unsigned : Value.AreUnsigned [x, y, z] := by
    simp only [Value.AreUnsigned, List.forall_mem_cons]
    exact ⟨first, second, third, by simp⟩
  exact .numbers [x, y, z] unsigned

theorem IsPropertyName.isAttributeName {name : String} (named : IsPropertyName name) :
    IsAttributeName name := by
  refine ⟨fun empty => named.1 (String.toList_eq_nil_iff.mp empty), fun c member => ?_⟩
  rw [isNameCharacter, named.2.1 c member, Bool.true_or]

theorem Properties.AreExtracted.areExact {properties : Properties}
    (extracted : properties.AreExtracted) : properties.AreExact := fun property member =>
  ⟨(extracted property member).1.isAttributeName, (extracted property member).2.isExact⟩

theorem Properties.AreExtracted.own {properties : Properties}
    (extracted : properties.AreExtracted) :
    ∀ property ∈ properties, property.1 ∉ Transform.partNames := fun property member =>
  (extracted property member).1.2.2

/-! ## Transforms -/

/-- Parts of three numbers each, where no zero has a sign. -/
structure Transform.IsExact (transform : Transform) : Prop where
  position : ∀ part, transform.position = some part → part.IsExact
  rotation : ∀ part, transform.rotation = some part → part.IsExact
  scale : ∀ part, transform.scale = some part → part.IsExact

namespace Transform

variable {transform : Transform}

theorem IsExtracted.isExact (extracted : transform.IsExtracted) : transform.IsExact where
  position := fun part isPart => (extracted.position part isPart).isExact
  rotation := fun part isPart => (extracted.rotation part isPart).isExact
  scale := fun part isPart => (extracted.scale part isPart).isExact

theorem IsExact.areExact (told : transform.IsExact) : transform.attributes.AreExact := by
  have ofPart : ∀ name, IsAttributeName name → ∀ part : Option Value,
      (∀ value, part = some value → value.IsExact) →
        ∀ property ∈ (part.map (name, ·)).toList,
          IsAttributeName property.1 ∧ property.2.IsExact := by
    intro name named part partExact property member
    obtain ⟨value, isPart, rfl⟩ := Option.map_eq_some_iff.mp (Option.mem_toList.mp member)
    exact ⟨named, partExact value isPart⟩
  exact List.forall_mem_append.mpr ⟨List.forall_mem_append.mpr
    ⟨ofPart "position" (by decide) _ told.position, ofPart "rotation" (by decide) _ told.rotation⟩,
    ofPart "scale" (by decide) _ told.scale⟩

theorem IsExact.areExact_append (told : transform.IsExact) {properties : Properties}
    (toldToo : properties.AreExact) : (transform.attributes ++ properties).AreExact :=
  List.forall_mem_append.mpr ⟨told.areExact, toldToo⟩

theorem mem_partNames_of_mem_attributes {property : String × Value}
    (member : property ∈ transform.attributes) : property.1 ∈ partNames := by
  obtain ⟨position, rotation, scale⟩ := transform
  simp only [attributes, List.mem_append, Option.mem_toList, Option.map_eq_some_iff] at member
  rcases member with (⟨value, _, rfl⟩ | ⟨value, _, rfl⟩) | ⟨value, _, rfl⟩
  · exact (by decide : "position" ∈ partNames)
  · exact (by decide : "rotation" ∈ partNames)
  · exact (by decide : "scale" ∈ partNames)

theorem attributes_injective : Function.Injective attributes := by
  have lookups : ∀ transform : Transform, transform =
      ⟨transform.attributes.lookup "position", transform.attributes.lookup "rotation",
        transform.attributes.lookup "scale"⟩ := by
    rintro ⟨position, rotation, scale⟩
    cases position <;> cases rotation <;> cases scale <;> rfl
  intro left right same
  rw [lookups left, same, ← lookups right]

/-- The parts of a transform and the properties after them are told apart by their names. -/
theorem append_injective {left right : Transform} {properties others : Properties}
    (own : ∀ property ∈ properties, property.1 ∉ partNames)
    (othersOwn : ∀ property ∈ others, property.1 ∉ partNames)
    (same : left.attributes ++ properties = right.attributes ++ others) :
    left = right ∧ properties = others := by
  have parts : ∀ (transform : Transform) {properties : Properties},
      (∀ property ∈ properties, property.1 ∉ partNames) →
        (transform.attributes ++ properties).filter (fun property => property.1 ∈ partNames) =
          transform.attributes := by
    intro transform properties own
    rw [List.filter_append, List.filter_eq_self.mpr, List.filter_eq_nil_iff.mpr, List.append_nil]
    · intro property member
      simpa using own property member
    · intro property member
      simpa using mem_partNames_of_mem_attributes member
  have attributesSame : left.attributes = right.attributes := by
    rw [← parts left own, same, parts right othersOwn]
  rw [attributesSame, List.append_cancel_left_eq] at same
  exact ⟨attributes_injective attributesSame, same⟩

end Transform

/-! ## Entries -/

/-- Whether a tag is of identifier characters and ends in the word of what it is the tag
of. -/
structure IsTagOf (ending tag : String) : Prop where
  characters : ∀ c ∈ tag.toList, Identifier.isRest c = true
  ends : ∃ stem : String, tag = stem ++ ending

theorem IsTagOf.ne_empty {ending tag : String} (tagged : IsTagOf ending tag)
    (filled : ending.toList ≠ []) : tag ≠ "" := by
  obtain ⟨stem, rfl⟩ := tagged.ends
  intro empty
  have chars := congrArg String.toList empty
  rw [String.toList_append] at chars
  exact filled (List.append_eq_nil_iff.mp chars).2

theorem isTagOf_mesh : IsTagOf "Mesh" meshTag :=
  ⟨List.all_eq_true.mp rfl, tagStem, rfl⟩

structure Entry.IsExact (ending : String) (entry : Entry) : Prop where
  tag : IsTagOf ending entry.tag
  properties : entry.properties.AreExact
  own : ∀ property ∈ entry.properties, property.1 ∉ Transform.partNames
  transform : entry.transform.IsExact

structure MeshEntry.IsExact (entry : MeshEntry) : Prop where
  geometry : IsTagOf "Geometry" entry.geometry.tag
  arguments : ∃ numbers, Value.AreUnsigned numbers ∧
    entry.geometry.arguments = numbers.map .float
  material : IsTagOf "Material" entry.material.tag
  properties : entry.material.properties.AreExact
  transform : entry.transform.IsExact

structure Inventory.IsExact (inventory : Inventory) : Prop where
  lights : ∀ entry ∈ inventory.lights, entry.IsExact "Light"
  meshes : ∀ entry ∈ inventory.meshes, entry.IsExact
  cameras : ∀ entry ∈ inventory.cameras, entry.IsExact "Camera"

theorem isTagOf_of_word {ending stem tag : String} (word : IsWord (stem ++ ending))
    (same : tag = tagStem ++ (stem ++ ending)) : IsTagOf ending tag where
  characters := same ▸ isRest_of_mem_frameworkTag word
  ends := ⟨tagStem ++ stem, by rw [same, String.append_assoc]⟩

theorem Entry.IsExtracted.isExact {ending : String} {entry : Entry}
    (extracted : entry.IsExtracted ending) : entry.IsExact ending where
  tag := extracted.tag.elim fun _ tagged => isTagOf_of_word tagged.1 tagged.2
  properties := extracted.properties.areExact
  own := extracted.properties.own
  transform := extracted.transform.isExact

theorem MeshEntry.IsExtracted.isExact {entry : MeshEntry}
    (extracted : entry.IsExtracted IsTypeName) : entry.IsExact where
  geometry := by
    obtain ⟨typeName, typed, tag⟩ := extracted.geometry
    exact tag ▸ ⟨isRest_of_mem_tagOf (isTypeName_stemOf typed), _, rfl⟩
  arguments := extracted.arguments
  material := extracted.material.elim fun _ tagged => isTagOf_of_word tagged.1 tagged.2
  properties := extracted.properties.areExact
  transform := extracted.transform.isExact

theorem Inventory.isExact_of_survey {root : Node} {clips : List Clip} {places shadows : Value}
    {inventory : Inventory} {records : List Record}
    (success : survey root clips places shadows = .ok (inventory, records))
    (typed : Node.GeometriesAre IsTypeName root.properDescendants) : inventory.IsExact :=
  have extracted := isExtracted_of_survey success typed
  { lights := fun entry member => (extracted.lights entry member).isExact
    meshes := fun entry member => (extracted.meshes entry member).isExact
    cameras := fun entry member => (extracted.cameras entry member).isExact }

end SceneComponent
