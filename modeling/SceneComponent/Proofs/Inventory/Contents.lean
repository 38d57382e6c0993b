import Mathlib
import SceneComponent.Proofs.Inventory.Partition
import SceneComponent.Proofs.Text.Numerals
import SceneComponent.Proofs.Value.Rounded

/-!
# What inventories hold

Whatever a scene holds, a survey extracts entries of one form from it: tags are the word of
the framework and letters or digits, property names are words, and property values are
rounded numbers, flags, colours or sides.  Only the tags of geometries carry text of the
scene, the type names.

For most purposes the signs of zeros and the endings of tags do not matter, so that a weaker
form is stated as well: entries are regular.
-/

set_option autoImplicit false

namespace SceneComponent

open Checked Text Binary64

/-! ## Extracted values -/

/-- Whether a text is one word of letters and digits. -/
def IsWord (text : String) : Prop := ∀ c ∈ text.toList, isAsciiAlphanumeric c = true

instance (text : String) : Decidable (IsWord text) :=
  decidable_of_iff (text.toList.all isAsciiAlphanumeric = true) List.all_eq_true

/-- The values of properties: flags, rounded numbers, colours and sides. -/
inductive Value.IsExtracted : Value → Prop where
  | flag : IsExtracted (.bool true)
  | number (x : Float) (unsigned : ¬ IsNegativeZero x) : IsExtracted (.float x)
  | color (digits : List Char) (alphanumeric : ∀ c ∈ digits, isAsciiAlphanumeric c = true) :
      IsExtracted (.text ("#" ++ String.ofList digits))
  | side (side : Side) : IsExtracted (.constant side.name)

/-- Three rounded numbers. -/
def Value.IsRoundedTriple (value : Value) : Prop :=
  ∃ x y z, value = .triple x y z ∧
    ¬ IsNegativeZero x ∧ ¬ IsNegativeZero y ∧ ¬ IsNegativeZero z

def Transform.partNames : List String := ["position", "rotation", "scale"]

/-- Whether a name is a word, and not that of a part of a transform. -/
def IsPropertyName (name : String) : Prop :=
  name ≠ "" ∧ IsWord name ∧ name ∉ Transform.partNames

instance (name : String) : Decidable (IsPropertyName name) :=
  inferInstanceAs (Decidable (_ ∧ _ ∧ _))

namespace Properties

def AreExtracted (properties : Properties) : Prop :=
  ∀ property ∈ properties, IsPropertyName property.1 ∧ property.2.IsExtracted

theorem areExtracted_nil : AreExtracted [] := List.forall_mem_nil _

theorem AreExtracted.append {front back : Properties} (frontExtracted : front.AreExtracted)
    (backExtracted : back.AreExtracted) : AreExtracted (front ++ back) :=
  List.forall_mem_append.mpr ⟨frontExtracted, backExtracted⟩

theorem areExtracted_named {name : String} {value : Option Value} (named : IsPropertyName name)
    (extracted : ∀ content, value = some content → content.IsExtracted) :
    AreExtracted (MaterialEntry.named name value) := by
  cases value with
  | none => exact areExtracted_nil
  | some content =>
      intro property member
      cases List.mem_singleton.mp member
      exact ⟨named, extracted content rfl⟩

end Properties

structure Transform.IsExtracted (transform : Transform) : Prop where
  position : ∀ part, transform.position = some part → part.IsRoundedTriple
  rotation : ∀ part, transform.rotation = some part → part.IsRoundedTriple
  scale : ∀ part, transform.scale = some part → part.IsRoundedTriple

/-- An entry whose tag ends in the word of what it is an entry of. -/
structure Entry.IsExtracted (ending : String) (entry : Entry) : Prop where
  tag : ∃ stem, IsWord (stem ++ ending) ∧ entry.tag = tagStem ++ (stem ++ ending)
  properties : entry.properties.AreExtracted
  transform : entry.transform.IsExtracted

/-- A mesh whose geometry has a type name of a class. -/
structure MeshEntry.IsExtracted (IsType : String → Prop) (entry : MeshEntry) : Prop where
  name : Identifier.spells entry.name.toList = true
  geometry : ∃ typeName, IsType typeName ∧ entry.geometry.tag = GeometryEntry.tagOf typeName
  arguments : ∃ numbers : List Float, (∀ x ∈ numbers, ¬ IsNegativeZero x) ∧
    entry.geometry.arguments = numbers.map .float
  material : ∃ stem, IsWord (stem ++ "Material") ∧
    entry.material.tag = tagStem ++ (stem ++ "Material")
  properties : entry.material.properties.AreExtracted
  transform : entry.transform.IsExtracted

/-! ## Entries of single nodes -/

theorem Transform.triple_of_part {given neutral places value : Value}
    (success : Transform.part given neutral places = .ok (some value)) :
    ∃ x y z, value = .triple x y z ∧
      places.IsRounded x ∧ places.IsRounded y ∧ places.IsRounded z := by
  unfold Transform.part at success
  obtain ⟨⟨x, y, z⟩, rounded, success⟩ := bind_eq_ok.mp success
  obtain ⟨neutralToo, _, success⟩ := bind_eq_ok.mp success
  have chosen := return_eq_ok.mp success
  split at chosen
  · cases chosen
  · exact ⟨x, y, z, (Option.some.inj chosen).symm, Value.isRounded_of_roundComponents rounded⟩

theorem Transform.isRoundedTriple_of_part {given neutral places : Value} {part : Option Value}
    (success : Transform.part given neutral places = .ok part) :
    ∀ value, part = some value → value.IsRoundedTriple := by
  rintro value rfl
  obtain ⟨x, y, z, rfl, first, second, third⟩ := triple_of_part success
  exact ⟨x, y, z, rfl, first.unsigned, second.unsigned, third.unsigned⟩

theorem Transform.isExtracted_of_ofNode {node : Node} {places : Value} {transform : Transform}
    (success : Transform.ofNode node places = .ok transform) : transform.IsExtracted := by
  unfold Transform.ofNode at success
  obtain ⟨position, positionPart, success⟩ := bind_eq_ok.mp success
  obtain ⟨rotation, rotationPart, success⟩ := bind_eq_ok.mp success
  obtain ⟨scale, scalePart, success⟩ := bind_eq_ok.mp success
  cases return_eq_ok.mp success
  exact ⟨isRoundedTriple_of_part positionPart, isRoundedTriple_of_part rotationPart,
    isRoundedTriple_of_part scalePart⟩

theorem isExtracted_of_colorProperty? {entity property : String} {color : Value}
    {content : Option Value} (success : colorProperty? entity property color = .ok content) :
    ∀ value, content = some value → value.IsExtracted := by
  unfold colorProperty? at success
  obtain ⟨digits, hexadecimal, success⟩ := bind_eq_ok.mp success
  have chosen := return_eq_ok.mp success
  intro value isContent
  rw [isContent] at chosen
  split at chosen
  · cases chosen
  · rw [← Option.some.inj chosen, ← String.ofList_toList (s := digits)]
    exact .color digits.toList (Color.isAlphanumeric_of_toHex hexadecimal)

theorem number_of_numberProperty? {entity property : String} {number places content : Value}
    (success : numberProperty? entity property number places = .ok (some content)) :
    ∃ x, content = .float x ∧ places.IsRounded x := by
  unfold numberProperty? Value.roundUnlessDefault at success
  obtain ⟨standard, _, success⟩ := bind_eq_ok.mp success
  obtain ⟨kept, keptSuccess, success⟩ := bind_eq_ok.mp success
  obtain ⟨rounded, isRounded, keptSuccess⟩ := bind_eq_ok.mp keptSuccess
  obtain ⟨_, _, keptSuccess⟩ := bind_eq_ok.mp keptSuccess
  obtain ⟨x, isKept, rfl⟩ := Option.map_eq_some_iff.mp (return_eq_ok.mp success)
  have chosen := return_eq_ok.mp keptSuccess
  rw [isKept] at chosen
  split at chosen
  · cases chosen
  · cases chosen
    exact ⟨_, rfl, Value.isRounded_of_round isRounded⟩

theorem isExtracted_of_numberProperty? {entity property : String} {number places : Value}
    {content : Option Value}
    (success : numberProperty? entity property number places = .ok content) :
    ∀ value, content = some value → value.IsExtracted := by
  rintro value rfl
  obtain ⟨x, rfl, rounded⟩ := number_of_numberProperty? success
  exact .number x rounded.unsigned

theorem MaterialProperty.isPropertyName (property : MaterialProperty) :
    IsPropertyName property.name := by
  cases property <;> decide

theorem LightProperty.isPropertyName (property : LightProperty) :
    IsPropertyName property.name := by
  cases property <;> decide

theorem CameraProperty.isPropertyName (property : CameraProperty) :
    IsPropertyName property.name := by
  cases property <;> decide

theorem MaterialProperty.isExtracted_of_value? {property : MaterialProperty} {entity : String}
    {material : Material} {places : Value} {content : Option Value}
    (success : property.value? entity material places = .ok content) :
    ∀ value, content = some value → value.IsExtracted := by
  cases property with
  | emissive => exact isExtracted_of_colorProperty? success
  | _ => exact isExtracted_of_numberProperty? success

namespace MaterialEntry

open Properties

theorem areExtracted_of_kindProperties {entity : String} {material : Material} {places : Value}
    {names : List MaterialProperty} {properties : Properties}
    (success : kindProperties entity material places names = .ok properties) :
    properties.AreExtracted := by
  induction names generalizing properties with
  | nil =>
      cases success
      exact areExtracted_nil
  | cons property rest inductionHypothesis =>
      rw [kindProperties] at success
      obtain ⟨value, written, success⟩ := bind_eq_ok.mp success
      obtain ⟨others, remaining, success⟩ := bind_eq_ok.mp success
      cases return_eq_ok.mp success
      exact (areExtracted_named property.isPropertyName
        (MaterialProperty.isExtracted_of_value? written)).append (inductionHypothesis remaining)

theorem isExtracted_of_sideProperty? (side : Side) :
    ∀ value, sideProperty? side = some value → value.IsExtracted := by
  intro value isSide
  cases side with
  | front => cases isSide
  | back => cases isSide; exact .side .back
  | double => cases isSide; exact .side .double

theorem areExtracted_of_propertiesOf {kind : MaterialKind} {material : Material} {places : Value}
    {properties : Properties} (success : propertiesOf kind material places = .ok properties) :
    properties.AreExtracted := by
  unfold propertiesOf at success
  obtain ⟨color, colored, success⟩ := bind_eq_ok.mp success
  obtain ⟨ofKind, ofKindWritten, success⟩ := bind_eq_ok.mp success
  obtain ⟨opacity, opaqueness, success⟩ := bind_eq_ok.mp success
  cases return_eq_ok.mp success
  have ofColor : AreExtracted (named "color" color) :=
    areExtracted_named (by decide) (isExtracted_of_colorProperty? colored)
  have ofOpacity : AreExtracted (named "opacity" opacity) :=
    areExtracted_named (by decide) (isExtracted_of_numberProperty? opaqueness)
  have ofSide : AreExtracted (named "side" (sideProperty? material.side)) :=
    areExtracted_named (by decide) (isExtracted_of_sideProperty? material.side)
  have ofFlag : AreExtracted (named "transparent"
      (if material.transparent.isTruthy then some (.bool true) else none)) := by
    refine areExtracted_named (by decide) ?_
    intro value isFlag
    split at isFlag
    · cases isFlag; exact .flag
    · cases isFlag
  exact (((ofColor.append (areExtracted_of_kindProperties ofKindWritten)).append
    ofFlag).append ofOpacity).append ofSide

theorem isExtracted_of_ofSurface {surface : Surface} {places : Value} {entry : MaterialEntry}
    {records : List Record} (success : ofSurface surface places = .ok (entry, records)) :
    (∃ stem, IsWord (stem ++ "Material") ∧ entry.tag = tagStem ++ (stem ++ "Material")) ∧
      entry.properties.AreExtracted := by
  unfold ofSurface at success
  obtain ⟨kind, _, success⟩ := bind_eq_ok.mp success
  obtain ⟨properties, written, success⟩ := bind_eq_ok.mp success
  cases return_eq_ok.mp success
  refine ⟨⟨"Mesh" ++ kind.name, ?_, ?_⟩, areExtracted_of_propertiesOf written⟩
  · cases kind <;> decide
  · cases kind <;> rfl

end MaterialEntry

namespace GeometryEntry

theorem number_of_argument {kind : GeometryKind} {geometry : Geometry} {places : Value}
    {name : String} {content : Value}
    (success : argument kind geometry places name = .ok content) :
    ∃ x, content = .float x ∧ places.IsRounded x := by
  unfold argument at success
  obtain ⟨given, _, success⟩ := bind_eq_ok.mp success
  dsimp only at success
  split at success
  all_goals
    obtain ⟨value, _, success⟩ := bind_eq_ok.mp success
    obtain ⟨number, rounded, success⟩ := bind_eq_ok.mp success
    exact ⟨number, (return_eq_ok.mp success).symm, Value.isRounded_of_round rounded⟩

theorem numbers_of_mapM {kind : GeometryKind} {geometry : Geometry} {places : Value}
    {names : List String} {contents : List Value}
    (success : List.Forall₂ (fun name content => argument kind geometry places name = .ok content)
      names contents) :
    ∃ numbers : List Float, (∀ x ∈ numbers, places.IsRounded x) ∧
      contents = numbers.map .float := by
  induction success with
  | nil => exact ⟨[], List.forall_mem_nil _, rfl⟩
  | cons headArgument _ inductionHypothesis =>
      obtain ⟨number, rfl, numberRounded⟩ := number_of_argument headArgument
      obtain ⟨numbers, rounded, rfl⟩ := inductionHypothesis
      exact ⟨number :: numbers, List.forall_mem_cons.mpr ⟨numberRounded, rounded⟩, rfl⟩

theorem numbers_of_ofGeometry {geometry : Geometry} {places : Value} {entry : GeometryEntry}
    {records : List Record} (success : ofGeometry geometry places = .ok (entry, records)) :
    ∃ numbers : List Float, (∀ x ∈ numbers, places.IsRounded x) ∧
      entry.arguments = numbers.map .float := by
  obtain ⟨typeName, _, _, ⟨_, bare, _⟩ | ⟨names, _, listed, _⟩⟩ := ofGeometry_inversion success
  · exact ⟨[], List.forall_mem_nil _, bare⟩
  · exact numbers_of_mapM (mapM_eq_ok.mp listed)

theorem isExtracted_of_ofGeometry {geometry : Geometry} {places : Value} {entry : GeometryEntry}
    {records : List Record} (success : ofGeometry geometry places = .ok (entry, records)) :
    (∃ typeName, geometry.typeName = .text typeName ∧ entry.tag = tagOf typeName) ∧
      ∃ numbers : List Float, (∀ x ∈ numbers, ¬ IsNegativeZero x) ∧
        entry.arguments = numbers.map .float := by
  refine ⟨?_, (numbers_of_ofGeometry success).imp fun numbers made =>
    ⟨fun x member => (made.1 x member).unsigned, made.2⟩⟩
  obtain ⟨typeName, named, tag, _⟩ := ofGeometry_inversion success
  exact ⟨typeName, named, tag⟩

end GeometryEntry

namespace Entry

theorem numbers_of_roundedProperties {places : Value} {numbers properties : Properties}
    (success : roundedProperties places numbers = .ok properties) :
    List.Forall₂ (fun given written => written.1 = given.1 ∧
      ∃ x, written.2 = .float x ∧ places.IsRounded x) numbers properties := by
  induction numbers generalizing properties with
  | nil =>
      cases success
      exact .nil
  | cons first rest inductionHypothesis =>
      obtain ⟨name, value⟩ := first
      rw [roundedProperties] at success
      obtain ⟨number, rounded, success⟩ := bind_eq_ok.mp success
      obtain ⟨others, remaining, success⟩ := bind_eq_ok.mp success
      cases return_eq_ok.mp success
      exact .cons ⟨rfl, number, rfl, Value.isRounded_of_round rounded⟩
        (inductionHypothesis remaining)

theorem areExtracted_of_roundedProperties {places : Value} {numbers properties : Properties}
    (named : ∀ entry ∈ numbers, IsPropertyName entry.1)
    (success : roundedProperties places numbers = .ok properties) : properties.AreExtracted := by
  rintro ⟨name, content⟩ member
  obtain ⟨given, inNumbers, rfl, number, rfl, rounded⟩ :=
    exists_of_mem_right (numbers_of_roundedProperties success) member
  exact ⟨named given inNumbers, .number number rounded.unsigned⟩

theorem isExtracted_of_ofLight? {node : Node} {places : Value} {entry : Entry}
    (success : ofLight? node places = .ok (some entry)) : entry.IsExtracted "Light" := by
  unfold ofLight? at success
  obtain ⟨kind, _, success⟩ := bind_eq_ok.mp success
  split at success
  · obtain ⟨numbers, rounded, success⟩ := bind_eq_ok.mp success
    obtain ⟨color, colored, success⟩ := bind_eq_ok.mp success
    obtain ⟨transform, placed, success⟩ := bind_eq_ok.mp success
    cases return_eq_ok.mp success
    have ofNumbers := areExtracted_of_roundedProperties
      (List.forall_mem_map.mpr fun property _ => property.isPropertyName) rounded
    have ofColor : Properties.AreExtracted (MaterialEntry.named "color" color) :=
      Properties.areExtracted_named (by decide) (isExtracted_of_colorProperty? colored)
    refine {
      tag := ⟨kind.name, ?_, ?_⟩
      properties := ofNumbers.append ofColor
      transform := Transform.isExtracted_of_ofNode placed }
    · cases kind <;> decide
    · cases kind <;> rfl
  · cases return_eq_ok.mp success

theorem isExtracted_of_ofCamera? {node : Node} {places : Value} {entry : Entry}
    (success : ofCamera? node places = .ok (some entry)) : entry.IsExtracted "Camera" := by
  unfold ofCamera? at success
  obtain ⟨kind, _, success⟩ := bind_eq_ok.mp success
  split at success
  · obtain ⟨numbers, rounded, success⟩ := bind_eq_ok.mp success
    obtain ⟨transform, placed, success⟩ := bind_eq_ok.mp success
    cases return_eq_ok.mp success
    have ofNumbers := areExtracted_of_roundedProperties
      (List.forall_mem_map.mpr fun property _ => property.isPropertyName) rounded
    refine {
      tag := ⟨kind.name, ?_, ?_⟩
      properties := ofNumbers
      transform := Transform.isExtracted_of_ofNode placed }
    · cases kind <;> decide
    · cases kind <;> rfl
  · cases return_eq_ok.mp success

end Entry

theorem MeshEntry.isExtracted_of_describes {places shadows : Value} {index : Nat} {node : Node}
    {entry : MeshEntry} {IsType : String → Prop}
    (described : entry.Describes places shadows index node)
    (typed : ∀ typeName, (node.geometry.getD {}).typeName = .text typeName → IsType typeName) :
    entry.IsExtracted IsType := by
  obtain ⟨_, shaped⟩ := described.geometry
  obtain ⟨_, covered⟩ := described.material
  obtain ⟨⟨typeName, isText, tag⟩, arguments⟩ := GeometryEntry.isExtracted_of_ofGeometry shaped
  obtain ⟨materialTag, properties⟩ := MaterialEntry.isExtracted_of_ofSurface covered
  exact {
    name := Identifier.spells_ofValue index described.name
    geometry := ⟨typeName, typed typeName isText, tag⟩
    arguments
    material := materialTag
    properties
    transform := Transform.isExtracted_of_ofNode described.transform }

/-! ## Whole inventories -/

/-- The class of the type names of the geometries of meshes. -/
def Node.GeometriesAre (IsType : String → Prop) (nodes : List Node) : Prop :=
  ∀ node ∈ nodes, node.kind = .mesh →
    ∀ typeName, (node.geometry.getD {}).typeName = .text typeName → IsType typeName

/-- An inventory of extracted entries, of clips with identifiers at numbered places, and
of the references of its entries. -/
structure Inventory.IsExtracted (IsType : String → Prop) (inventory : Inventory) : Prop where
  meshes : ∀ entry ∈ inventory.meshes, entry.IsExtracted IsType
  lights : ∀ entry ∈ inventory.lights, entry.IsExtracted "Light"
  cameras : ∀ entry ∈ inventory.cameras, entry.IsExtracted "Camera"
  clips : ∃ slots : List Clip.Slot,
    (∀ slot ∈ slots, Identifier.spells slot.name.toList = true) ∧
      inventory.clipNames = slots.map (fun slot => .text slot.name) ∧
      inventory.clipIndices = slots.map (fun slot => .int (Int.ofNat slot.index))
  references : inventory.references = Inventory.referencesOf inventory.meshes inventory.lights
    inventory.cameras inventory.hasClips

theorem Clip.spells_of_slots {clips : List Clip} {slots : List Slot}
    (success : Clip.slots clips = .ok slots) :
    ∀ slot ∈ slots, Identifier.spells slot.name.toList = true := by
  intro slot member
  obtain ⟨place, _, made⟩ := exists_of_mem_right (mapM_eq_ok.mp success) member
  obtain ⟨name, _, made⟩ := bind_eq_ok.mp made
  cases return_eq_ok.mp made
  exact Identifier.spells_ofName _ _ _

namespace Inventory

theorem isExtracted_of_survey {root : Node} {clips : List Clip} {places shadows : Value}
    {inventory : Inventory} {records : List Record} {IsType : String → Prop}
    (success : survey root clips places shadows = .ok (inventory, records))
    (typed : Node.GeometriesAre IsType root.properDescendants) : inventory.IsExtracted IsType := by
  obtain ⟨findings, slots, along, played, rfl⟩ := survey_trace success
  refine {
    meshes := ?_
    lights := ?_
    cameras := ?_
    clips := ⟨slots, Clip.spells_of_slots played, rfl, rfl⟩
    references := ?_ }
  · intro entry member
    obtain ⟨⟨node, index⟩, placed, described⟩ := exists_of_mem_right along.meshes member
    have inRole := (List.mem_zipIdx placed).2.2
    have isMesh : node ∈ Finding.FoundAlong.ofRole .mesh root.properDescendants := by
      rw [inRole]
      exact List.getElem_mem _
    obtain ⟨below, plays⟩ := List.mem_filter.mp isMesh
    have kind := Node.kind_of_role_mesh (Node.plays_iff.mp plays)
    exact MeshEntry.isExtracted_of_describes described (typed node below kind)
  · intro entry member
    obtain ⟨node, _, given⟩ := exists_of_mem_right along.lights member
    exact Entry.isExtracted_of_ofLight? given
  · intro entry member
    obtain ⟨node, _, given⟩ := exists_of_mem_right along.cameras member
    exact Entry.isExtracted_of_ofCamera? given
  · cases slots <;> rfl

end Inventory

/-! ## Regular entries -/

inductive Value.IsRegular : Value → Prop where
  | flag : IsRegular (.bool true)
  | number (x : Float) : IsRegular (.float x)
  | color (digits : List Char) (alphanumeric : ∀ c ∈ digits, isAsciiAlphanumeric c = true) :
      IsRegular (.text ("#" ++ String.ofList digits))
  | side (side : Side) : IsRegular (.constant side.name)

theorem Value.IsExtracted.isRegular {value : Value} (extracted : value.IsExtracted) :
    value.IsRegular := by
  cases extracted with
  | flag => exact .flag
  | number x => exact .number x
  | color digits alphanumeric => exact .color digits alphanumeric
  | side side => exact .side side

theorem Value.IsRoundedTriple.isTriple {value : Value} (rounded : value.IsRoundedTriple) :
    value.IsTriple := by
  obtain ⟨x, y, z, same, _⟩ := rounded
  exact ⟨x, y, z, same⟩

def Properties.AreRegular (properties : Properties) : Prop :=
  ∀ entry ∈ properties, IsWord entry.1 ∧ entry.2.IsRegular

theorem Properties.areRegular_nil : Properties.AreRegular [] := List.forall_mem_nil _

theorem Properties.AreExtracted.areRegular {properties : Properties}
    (extracted : properties.AreExtracted) : properties.AreRegular := fun entry member =>
  ⟨(extracted entry member).1.2.1, (extracted entry member).2.isRegular⟩

structure Transform.IsRegular (transform : Transform) : Prop where
  position : ∀ part, transform.position = some part → part.IsTriple
  rotation : ∀ part, transform.rotation = some part → part.IsTriple
  scale : ∀ part, transform.scale = some part → part.IsTriple

structure Entry.IsRegular (entry : Entry) : Prop where
  tag : ∃ word, IsWord word ∧ entry.tag = tagStem ++ word
  properties : entry.properties.AreRegular
  transform : entry.transform.IsRegular

/-- A mesh whose geometry has a type name of a class. -/
structure MeshEntry.IsRegular (IsType : String → Prop) (entry : MeshEntry) : Prop where
  name : Identifier.spells entry.name.toList = true
  geometry : ∃ typeName, IsType typeName ∧ entry.geometry.tag = GeometryEntry.tagOf typeName
  arguments : ∃ numbers : List Float, entry.geometry.arguments = numbers.map .float
  material : ∃ word, IsWord word ∧ entry.material.tag = tagStem ++ word
  properties : entry.material.properties.AreRegular
  transform : entry.transform.IsRegular

/-- An inventory of regular entries, of clips with identifiers at numbered places, and
of the references of its entries. -/
structure Inventory.IsRegular (IsType : String → Prop) (inventory : Inventory) : Prop where
  meshes : ∀ entry ∈ inventory.meshes, entry.IsRegular IsType
  lights : ∀ entry ∈ inventory.lights, entry.IsRegular
  cameras : ∀ entry ∈ inventory.cameras, entry.IsRegular
  clips : ∃ slots : List Clip.Slot,
    (∀ slot ∈ slots, Identifier.spells slot.name.toList = true) ∧
      inventory.clipNames = slots.map (fun slot => .text slot.name) ∧
      inventory.clipIndices = slots.map (fun slot => .int (Int.ofNat slot.index))
  references : inventory.references = Inventory.referencesOf inventory.meshes inventory.lights
    inventory.cameras inventory.hasClips

theorem Transform.IsExtracted.isRegular {transform : Transform}
    (extracted : transform.IsExtracted) : transform.IsRegular where
  position := fun part isPart => (extracted.position part isPart).isTriple
  rotation := fun part isPart => (extracted.rotation part isPart).isTriple
  scale := fun part isPart => (extracted.scale part isPart).isTriple

theorem Entry.IsExtracted.isRegular {ending : String} {entry : Entry}
    (extracted : entry.IsExtracted ending) : entry.IsRegular where
  tag := extracted.tag.elim fun stem tagged => ⟨stem ++ ending, tagged⟩
  properties := extracted.properties.areRegular
  transform := extracted.transform.isRegular

theorem MeshEntry.IsExtracted.isRegular {IsType : String → Prop} {entry : MeshEntry}
    (extracted : entry.IsExtracted IsType) : entry.IsRegular IsType where
  name := extracted.name
  geometry := extracted.geometry
  arguments := extracted.arguments.imp fun _ numbers => numbers.2
  material := extracted.material.elim fun stem tagged => ⟨stem ++ "Material", tagged⟩
  properties := extracted.properties.areRegular
  transform := extracted.transform.isRegular

theorem Inventory.isRegular_of_survey {root : Node} {clips : List Clip} {places shadows : Value}
    {inventory : Inventory} {records : List Record} {IsType : String → Prop}
    (success : survey root clips places shadows = .ok (inventory, records))
    (typed : Node.GeometriesAre IsType root.properDescendants) : inventory.IsRegular IsType :=
  have extracted := isExtracted_of_survey success typed
  { meshes := fun entry member => (extracted.meshes entry member).isRegular
    lights := fun entry member => (extracted.lights entry member).isRegular
    cameras := fun entry member => (extracted.cameras entry member).isRegular
    clips := extracted.clips
    references := extracted.references }

end SceneComponent
