import Mathlib
import SceneComponent.Component.Source
import SceneComponent.Proofs.Component.Markup
import SceneComponent.Proofs.Component.References
import SceneComponent.Proofs.Component.SetupText

/-!
# Imports as a closure

A component imports what it uses and nothing else: of the framework the tags of
its template, of the engine the constants that the template binds, and of the
script and the helpers what the text of its setup calls.  In the options style
the setup hands out the bound constants beside the names of the model.  The tags
of the template are those that its text opens, where type names are words.
-/

set_option autoImplicit false

namespace SceneComponent

open Checked

theorem Clip.firstPlaces_eq_nil {clips : List Clip} : firstPlaces clips = [] ↔ clips = [] := by
  cases clips with
  | nil => simp [firstPlaces, firstPlacesFrom]
  | cons clip rest => simp [firstPlaces, firstPlacesFrom]

theorem Inventory.hasClips_of_survey {root : Node} {clips : List Clip} {places shadows : Value}
    {inventory : Inventory} {records : List Record}
    (success : survey root clips places shadows = .ok (inventory, records)) :
    inventory.hasClips = true ↔ clips ≠ [] := by
  obtain ⟨findings, slots, _, played, rfl⟩ := survey_trace success
  have sameLength := (mapM_eq_ok.mp played).length_eq
  have slotsEmpty : slots = [] ↔ Clip.firstPlaces clips = [] := by
    rw [← List.length_eq_zero_iff, ← sameLength, List.length_eq_zero_iff]
  have flag : (ofFindings findings slots).hasClips = !slots.isEmpty := by
    cases slots <;> rfl
  rw [flag, ne_eq, ← Clip.firstPlaces_eq_nil, ← slotsEmpty]
  simp

namespace Imports

/-- The imports of a component and the names that its template and its setup use are
the same, for a list of clips. -/
structure AreClosed (inventory : Inventory) (style : Style) (clips : List Clip) : Prop where
  modules : ∀ source ∈ (groups inventory style).map ImportGroup.source,
    source ∈ [scriptModule, frameworkModule, engineModule, helperModule]
  framework : style.dialect = .standalone → ∀ name,
    name ∈ importedFrom frameworkModule inventory style ↔
      name ∈ (Template.root inventory style).tags ∧ IsFrameworkName name
  registered : style.dialect = .serverRendered →
    frameworkModule ∉ (groups inventory style).map ImportGroup.source
  engine : ∀ name, name ∈ importedFrom engineModule inventory style ↔
    name ∈ (Template.root inventory style).constants
  engineModule_iff : engineModule ∈ (groups inventory style).map ImportGroup.source ↔
    (Template.root inventory style).constants ≠ []
  helper : ∀ name, name ∈ importedFrom helperModule inventory style ↔
    name = "useGLTF" ∨ (name = "useAnimations" ∧ clips ≠ [])
  script : ∀ name, name ∈ importedFrom scriptModule inventory style ↔
    (name = "ref" ∧ clips ≠ []) ∨
      (name = "onMounted" ∧ clips ≠ [] ∧ style.composition = true) ∨
      (name = "defineComponent" ∧ style.typed = true ∧ style.composition = false)
  called : ∀ name ∈ Setup.callables, Text.Mentions (Setup.block inventory style) name ↔
    name ∈ importedFrom scriptModule inventory style ∨
      name ∈ importedFrom helperModule inventory style
  defined : "defineComponent" ∈ importedFrom scriptModule inventory style →
    "export default defineComponent(\x7b" ∈ ComponentFile.scriptParts inventory style
  returned : style.composition = false → ∀ name,
    name ∈ Setup.returnedNames (Setup.block inventory style) ↔
      name = "scene" ∨ name ∈ importedFrom engineModule inventory style ∨
        (clips ≠ [] ∧ name ∈ ["group", "animations", "actions"])

variable {IsType : String → Prop} {inventory : Inventory} {style : Style}

theorem mem_framework_iff (regular : inventory.IsRegular IsType)
    (standalone : style.dialect = .standalone) (name : String) :
    name ∈ importedFrom frameworkModule inventory style ↔
      name ∈ (Template.root inventory style).tags ∧ IsFrameworkName name := by
  have helperApart : ¬ IsFrameworkName clipHelper := by decide
  have sceneApart : ¬ IsFrameworkName "primitive" := by decide
  have groupTagged : IsFrameworkName groupTag := by decide
  have inNames : name ∈ (frameworkNames inventory style).names ↔
      name = groupTag ∨ (name ∈ inventory.references ∧ IsFrameworkName name) := by
    rw [frameworkNames, standalone]
    exact NameSet.mem_insert.trans (or_congr Iff.rfl NameSet.mem_filter)
  rw [importedFrom_framework, inNames, regular.mem_references, Template.tags_root,
    List.mem_cons, List.mem_append, List.mem_singleton]
  constructor
  · rintro (rfl | ⟨inTags | isConstant | ⟨_, rfl⟩, tagged⟩)
    · exact ⟨.inl rfl, groupTagged⟩
    · exact ⟨.inr (.inl inTags), tagged⟩
    · exact absurd tagged (not_isFrameworkName_engine (regular.mem_engineConstants isConstant))
    · exact absurd tagged helperApart
  · rintro ⟨rfl | inTags | rfl, tagged⟩
    · exact .inl rfl
    · exact .inr ⟨.inl inTags, tagged⟩
    · exact absurd tagged sceneApart

theorem mem_engine_iff (regular : inventory.IsRegular IsType) (name : String) :
    name ∈ importedFrom engineModule inventory style ↔
      name ∈ (Template.root inventory style).constants := by
  have helperApart : clipHelper ∉ engineConstants := by decide
  have inNames : name ∈ (engineNames inventory).names ↔
      name ∈ inventory.references ∧ name ∈ engineConstants :=
    NameSet.mem_filter.trans (and_congr Iff.rfl List.contains_iff_mem)
  rw [importedFrom_engine, inNames, regular.mem_references, Template.constants_root regular]
  constructor
  · rintro ⟨inTags | isConstant | ⟨_, rfl⟩, engine⟩
    · exact absurd (regular.isFrameworkName_of_mem_entryTags inTags)
        (not_isFrameworkName_engine engine)
    · exact isConstant
    · exact absurd engine helperApart
  · intro isConstant
    exact ⟨.inr (.inl isConstant), regular.mem_engineConstants isConstant⟩

theorem mem_helper_iff (regular : inventory.IsRegular IsType) (name : String) :
    name ∈ importedFrom helperModule inventory style ↔
      name = "useGLTF" ∨ (name = "useAnimations" ∧ inventory.hasClips = true) := by
  have noTag : ¬ IsFrameworkName clipHelper := by decide
  have noConstant : clipHelper ∉ engineConstants := by decide
  have referred : inventory.references.contains clipHelper = true ↔
      inventory.hasClips = true := by
    refine List.contains_iff_mem.trans ?_
    refine regular.mem_references.trans ?_
    constructor
    · rintro (inTags | isConstant | ⟨clips, _⟩)
      · exact absurd (regular.isFrameworkName_of_mem_entryTags inTags) noTag
      · exact absurd (regular.mem_engineConstants isConstant) noConstant
      · exact clips
    · intro clips
      exact .inr (.inr ⟨clips, rfl⟩)
  rw [importedFrom_helper]
  refine NameSet.mem_ofList.trans ?_
  rw [List.mem_cons]
  refine or_congr Iff.rfl ?_
  by_cases clips : inventory.hasClips = true
  · rw [if_pos (referred.mpr clips)]
    simp [clips, clipHelper]
  · have unreferred : ¬ inventory.references.contains clipHelper = true :=
      fun contains => clips (referred.mp contains)
    rw [if_neg unreferred]
    simp [clips]

theorem mem_script_iff (name : String) :
    name ∈ importedFrom scriptModule inventory style ↔
      (name = "ref" ∧ inventory.hasClips = true) ∨
        (name = "onMounted" ∧ inventory.hasClips = true ∧ style.composition = true) ∨
        (name = "defineComponent" ∧ style.typed = true ∧ style.composition = false) := by
  rw [importedFrom_script]
  refine NameSet.mem_ofList.trans ?_
  cases inventory.hasClips <;> cases style.composition <;> cases style.typed <;> simp

theorem mentions_iff_imported (regular : inventory.IsRegular IsType) {name : String}
    (callable : name ∈ Setup.callables) :
    Text.Mentions (Setup.block inventory style) name ↔
      name ∈ importedFrom scriptModule inventory style ∨
        name ∈ importedFrom helperModule inventory style := by
  rw [Setup.mentions_block regular callable, mem_script_iff, mem_helper_iff regular]
  simp only [Setup.callables, List.mem_cons, List.not_mem_nil, or_false] at callable
  rcases callable with rfl | rfl | rfl | rfl
  · simp
  · simp
  · simp
  · simp [and_comm]

theorem mem_returnedNames_iff (regular : inventory.IsRegular IsType)
    (options : style.composition = false) (name : String) :
    name ∈ Setup.returnedNames (Setup.block inventory style) ↔
      name = "scene" ∨ name ∈ importedFrom engineModule inventory style ∨
        (inventory.hasClips = true ∧ name ∈ ["group", "animations", "actions"]) := by
  rw [Setup.returnedNames_block regular options, Setup.exposedNames, List.mem_append]
  cases inventory.hasClips with
  | false =>
      simp only [Bool.false_eq_true, ↓reduceIte, List.mem_singleton, false_and, or_false]
      exact Iff.rfl
  | true =>
      simp only [↓reduceIte, List.mem_cons, List.not_mem_nil, or_false, true_and]
      change _ ∨ name ∈ importedFrom engineModule inventory style ↔ _
      tauto

/-- Whatever the scene, the clips and the style, the imports of the component are
those of what it uses. -/
theorem closed_of_survey {root : Node} {clips : List Clip} {places shadows : Value}
    {records : List Record} (style : Style)
    (success : Inventory.survey root clips places shadows = .ok (inventory, records)) :
    AreClosed inventory style clips := by
  have regular : inventory.IsRegular fun _ => True :=
    Inventory.isRegular_of_survey success fun _ _ _ _ _ => trivial
  have hasClips := Inventory.hasClips_of_survey success
  refine {
    modules := ?_
    framework := mem_framework_iff regular
    registered := ?_
    engine := mem_engine_iff regular
    engineModule_iff := ?_
    helper := ?_
    script := ?_
    called := fun name => mentions_iff_imported regular
    defined := ?_
    returned := ?_ }
  · intro source member
    obtain ⟨group, inGroups, rfl⟩ := List.mem_map.mp member
    rw [groups_eq_filter] at inGroups
    rw [← sources_allGroups inventory style]
    exact List.mem_map_of_mem (List.mem_filter.mp inGroups).1
  · intro serverRendered
    rw [mem_sources_iff, importedFrom_framework, frameworkNames, serverRendered]
    exact fun named => named rfl
  · rw [mem_sources_iff, ne_eq, ne_eq, List.eq_nil_iff_forall_not_mem,
      List.eq_nil_iff_forall_not_mem]
    simp only [mem_engine_iff regular]
  · intro name
    rw [mem_helper_iff regular, hasClips]
  · intro name
    rw [mem_script_iff, hasClips]
  · intro imported
    rw [mem_script_iff] at imported
    simp only [String.reduceEq, false_and, true_and, false_or] at imported
    simp [ComponentFile.scriptParts, ComponentFile.optionsParts, imported.1, imported.2]
  · intro options name
    rw [mem_returnedNames_iff regular options, hasClips]

/-- Under type names of word characters the text of the template opens its tags, so that the
framework is imported for what the text opens. -/
theorem opened_of_survey {root : Node} {clips : List Clip} {places shadows : Value}
    {records : List Record} (style : Style)
    (typeNames : Node.GeometriesAre IsTypeName root.properDescendants)
    (success : Inventory.survey root clips places shadows = .ok (inventory, records)) :
    Text.openedTags (Template.block inventory style) = (Template.root inventory style).tags ∧
      (style.dialect = .standalone → ∀ name,
        name ∈ importedFrom frameworkModule inventory style ↔
          name ∈ Text.openedTags (Template.block inventory style) ∧ IsFrameworkName name) := by
  have regular := Inventory.isRegular_of_survey success typeNames
  have opened := Template.openedTags_block regular style
  refine ⟨opened, fun standalone name => ?_⟩
  rw [opened]
  exact mem_framework_iff regular standalone name

/-- A mesh that shows both faces, under a light whose kind is not modelled. -/
def facedScene : Node :=
  { children := [
      { kind := .light, typeName := .text "HemisphereLight"
        children := [
          { kind := .mesh, name := .text "Leaf"
            surface := .single { typeName := .text "MeshStandardMaterial", side := .double } }] },
      { kind := .camera, typeName := .text "PerspectiveCamera" }] }

def facedStyle : Style := { composition := false }

def facedClips : List Clip := [⟨0, .text "ref", 1.0⟩]

theorem facedScene_closed : ∃ inventory records,
    Inventory.survey facedScene facedClips = .ok (inventory, records) ∧
      importedFrom frameworkModule inventory facedStyle =
        ["TresBufferGeometry", "TresGroup", "TresMesh", "TresMeshStandardMaterial",
          "TresPerspectiveCamera"] ∧
      importedFrom engineModule inventory facedStyle = ["DoubleSide"] ∧
      AreClosed inventory facedStyle facedClips := by
  have names : (Inventory.survey facedScene facedClips).toOption.map (fun result =>
      (importedFrom frameworkModule result.1 facedStyle,
        importedFrom engineModule result.1 facedStyle)) =
      some (["TresBufferGeometry", "TresGroup", "TresMesh", "TresMeshStandardMaterial",
        "TresPerspectiveCamera"], ["DoubleSide"]) := by decide +kernel
  obtain ⟨⟨inventory, records⟩, made, named⟩ := ok_of_map_toOption names
  obtain ⟨framework, engine⟩ := Prod.mk.inj named
  exact ⟨inventory, records, made, framework, engine, closed_of_survey facedStyle made⟩

end Imports

end SceneComponent
