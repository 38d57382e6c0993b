import Mathlib
import SceneComponent.Proofs.Component.ImportClosure
import SceneComponent.Proofs.Component.TemplateText

/-!
# Lines of component files

Of all lines of a component file only those of its import block are import
statements, in either style: the texts of the options are written as literals,
which stay on one line, and no other line begins like an import.
-/

set_option autoImplicit false

namespace SceneComponent

open Text

variable {inventory : Inventory}

theorem feed_not_mem_scriptString (text : String) : '\n' ∉ (scriptString text).toList := by
  rw [scriptString, String.toList_ofList, scriptCharacters]
  intro member
  simp only [List.cons_append, List.mem_cons, List.mem_append, List.mem_flatMap, List.not_mem_nil,
    or_false] at member
  rcases member with quote | ⟨c, _, escaped⟩ | quote
  · exact absurd quote (by decide)
  · unfold scriptEscape at escaped
    split at escaped
    · simp at escaped
    · split at escaped
      · simp at escaped
      · split at escaped
        · simp at escaped
        · next feed => exact feed (List.mem_singleton.mp escaped).symm
  · exact absurd quote (by decide)

/-! ## The property -/

namespace PathProperty

/-- The lines that do not hold the path. -/
def fixedLines : List String :=
  ["props: \x7b", "path: \x7b", "type: String as PropType<string>,", "type: String,", "\x7d,",
    "interface Props \x7b", "path?: string", "\x7d", "",
    "const props = withDefaults(defineProps<Props>(), \x7b", "\x7d)",
    "const props = defineProps(\x7b"]

theorem isOther_steps (style : Style) : ∀ step ∈ steps style, step.IsOther := by
  have path := feed_not_mem_scriptString style.modelPath
  have standard : (standardLine style).IsOther :=
    isOther_line (by simpa using path) (by simp) (by simp)
  have given : (LayoutStep.line ("path: " ++ scriptString style.modelPath ++ ",")).IsOther :=
    isOther_line (by simpa using path) (by simp) (by simp)
  have fixed : ∀ text ∈ fixedLines, (LayoutStep.line text).IsOther := by decide
  simp only [fixedLines, List.forall_mem_cons] at fixed
  unfold steps
  split
  · unfold member
    split
    · simp [description, deeper, standard, fixed, isOther_enter, isOther_leave]
    · simp [description, deeper, standard, fixed, isOther_enter, isOther_leave]
  · split
    · simp [typedDeclaration, deeper, given, fixed, isOther_enter, isOther_leave]
    · simp [untypedDeclaration, description, deeper, standard, fixed, isOther_enter,
        isOther_leave]

theorem importLines_block (style : Style) : importLines (block style) = [] := by
  refine importLines_laidOut (isOther_steps style) ?_
  unfold steps
  split
  · simp [member, LayoutStep.bare]
  · split
    · simp [typedDeclaration, LayoutStep.bare]
    · simp [untypedDeclaration, LayoutStep.bare]

end PathProperty

/-! ## The setup -/

namespace Setup

theorem importLines_block {IsType : String → Prop} (regular : inventory.IsRegular IsType)
    (style : Style) : importLines (block inventory style) = [] := by
  refine importLines_laidOut ?_ bare_steps_ne_nil
  refine HoldsOfParts.steps ⟨isOther_enter, isOther_leave, by decide, by decide, ?_⟩
  intro receiver known slot member
  have single := isSingle_playLine known regular member
  rcases head?_playLine known regular member with first | first
  · exact isOther_line single (by simp [first]) (by simp [first])
  · exact isOther_line single (by simp [first]) (by simp [first])

end Setup

/-! ## The imports -/

namespace Imports

theorem isRest_of_imported (regular : inventory.IsRegular IsTypeName) {style : Style}
    {group : ImportGroup} (member : group ∈ allGroups inventory style) {name : String}
    (named : name ∈ group.names.names) : ∀ c ∈ name.toList, Identifier.isRest c = true := by
  have fixed : ∀ name ∈ ["ref", "onMounted", "defineComponent", "useGLTF", "useAnimations",
      "primitive", groupTag] ++ engineConstants, name.toList.all Identifier.isRest = true := by
    decide
  simp only [List.forall_mem_append, List.forall_mem_cons] at fixed
  obtain ⟨⟨reference, mounting, definition, loading, playing, primitive, groupPlain, _⟩,
    engine⟩ := fixed
  rw [← importedFrom_group member] at named
  simp only [allGroups, List.mem_cons, List.not_mem_nil, or_false] at member
  rcases member with rfl | rfl | rfl | rfl
  · rcases mem_script_iff name |>.mp named with ⟨rfl, _⟩ | ⟨rfl, _⟩ | ⟨rfl, _⟩
    · exact List.all_eq_true.mp reference
    · exact List.all_eq_true.mp mounting
    · exact List.all_eq_true.mp definition
  · cases dialect : style.dialect with
    | standalone =>
        have inTags := ((mem_framework_iff regular dialect name).mp named).1
        rw [Template.tags_root, List.mem_cons, List.mem_append, List.mem_singleton] at inTags
        rcases inTags with rfl | inEntries | rfl
        · exact List.all_eq_true.mp groupPlain
        · exact regular.isRest_of_mem_entryTags inEntries
        · exact List.all_eq_true.mp primitive
    | serverRendered =>
        rw [importedFrom_framework, frameworkNames, dialect] at named
        cases named
  · exact List.all_eq_true.mp
      (engine name (mem_engineConstants_of_imported inventory style named))
  · rcases (mem_helper_iff regular name).mp named with rfl | ⟨rfl, _⟩
    · exact List.all_eq_true.mp loading
    · exact List.all_eq_true.mp playing

theorem plain_source : ∀ source ∈ [scriptModule, frameworkModule, engineModule, helperModule],
    ∀ c ∈ source.toList, scriptEscape c = [c] ∧ c ≠ '\'' := by
  have each : ∀ source ∈ [scriptModule, frameworkModule, engineModule, helperModule],
      source.toList.all (fun c => scriptEscape c = [c] ∧ c ≠ '\'') = true := by decide
  intro source member c inSource
  simpa using List.all_eq_true.mp (each source member) c inSource

theorem isPlain_statements (regular : inventory.IsRegular IsTypeName) (style : Style) :
    ∀ statement ∈ statements inventory style, statement.IsPlain := by
  intro statement member
  rcases List.mem_append.mp member with typing | inGroups
  · split at typing
    · rw [List.mem_singleton.mp typing]
      have word : "PropType".toList.all Identifier.isRest = true := rfl
      exact {
        some := by simp
        names := by simpa using List.all_eq_true.mp word
        source := plain_source scriptModule (by simp) }
    · cases typing
  · obtain ⟨group, inFiltered, rfl⟩ := List.mem_map.mp inGroups
    rw [groups_eq_filter] at inFiltered
    obtain ⟨inAll, named⟩ := List.mem_filter.mp inFiltered
    have known : group.source ∈ [scriptModule, frameworkModule, engineModule, helperModule] := by
      rw [← sources_allGroups inventory style]
      exact List.mem_map_of_mem inAll
    exact {
      some := by simpa [NameSet.isEmpty] using named
      names := fun name => isRest_of_imported regular inAll
      source := plain_source group.source known }

theorem statements_ne_nil (inventory : Inventory) (style : Style) :
    statements inventory style ≠ [] := by
  have helped : helperModule ∈ (groups inventory style).map ImportGroup.source := by
    rw [mem_sources_iff, importedFrom_helper]
    intro none
    have loading : modelHelper ∈ helperNames inventory :=
      NameSet.mem_ofList.mpr (List.mem_cons_self ..)
    change modelHelper ∈ (helperNames inventory).names at loading
    rw [none] at loading
    cases loading
  intro none
  have noGroups := (List.append_eq_nil_iff.mp none).2
  rw [List.map_eq_nil_iff.mp noGroups] at helped
  cases helped

theorem importLines_block (regular : inventory.IsRegular IsTypeName) (style : Style) :
    importLines (block inventory style) =
      (statements inventory style).map fun statement => statement.text.toList := by
  have plain := isPlain_statements regular style
  have visible : ∀ statement ∈ statements inventory style,
      unindented statement.text.toList = statement.text.toList := by
    intro statement member
    refine unindented_visible ?_
    simp [ImportStatement.text]
  have lines : ((statements inventory style).map fun statement =>
      LayoutStep.line statement.text).flatMap LayoutStep.bare =
        (statements inventory style).map fun statement => statement.text.toList := by
    rw [List.flatMap_map, List.map_eq_flatMap]
    refine List.flatMap_congr fun statement member => ?_
    rw [LayoutStep.bare, visible statement member]
  have single : ∀ step ∈ (statements inventory style).map fun statement =>
      LayoutStep.line statement.text, step.IsSingle := by
    intro step member
    obtain ⟨statement, inStatements, rfl⟩ := List.mem_map.mp member
    exact ImportStatement.feed_not_mem_text (plain statement inStatements)
  have written : ((statements inventory style).map fun statement =>
      LayoutStep.line statement.text).flatMap LayoutStep.bare ≠ [] := by
    rw [lines]
    simpa using statements_ne_nil inventory style
  rw [importLines, block, bareLines_laidOut single written, lines, List.filter_eq_self]
  intro line member
  obtain ⟨statement, inStatements, rfl⟩ := List.mem_map.mp member
  exact ImportStatement.isImport_text (plain statement inStatements)

end Imports

/-! ## The file -/

theorem importLines_intercalate {parts : List String} (someParts : parts ≠ []) :
    importLines ("\n".intercalate parts ++ "\n") = parts.flatMap importLines := by
  have ended : "\n".intercalate parts ++ "\n" = "\n".intercalate parts ++ "\n" ++ "" := by simp
  have last : (bareLines "").filter ImportLine.isImport = [] := by decide
  rw [importLines, ended, bareLines_append_feed, bareLines_intercalate someParts,
    List.filter_append, last, List.append_nil, List.filter_flatMap]
  rfl

namespace ComponentFile

theorem importLines_members {IsType : String → Prop} (regular : inventory.IsRegular IsType)
    (style : Style) : importLines (members inventory style) = [] := by
  have name : (LayoutStep.line ("name: " ++ scriptString style.componentName ++ ",")).IsOther :=
    isOther_line (by simpa using feed_not_mem_scriptString style.componentName) (by simp) (by simp)
  have property := PathProperty.importLines_block style
  have setup := Setup.importLines_block regular style
  have first := importLines_steps (List.forall_mem_singleton.mpr name)
  unfold importLines at property setup ⊢
  rw [members, bareLines_laidOut (by simpa [LayoutStep.IsSingle] using name.1)
    (by simp [LayoutStep.bare])]
  simp only [List.flatMap_cons, List.flatMap_nil, List.append_nil] at first ⊢
  rw [List.filter_append, List.filter_append, first, LayoutStep.bare, LayoutStep.bare, property,
    setup]
  rfl

/-- The import statements of a file are those of its import block, in order. -/
theorem importLines_text (regular : inventory.IsRegular IsTypeName) (style : Style) :
    importLines (text inventory style) =
      (Imports.statements inventory style).map fun statement => statement.text.toList := by
  have fixed : ∀ part ∈ ["<template>", "</template>", "", "<script>", "<script setup>",
      "<script lang=\"ts\">", "<script setup lang=\"ts\">", "export default defineComponent(\x7b",
      "export default \x7b", "\x7d)", "\x7d", "</script>", "<style scoped>",
      "/* Add any component-specific styles here */", "</style>"],
      importLines part = [] := by decide
  simp only [List.forall_mem_cons] at fixed
  have opening : importLines (scriptOpening style) = [] := by
    unfold scriptOpening
    cases style.composition <;> cases style.typed <;> simp [fixed]
  have template := Template.importLines_block regular style
  have property := PathProperty.importLines_block style
  have setup := Setup.importLines_block regular style
  have members := importLines_members regular style
  have imports := Imports.importLines_block regular style
  rw [text, importLines_intercalate (by simp [parts]), ← imports]
  cases composition : style.composition with
  | true =>
      simp [parts, scriptParts, compositionParts, composition, fixed, opening, template, property,
        setup]
  | false =>
      have defining : importLines (if style.typed then "export default defineComponent(\x7b"
          else "export default \x7b") = [] := by
        split <;> simp [fixed]
      have ending : importLines (if style.typed then "\x7d)" else "\x7d") = [] := by
        split <;> simp [fixed]
      simp [parts, scriptParts, optionsParts, composition, fixed, opening, template, defining,
        members, ending]

end ComponentFile

end SceneComponent
