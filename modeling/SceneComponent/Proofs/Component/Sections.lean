import Mathlib
import SceneComponent.Proofs.Component.Markup
import SceneComponent.Proofs.Conversion.ReportedImports
import SceneComponent.Proofs.Text.Sections

/-!
# Sections of component files

A component file closes its template, its script and its style once each.  What the
scene brings into it closes no section, since names are made of letters, digits and
underscores and values are escaped for the template.  The path of the model alone is
written as a script literal, which closes in the file what the path closes on its own.
-/

set_option autoImplicit false

namespace SceneComponent

open Checked Text

variable {inventory : Inventory}

/-! ## The template -/

theorem closedSection?_of_second {c : Char} (other : c ≠ 't' ∧ c ≠ 's') (rest : List Char) :
    closedSection? ('/' :: c :: rest) = none := by
  refine closedSection?_eq_none_iff.mpr ?_
  rintro name known ⟨back, same⟩
  simp only [sectionNames, List.mem_cons, List.not_mem_nil, or_false] at known
  rcases known with rfl | rfl | rfl
  · simp [closingOf] at same
    exact other.1 same.1.symm
  · simp [closingOf] at same
    exact other.2 same.1.symm
  · simp [closingOf] at same
    exact other.2 same.1.symm

theorem readsOpenings_closedSection? : ReadsOpenings closedSection? fun _ => (none : Option String) where
  stops := feedStops
  remark := closedSection?_of_ne (by decide)
  opening := by
    intro tag spelled back _
    cases chars : tag.toList with
    | nil =>
        rw [IsIdentifier, chars] at spelled
        cases spelled
    | cons first rest =>
        have isRest := Identifier.isRest_of_spells spelled first (chars ▸ List.mem_cons_self ..)
        refine closedSection?_of_ne ?_ _
        rintro rfl
        exact absurd isRest (by decide)

namespace Template

open Element

/-- No section begins with the capital of the stem, or is called like the tag of the scene. -/
theorem passesClosing_of_mem_tags (regular : inventory.IsRegular IsTypeName) {style : Style}
    {tag : String} (member : tag ∈ (root inventory style).tags) :
    PassesClosing closedSection? tag := by
  rcases stem_of_mem_tags regular member with rfl | ⟨rest, _, rfl⟩
  · exact closedSection?_of_second (by decide) _
  · have chars : ("/" ++ (tagStem ++ rest) ++ ">").toList =
        '/' :: 'T' :: ("res" ++ rest ++ ">").toList := by simp [tagStem]
    rw [PassesClosing, chars]
    exact closedSection?_of_second (by decide) _

theorem sectionEnds_block (regular : inventory.IsRegular IsTypeName) (style : Style) :
    sectionEnds (block inventory style) = [] := by
  rw [sectionEnds, block, readsOpenings_closedSection?.laidOut 1
    (fun _ member => ⟨isIdentifier_of_mem_tags regular member,
      passesClosing_of_mem_tags regular member⟩)
    (isUnmarked_sources.root regular style)
    (isUnmarked_remarks regular style)]
  exact List.filterMap_eq_nil_iff.mpr fun _ _ => rfl

end Template

/-! ## The script -/

namespace Imports

theorem source_mem_modules {style : Style} {statement : ImportStatement}
    (member : statement ∈ statements inventory style) :
    statement.source ∈ [scriptModule, frameworkModule, engineModule, helperModule] := by
  have inGroups := mem_statement_sources.mp (List.mem_map_of_mem member)
  obtain ⟨group, inFiltered, source⟩ := List.mem_map.mp inGroups
  rw [groups_eq_filter] at inFiltered
  rw [← source, ← sources_allGroups inventory style]
  exact List.mem_map_of_mem (List.mem_filter.mp inFiltered).1

theorem sectionEnds_block (regular : inventory.IsRegular IsTypeName) (style : Style) :
    sectionEnds (block inventory style) = [] := by
  have modules : ∀ source ∈ [scriptModule, frameworkModule, engineModule, helperModule],
      IsUnmarked source := by decide
  rw [sectionEnds, block, afterMarks_laidOut feedStops, List.flatMap_eq_nil_iff]
  intro step member
  obtain ⟨statement, inStatements, rfl⟩ := List.mem_map.mp member
  rw [LayoutStep.marks_line]
  exact afterMarks_unmarked (ImportStatement.not_mem_text
    (isPlain_statements regular style statement inStatements) (by decide) (by decide)
    (modules _ (source_mem_modules inStatements)))

end Imports

namespace PathProperty

/-- The path is written once, whatever the style. -/
theorem sectionEnds_block (style : Style) :
    sectionEnds (block style) = sectionEnds style.modelPath := by
  have standard : (standardLine style).marks closedSection? = sectionEnds style.modelPath :=
    LayoutStep.marks_literal (by simp) (by simp) style.modelPath
  have given : (LayoutStep.line ("path: " ++ scriptString style.modelPath ++ ",")).marks
      closedSection? = sectionEnds style.modelPath :=
    LayoutStep.marks_literal (by simp) (by simp) style.modelPath
  have fixed : ∀ text ∈ fixedLines, (LayoutStep.line text).marks closedSection? = [] := by
    decide
  simp only [fixedLines, List.forall_mem_cons] at fixed
  rw [sectionEnds, block, afterMarks_laidOut feedStops]
  unfold steps
  split
  · unfold member
    split
    · simp [description, standard, fixed]
    · simp [description, standard, fixed]
  · split
    · simp [typedDeclaration, given, fixed]
    · simp [untypedDeclaration, description, standard, fixed]

end PathProperty

namespace Setup

theorem sectionEnds_block {IsType : String → Prop} (regular : inventory.IsRegular IsType)
    (style : Style) : sectionEnds (block inventory style) = [] := by
  rw [sectionEnds, block, afterMarks_laidOut feedStops, List.flatMap_eq_nil_iff]
  apply HoldsOfParts.steps
  refine ⟨rfl, rfl, by decide, by decide, ?_⟩
  intro receiver known slot member
  rw [LayoutStep.marks_line]
  exact afterMarks_unmarked
    (char_not_mem_playLine known regular member (by decide) (by decide))

end Setup

/-! ## The file -/

namespace ComponentFile

theorem sectionEnds_members {IsType : String → Prop} (regular : inventory.IsRegular IsType)
    {style : Style} (named : IsIdentifier style.componentName) :
    sectionEnds (members inventory style) = sectionEnds style.modelPath := by
  have plain := isUnmarked_of_isRest (Identifier.isRest_of_spells named)
  have name : (LayoutStep.line ("name: " ++ scriptString style.componentName ++ ",")).marks
      closedSection? = [] :=
    (LayoutStep.marks_literal (by simp) (by simp) style.componentName).trans
      (afterMarks_unmarked plain)
  have property := PathProperty.sectionEnds_block style
  have setup := Setup.sectionEnds_block regular style
  rw [sectionEnds] at property setup
  rw [sectionEnds, members, afterMarks_laidOut feedStops, List.flatMap_cons, List.flatMap_cons,
    List.flatMap_cons, name, LayoutStep.marks_embed feedStops, LayoutStep.marks_embed feedStops,
    property, setup]
  simp

/-- A file closes its sections in order, and between template and script what the path of the
model closes. -/
theorem sectionEnds_text (regular : inventory.IsRegular IsTypeName) {style : Style}
    (named : IsIdentifier style.componentName) :
    sectionEnds (text inventory style) =
      "template" :: sectionEnds style.modelPath ++ ["script", "style"] := by
  have ended : (text inventory style).toList =
      ("\n".intercalate (parts inventory style)).toList ++ '\n' :: [] := by
    simp [text]
  have byParts : sectionEnds (text inventory style) =
      (parts inventory style).flatMap sectionEnds := by
    rw [sectionEnds, ended, afterMarks_append_stop feedStops (by decide),
      afterMarks_joined feedStops]
    exact List.append_nil _
  have fixed : ∀ part ∈ ["<template>", "", "<script>", "<script setup>",
      "<script lang=\"ts\">", "<script setup lang=\"ts\">", "export default defineComponent(\x7b",
      "export default \x7b", "\x7d)", "\x7d", "<style scoped>",
      "/* Add any component-specific styles here */"], sectionEnds part = [] := by decide
  have closing : sectionEnds "</template>" = ["template"] ∧ sectionEnds "</script>" = ["script"] ∧
      sectionEnds "</style>" = ["style"] := by decide
  simp only [List.forall_mem_cons] at fixed
  have opening : sectionEnds (scriptOpening style) = [] := by
    unfold scriptOpening
    cases style.composition <;> cases style.typed <;> simp [fixed]
  have template := Template.sectionEnds_block regular style
  have imports := Imports.sectionEnds_block regular style
  have property := PathProperty.sectionEnds_block style
  have setup := Setup.sectionEnds_block regular style
  have members := sectionEnds_members regular named
  rw [byParts]
  cases composition : style.composition with
  | true =>
      simp [parts, scriptParts, compositionParts, composition, fixed, closing, opening, template,
        imports, property, setup]
  | false =>
      cases typed : style.typed <;>
        simp [parts, scriptParts, optionsParts, composition, typed, fixed, closing, opening,
          template, imports, members]

end ComponentFile

theorem Options.texts_of_style {options : Options} {style : Style}
    (success : options.style = .ok style) :
    options.modelPath = .ok style.modelPath ∧ IsIdentifier style.componentName := by
  obtain ⟨isPath, named, _⟩ := style_inversion success
  obtain ⟨fileName, _, named⟩ := bind_eq_ok.mp named
  have called := return_eq_ok.mp named
  exact ⟨isPath, called ▸ Identifier.spells_componentName fileName⟩

namespace Conversion

variable {model : Model} {options : Options} {outcome : Outcome}

theorem sectionEnds_source
    (typeNames : Node.GeometriesAre IsTypeName model.scene.properDescendants)
    (success : run (some model) options = .ok outcome) :
    ∃ path, options.modelPath = .ok path ∧
      sectionEnds outcome.source = "template" :: sectionEnds path ++ ["script", "style"] := by
  obtain ⟨records, style, surveyed, styled, source, _⟩ := run_inversion success
  have regular := Inventory.isRegular_of_survey surveyed typeNames
  obtain ⟨isPath, named⟩ := Options.texts_of_style styled
  rw [source]
  exact ⟨style.modelPath, isPath, ComponentFile.sectionEnds_text regular named⟩

/-- A converted source closes its template, its script and its style once each, in this order,
exactly when the path of the model holds none of their closing tags. -/
theorem sections_closed_once_iff
    (typeNames : Node.GeometriesAre IsTypeName model.scene.properDescendants)
    (success : run (some model) options = .ok outcome) :
    ∃ path, options.modelPath = .ok path ∧
      sectionEnds outcome.source = "template" :: sectionEnds path ++ ["script", "style"] ∧
      (sectionEnds outcome.source = ["template", "script", "style"] ↔
        ∀ name ∈ sectionNames, ¬ ("</" ++ name ++ ">").toList <:+: path.toList) := by
  obtain ⟨path, isPath, ends⟩ := sectionEnds_source typeNames success
  refine ⟨path, isPath, ends, ?_⟩
  rw [ends, ← sectionEnds_eq_nil_iff]
  constructor
  · intro same
    exact List.append_cancel_right (List.cons.inj same).2
  · intro none
    rw [none]
    rfl

theorem angledPath_closed_once : ∃ outcome,
    run (some boxModel) { fileName := .text "<robot>.glb" } = .ok outcome ∧
      sectionEnds outcome.source = ["template", "script", "style"] := by
  have converts : (run (some boxModel) { fileName := .text "<robot>.glb" }).toOption.map
      (fun _ => ()) = some () := by decide +kernel
  obtain ⟨outcome, made, _⟩ := ok_of_map_toOption converts
  have path : (Options.modelPath { fileName := .text "<robot>.glb" }).toOption =
      some "/<robot>.glb" := by decide +kernel
  obtain ⟨written, isPath, _, once⟩ := sections_closed_once_iff boxModel_typeNames made
  rw [isPath] at path
  obtain rfl : written = "/<robot>.glb" := Option.some.inj path
  exact ⟨outcome, made, once.mpr (by decide +kernel)⟩

/-- A file may be called like the tag that closes a script, and the script ends there too. -/
theorem closingPath_closed_twice : ∃ outcome,
    run (some boxModel) { fileName := .text "</script>.glb" } = .ok outcome ∧
      sectionEnds outcome.source = ["template", "script", "script", "style"] := by
  have converts : (run (some boxModel) { fileName := .text "</script>.glb" }).toOption.map
      (fun _ => ()) = some () := by decide +kernel
  obtain ⟨outcome, made, _⟩ := ok_of_map_toOption converts
  have path : (Options.modelPath { fileName := .text "</script>.glb" }).toOption =
      some "/</script>.glb" := by decide +kernel
  have ended : sectionEnds "/</script>.glb" = ["script"] := by decide +kernel
  obtain ⟨written, isPath, ends⟩ := sectionEnds_source boxModel_typeNames made
  rw [isPath] at path
  obtain rfl : written = "/</script>.glb" := Option.some.inj path
  exact ⟨outcome, made, by rw [ends, ended]; rfl⟩

end Conversion

end SceneComponent
