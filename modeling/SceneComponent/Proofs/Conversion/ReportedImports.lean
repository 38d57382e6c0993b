import Mathlib
import SceneComponent.Conversion
import SceneComponent.Proofs.Component.SourceLines

/-!
# Reported imports

A conversion reports the names and modules that its component imports.  Read back
from the source text, the modules are those reported; the names are too, but for
the type that a typed component in the options style describes its property by,
which is imported and not reported.
-/

set_option autoImplicit false

namespace SceneComponent

open Checked

namespace Imports

variable {inventory : Inventory} {style : Style}

def DescribesByType (style : Style) : Prop := style.typed = true ∧ style.composition = false

theorem mem_statement_names {name : String} :
    (∃ statement ∈ statements inventory style, name ∈ statement.names) ↔
      (∃ group ∈ groups inventory style, name ∈ group.names.names) ∨
        (name = "PropType" ∧ DescribesByType style) := by
  have typing : (∃ statement ∈ (if style.typed && !style.composition then
      [ImportStatement.mk true ["PropType"] scriptModule] else []), name ∈ statement.names) ↔
        name = "PropType" ∧ DescribesByType style := by
    unfold DescribesByType
    cases style.typed <;> cases style.composition <;> simp
  simp only [statements, List.mem_append, or_and_right, exists_or, typing, List.mem_map,
    exists_exists_and_eq_and]
  exact or_comm

theorem mem_statement_sources {source : String} :
    source ∈ (statements inventory style).map ImportStatement.source ↔
      source ∈ (groups inventory style).map ImportGroup.source := by
  have defining : DescribesByType style →
      scriptModule ∈ (groups inventory style).map ImportGroup.source := by
    rintro ⟨typed, options⟩
    rw [mem_sources_iff]
    have imported : "defineComponent" ∈ importedFrom scriptModule inventory style :=
      (mem_script_iff _).mpr (.inr (.inr ⟨rfl, typed, options⟩))
    exact List.ne_nil_of_mem imported
  have typing : source ∈ (if style.typed && !style.composition then
      [ImportStatement.mk true ["PropType"] scriptModule] else []).map ImportStatement.source ↔
        source = scriptModule ∧ DescribesByType style := by
    unfold DescribesByType
    cases style.typed <;> cases style.composition <;> simp
  rw [statements, List.map_append, List.mem_append, typing, List.map_map]
  constructor
  · rintro (⟨rfl, described⟩ | inGroups)
    · exact defining described
    · exact inGroups
  · exact .inr

theorem propType_not_imported (regular : inventory.IsRegular IsTypeName) {group : ImportGroup}
    (member : group ∈ groups inventory style) : "PropType" ∉ group.names.names := by
  rw [groups_eq_filter] at member
  have inAll := (List.mem_filter.mp member).1
  rw [← importedFrom_group inAll]
  intro imported
  simp only [allGroups, List.mem_cons, List.not_mem_nil, or_false] at inAll
  rcases inAll with rfl | rfl | rfl | rfl
  · simp [mem_script_iff] at imported
  · cases dialect : style.dialect with
    | standalone =>
        have tagged := ((mem_framework_iff regular dialect _).mp imported).2
        exact absurd tagged (by decide)
    | serverRendered =>
        rw [importedFrom_framework, frameworkNames, dialect] at imported
        cases imported
  · have engine := mem_engineConstants_of_imported inventory style imported
    exact absurd engine (by decide)
  · simp [mem_helper_iff regular] at imported

end Imports

namespace ComponentFile

theorem mem_namesImportedBy {inventory : Inventory} (regular : inventory.IsRegular IsTypeName)
    (style : Style) (name : String) :
    name ∈ namesImportedBy (text inventory style) ↔
      ∃ statement ∈ Imports.statements inventory style, name ∈ statement.names := by
  have plain := Imports.isPlain_statements regular style
  rw [namesImportedBy, importLines_text regular, List.flatMap_map, List.mem_flatMap]
  constructor
  · rintro ⟨statement, member, named⟩
    rw [ImportStatement.names_text (plain statement member)] at named
    exact ⟨statement, member, named⟩
  · rintro ⟨statement, member, named⟩
    rw [← ImportStatement.names_text (plain statement member)] at named
    exact ⟨statement, member, named⟩

theorem modulesImportedBy_text {inventory : Inventory} (regular : inventory.IsRegular IsTypeName)
    (style : Style) :
    modulesImportedBy (text inventory style) =
      (Imports.statements inventory style).map ImportStatement.source := by
  rw [modulesImportedBy, importLines_text regular, List.map_map]
  refine List.map_congr_left fun statement member => ?_
  exact ImportStatement.source_text (Imports.isPlain_statements regular style statement member)

end ComponentFile

namespace Conversion

theorem run_inversion {model : Model} {options : Options} {outcome : Outcome}
    (success : run (some model) options = .ok outcome) :
    ∃ records style, Inventory.survey model.scene model.clips options.precision
        options.shadows = .ok (outcome.inventory, records) ∧
      options.style = .ok style ∧ outcome.source = ComponentFile.text outcome.inventory style ∧
      outcome.imported = .ofList ((Imports.groups outcome.inventory style).flatMap fun group =>
        group.names.names) ∧
      outcome.dependencies =
        .ofList ((Imports.groups outcome.inventory style).map ImportGroup.source) ∧
      outcome.componentName = style.componentName ∧
      outcome.records = optionsRecord options :: records ++ leftoverRecords outcome.inventory ++
        [summaryRecord options style outcome.inventory] := by
  unfold run ofModel at success
  obtain ⟨⟨inventory, records⟩, surveyed, success⟩ := bind_eq_ok.mp success
  obtain ⟨style, styled, success⟩ := bind_eq_ok.mp success
  obtain ⟨page, _, success⟩ := bind_eq_ok.mp success
  cases return_eq_ok.mp success
  exact ⟨records, style, surveyed, styled, rfl, rfl, rfl, rfl, rfl⟩

end Conversion

theorem Options.style_inversion {options : Options} {style : Style}
    (success : options.style = .ok style) :
    options.modelPath = .ok style.modelPath ∧ options.componentName = .ok style.componentName ∧
      style.typed = options.typed.isTruthy ∧ style.composition = options.composition.isTruthy ∧
      style.shadows = options.shadows.isTruthy := by
  unfold Options.style at success
  obtain ⟨path, isPath, success⟩ := bind_eq_ok.mp success
  obtain ⟨name, named, success⟩ := bind_eq_ok.mp success
  cases return_eq_ok.mp success
  exact ⟨isPath, named, rfl, rfl, rfl⟩

namespace Conversion

variable {model : Model} {options : Options} {outcome : Outcome}

theorem mem_namesImportedBy_source
    (typeNames : Node.GeometriesAre IsTypeName model.scene.properDescendants)
    (success : run (some model) options = .ok outcome) (name : String) :
    name ∈ namesImportedBy outcome.source ↔
      name ∈ outcome.imported ∨ (name = "PropType" ∧
        options.typed.isTruthy = true ∧ options.composition.isTruthy = false) := by
  obtain ⟨records, style, surveyed, styled, source, imported, _⟩ := run_inversion success
  have regular := Inventory.isRegular_of_survey surveyed typeNames
  obtain ⟨_, _, typed, composition, _⟩ := Options.style_inversion styled
  rw [source, ComponentFile.mem_namesImportedBy regular, Imports.mem_statement_names,
    imported, NameSet.mem_ofList, List.mem_flatMap, Imports.DescribesByType, typed, composition]

theorem propType_not_reported
    (typeNames : Node.GeometriesAre IsTypeName model.scene.properDescendants)
    (success : run (some model) options = .ok outcome) : "PropType" ∉ outcome.imported := by
  obtain ⟨records, style, surveyed, _, _, imported, _⟩ := run_inversion success
  have regular := Inventory.isRegular_of_survey surveyed typeNames
  rw [imported, NameSet.mem_ofList, List.mem_flatMap]
  rintro ⟨group, member, named⟩
  exact Imports.propType_not_imported regular member named

theorem mem_modulesImportedBy_source
    (typeNames : Node.GeometriesAre IsTypeName model.scene.properDescendants)
    (success : run (some model) options = .ok outcome) (source : String) :
    source ∈ modulesImportedBy outcome.source ↔ source ∈ outcome.dependencies := by
  obtain ⟨records, style, surveyed, _, written, _, dependencies, _⟩ := run_inversion success
  have regular := Inventory.isRegular_of_survey surveyed typeNames
  rw [written, ComponentFile.modulesImportedBy_text regular, Imports.mem_statement_sources,
    dependencies, NameSet.mem_ofList]

/-- The imports of a source text are those reported, except that a typed component in the
options style imports one type more; so exactly the other components report all names. -/
theorem reported_imports_iff
    (typeNames : Node.GeometriesAre IsTypeName model.scene.properDescendants)
    (success : run (some model) options = .ok outcome) :
    (∀ name, name ∈ namesImportedBy outcome.source ↔
      name ∈ outcome.imported ∨ (name = "PropType" ∧
        options.typed.isTruthy = true ∧ options.composition.isTruthy = false)) ∧
    (∀ source, source ∈ modulesImportedBy outcome.source ↔ source ∈ outcome.dependencies) ∧
    ((∀ name, name ∈ namesImportedBy outcome.source ↔ name ∈ outcome.imported) ↔
      ¬ (options.typed.isTruthy = true ∧ options.composition.isTruthy = false)) := by
  have names := mem_namesImportedBy_source typeNames success
  refine ⟨names, mem_modulesImportedBy_source typeNames success, ?_, ?_⟩
  · intro complete described
    have imported := (names "PropType").mpr (.inr ⟨rfl, described⟩)
    exact propType_not_reported typeNames success ((complete "PropType").mp imported)
  · intro undescribed name
    rw [names]
    constructor
    · rintro (reported | ⟨_, described⟩)
      · exact reported
      · exact absurd described undescribed
    · exact .inl

def boxModel : Model :=
  ⟨{ children := [{ kind := .mesh, geometry := some { typeName := .text "BoxGeometry" } }] }, []⟩

theorem boxModel_typeNames : Node.GeometriesAre IsTypeName boxModel.scene.properDescendants := by
  have box : "BoxGeometry".toList.all Identifier.isRest = true := rfl
  intro node member _ typeName named
  obtain rfl : node = { kind := .mesh, geometry := some { typeName := .text "BoxGeometry" } } :=
    List.mem_singleton.mp member
  obtain rfl : "BoxGeometry" = typeName := Value.text.inj named
  exact List.all_eq_true.mp box

theorem boxModel_reported : ∃ outcome, run (some boxModel) {} = .ok outcome ∧
    ∀ name, name ∈ namesImportedBy outcome.source ↔ name ∈ outcome.imported := by
  have converts : (run (some boxModel) {}).toOption.map (fun _ => ()) = some () := by
    decide +kernel
  obtain ⟨outcome, made, _⟩ := ok_of_map_toOption converts
  have composed : ¬ ((Value.bool true).isTruthy = true ∧ (Value.bool true).isTruthy = false) := by
    decide
  exact ⟨outcome, made, (reported_imports_iff boxModel_typeNames made).2.2.mpr composed⟩

/-- A typed component in the options style imports a type that is not reported. -/
theorem typed_options_unreported : ∃ outcome,
    run (some boxModel) { composition := .bool false } = .ok outcome ∧
      "PropType" ∈ namesImportedBy outcome.source ∧ "PropType" ∉ outcome.imported := by
  have converts : (run (some boxModel) { composition := .bool false }).toOption.map
      (fun _ => ()) = some () := by decide +kernel
  obtain ⟨outcome, made, _⟩ := ok_of_map_toOption converts
  have imported := (mem_namesImportedBy_source boxModel_typeNames made "PropType").mpr
    (.inr ⟨rfl, rfl, rfl⟩)
  exact ⟨outcome, made, imported, propType_not_reported boxModel_typeNames made⟩

end Conversion

end SceneComponent
