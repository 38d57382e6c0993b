import Mathlib
import SceneComponent.Proofs.Conversion.ReportedImports
import SceneComponent.Proofs.Inventory.Diagnostics

/-!
# Records of conversions

A conversion records its options, then whatever its survey records of the nodes one after the
other, then the number of nodes that are left over, if there are any, and at last what it
converted to what, with the numbers of entries in the inventory.
-/

set_option autoImplicit false

namespace SceneComponent

open Checked

namespace Conversion

/-- An option with its key in quotes and its value as messages show it, every constant in it as
the map of its name. -/
def shownOption (key : String) (value : Value) : String :=
  "'" ++ key ++ "': " ++ value.opened.display

/-- The first record: every option with its value. -/
def openingRecord (options : Options) : Record :=
  .detail ("Conversion options: \x7b" ++ ", ".intercalate [
    shownOption "file_name" options.fileName,
    shownOption "path_prefix" options.pathPrefix,
    shownOption "typed" options.typed,
    shownOption "composition_style" options.composition,
    shownOption "shadows_enabled" options.shadows,
    "'target_dialect': '" ++ options.dialect.name ++ "'",
    shownOption "decimal_precision" options.precision,
    shownOption "viewer/auto_rotate" options.autoRotate,
    shownOption "viewer/environment_preset" options.environmentPreset,
    shownOption "viewer/lighting_preset" options.lightingPreset,
    shownOption "viewer/intensity" options.intensity,
    shownOption "viewer/contact_shadow" options.contactShadow] ++ "\x7d")

/-- The record of a number of nodes that are left over. -/
def leftoverCountRecords (count : Nat) : List Record :=
  if count = 0 then []
  else [.detail (toString count ++ " nodes rendered only through the scene primitive")]

/-- The last record: the file, the component and the numbers of entries. -/
def closingRecord (fileName componentName : String) (meshes lights cameras clips : Nat) :
    Record :=
  .notice ("Converted " ++ fileName ++ " -> " ++ componentName ++ " (" ++
    (toString meshes ++ " meshes, " ++ toString lights ++ " lights, " ++ toString cameras ++
      " cameras, " ++ toString clips ++ " animations") ++ ")")

theorem displayEntries_openedEntries {entries : List (String × Value)}
    (plain : ∀ entry ∈ entries, Text.isPlain entry.1 = true) :
    Value.displayEntries (Value.openedEntries entries) =
      entries.map fun entry => shownOption entry.1 entry.2 := by
  induction entries with
  | nil => rfl
  | cons entry rest inductionHypothesis =>
      obtain ⟨key, value⟩ := entry
      rw [List.forall_mem_cons] at plain
      rw [Value.openedEntries, Value.displayEntries, Text.quoted_of_isPlain plain.1,
        inductionHypothesis plain.2]
      simp [shownOption, String.append_assoc]

theorem shownOption_dialect (dialect : Dialect) :
    shownOption "target_dialect" (.text dialect.name) =
      "'target_dialect': '" ++ dialect.name ++ "'" := by
  have plain : Text.isPlain dialect.name = true := by cases dialect <;> decide
  have shown : (Value.text dialect.name).opened.display = "'" ++ dialect.name ++ "'" :=
    Text.quoted_of_isPlain plain
  rw [shownOption, shown]
  apply String.toList_inj.mp
  simp

/-- The keys of options have no characters to escape, and the names of dialects have none. -/
theorem optionsRecord_eq (options : Options) : optionsRecord options = openingRecord options := by
  rw [optionsRecord, openingRecord, Options.flat, Value.display, displayEntries_openedEntries]
  · have brace : "Conversion options: \x7b" = "Conversion options: " ++ "\x7b" := rfl
    simp only [List.map_cons, List.map_nil, shownOption_dialect, brace, String.append_assoc]
  · simp only [List.forall_mem_cons, List.not_mem_nil, false_implies, implies_true, and_true]
    decide +kernel

theorem leftoverRecords_eq (inventory : Inventory) :
    leftoverRecords inventory = leftoverCountRecords inventory.leftovers.length := by
  rw [leftoverRecords, leftoverCountRecords]
  cases inventory.leftovers with
  | nil => rfl
  | cons label rest => rfl

/-- A survey records what there is to be said of every node below the root, in pre-order, and
the labels in its records are those of the inventory; a conversion frames these records with
its options, the number of nodes left over and the numbers of entries. -/
theorem records_of_conversion (model : Model) (options : Options) :
    (∀ inventory records,
      Inventory.survey model.scene model.clips options.precision options.shadows =
          .ok (inventory, records) →
        records = (model.scene.properDescendants.flatMap Node.diagnoses).map Diagnosis.record ∧
          records.filterMap Record.unsupportedLabel? = inventory.leftovers) ∧
      ∀ outcome, run (some model) options = .ok outcome →
        ∃ surveyed, Inventory.survey model.scene model.clips options.precision options.shadows =
            .ok (outcome.inventory, surveyed) ∧
          outcome.records = openingRecord options :: surveyed ++
            leftoverCountRecords outcome.inventory.leftovers.length ++
            [closingRecord options.fileName.plainText outcome.componentName
              outcome.inventory.meshes.length outcome.inventory.lights.length
              outcome.inventory.cameras.length outcome.inventory.clipNames.length] := by
  refine ⟨fun inventory records surveyed =>
    ⟨Inventory.records_of_survey surveyed, Inventory.labels_of_survey surveyed⟩, ?_⟩
  intro outcome success
  obtain ⟨surveyed, style, found, _, _, _, _, named, recorded⟩ := run_inversion success
  refine ⟨surveyed, found, ?_⟩
  rw [recorded, optionsRecord_eq, leftoverRecords_eq, named]
  rfl

/-- A mesh of two materials without parameters, with nodes below it and beside it that no
entry models. -/
def mixedModel : Model where
  scene := { children := [
    { kind := .mesh, surface := .several [none, none]
      children := [{ kind := .light, name := .text "sky", typeName := .text "HemisphereLight" }] },
    { kind := .camera, typeName := .text "PerspectiveCamera" },
    { kind := .other, typeName := .text "Bone" }] }

theorem mixedModel_recorded : ∃ outcome, run (some mixedModel) = .ok outcome ∧
    outcome.inventory.leftovers = ["sky (HemisphereLight)", "<unnamed> (Bone)"] ∧
    outcome.records = [
        .detail ("Conversion options: \x7b'file_name': 'model.glb', 'path_prefix': '', " ++
          "'typed': True, 'composition_style': True, 'shadows_enabled': False, " ++
          "'target_dialect': 'standalone', 'decimal_precision': 3, " ++
          "'viewer/auto_rotate': False, 'viewer/environment_preset': 'city', " ++
          "'viewer/lighting_preset': 'rembrandt', 'viewer/intensity': 1.0, " ++
          "'viewer/contact_shadow': False\x7d"),
        .detail "No constructor args for BufferGeometry, emitting bare <TresBufferGeometry>",
        .detail "Multi-material mesh: keeping the first of 2 materials",
        .detail "Unsupported light sky (HemisphereLight) left to the scene primitive",
        .detail "Unsupported node <unnamed> (Bone) left to the scene primitive",
        .detail "2 nodes rendered only through the scene primitive",
        .notice "Converted model.glb -> Model (1 meshes, 0 lights, 1 cameras, 0 animations)"] := by
  have read : (run (some mixedModel)).toOption.map
      (fun outcome => (outcome.inventory.leftovers, outcome.componentName,
        outcome.inventory.meshes.length, outcome.inventory.lights.length,
        outcome.inventory.cameras.length, outcome.inventory.clipNames.length)) =
        some (["sky (HemisphereLight)", "<unnamed> (Bone)"], "Model", 1, 0, 1, 0) := by
    decide +kernel
  obtain ⟨outcome, made, same⟩ := ok_of_map_toOption read
  simp only [Prod.mk.injEq] at same
  obtain ⟨leftovers, name, meshes, lights, cameras, clips⟩ := same
  obtain ⟨ofSurveys, ofRuns⟩ := records_of_conversion mixedModel {}
  obtain ⟨surveyed, found, recorded⟩ := ofRuns outcome made
  have said : (mixedModel.scene.properDescendants.flatMap Node.diagnoses).map Diagnosis.record = [
      .detail "No constructor args for BufferGeometry, emitting bare <TresBufferGeometry>",
      .detail "Multi-material mesh: keeping the first of 2 materials",
      .detail "Unsupported light sky (HemisphereLight) left to the scene primitive",
      .detail "Unsupported node <unnamed> (Bone) left to the scene primitive"] := by
    decide +kernel
  refine ⟨outcome, made, leftovers, ?_⟩
  rw [recorded, (ofSurveys _ _ found).1, said, leftovers, name, meshes, lights, cameras, clips]
  decide +kernel

end Conversion

end SceneComponent
