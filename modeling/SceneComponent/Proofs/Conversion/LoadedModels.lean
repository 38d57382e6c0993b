import Mathlib
import SceneComponent.Conversion
import SceneComponent.Proofs.Inventory.Totality

/-!
# Conversions of loaded models

Under usual options nothing but the scene can stop a conversion: the style and the
host page are always settled.  A loaded model is converted exactly when every node
below its root is convertible.  Loading does not see to that, since it lets the
parameters of geometries and undefined channels of colours through.
-/

set_option autoImplicit false

namespace SceneComponent

open Checked

namespace Options

/-- Texts for the file and the presets, a number for the intensity, and at most a million
decimal places. -/
structure AreUsual (options : Options) : Prop where
  fileName : options.fileName.IsText
  pathPrefix : options.pathPrefix.IsText
  environment : options.environmentPreset = .null ∨ options.environmentPreset.IsText
  lighting : options.lightingPreset = .null ∨ options.lightingPreset.IsText
  intensity : ∃ number, options.intensity.numberDouble = .ok number ∧
    Binary64.isFinite number = true
  precision : ∃ count, options.precision.toInteger = .ok count ∧ count ≤ 1000000

variable {options : Options}

theorem arePlaces_of_ofRequest {request : OptionRequest}
    (accepted : ofRequest request = .ok options) {count : Int}
    (integer : options.precision.toInteger = .ok count) (bounded : count ≤ 1000000) :
    options.precision.ArePlaces := by
  unfold ofRequest at accepted
  obtain ⟨dialect, _, accepted⟩ := bind_eq_ok.mp accepted
  obtain ⟨below, compared, accepted⟩ := bind_eq_ok.mp accepted
  cases below with
  | true => cases accepted
  | false =>
      cases return_eq_ok.mp accepted
      refine ⟨count, integer, ?_, bounded⟩
      cases given : request.precision with
      | bool truth =>
          simp only [given, Value.toInteger, Except.ok.injEq] at integer
          cases truth <;> simp at integer <;> omega
      | int number =>
          simp only [given, Value.toInteger, isBelowZero, Except.ok.injEq,
            decide_eq_false_iff_not] at integer compared
          omega
      | _ => simp [given, Value.toInteger] at integer

theorem succeeds_componentName (usual : options.AreUsual) : Succeeds options.componentName := by
  obtain ⟨fileName, named⟩ := usual.fileName
  rw [componentName, named, Value.toText]
  exact succeeds_ok _

theorem succeeds_style (usual : options.AreUsual) : Succeeds options.style := by
  have openText : ∀ value : Value, value.IsText → Succeeds value.toOpenText := by
    rintro _ ⟨content, rfl⟩
    unfold Value.toOpenText
    split <;> exact succeeds_ok _
  obtain ⟨first, prefixed⟩ := openText _ usual.pathPrefix
  obtain ⟨second, named⟩ := openText _ usual.fileName
  obtain ⟨component, called⟩ := succeeds_componentName usual
  rw [style, modelPath, ModelPath.ofValues, prefixed, named, called]
  exact succeeds_ok _

end Options

namespace HostPage

theorem succeeds_presetOf {value : Value} (preset : value = .null ∨ value.IsText) :
    Succeeds (presetOf value) := by
  unfold presetOf
  rcases preset with rfl | ⟨content, rfl⟩
  · exact succeeds_ok none
  · split <;> exact succeeds_ok _

theorem succeeds_stageOf {options : Options} (usual : options.AreUsual) :
    Succeeds (stageOf options) := by
  obtain ⟨preset, chosen⟩ := succeeds_presetOf usual.lighting
  obtain ⟨number, intense, _⟩ := usual.intensity
  obtain ⟨intensity, rounded⟩ :=
    (Value.succeeds_round Value.arePlaces_usual).mpr ⟨number, intense⟩
  rw [stageOf, chosen, ok_bind]
  cases preset with
  | none => exact succeeds_ok none
  | some preset =>
      rw [rounded]
      exact succeeds_ok _

theorem succeeds_ofOptions {options : Options} (usual : options.AreUsual) :
    Succeeds (ofOptions options) := by
  obtain ⟨component, called⟩ := Options.succeeds_componentName usual
  obtain ⟨stage, staged⟩ := succeeds_stageOf usual
  obtain ⟨environment, surrounded⟩ := succeeds_presetOf usual.environment
  rw [ofOptions, called, staged, surrounded]
  exact succeeds_ok _

end HostPage

namespace Conversion

variable {options : Options}

theorem succeeds_run_iff (model : Model) (options : Options) :
    Succeeds (run (some model) options) ↔
      Succeeds (Inventory.survey model.scene model.clips options.precision options.shadows) ∧
        Succeeds options.style ∧ Succeeds (HostPage.ofOptions options) := by
  unfold run ofModel
  exact succeeds_bind_iff_and fun found => succeeds_bind_iff_and fun style =>
    succeeds_bind_pure

theorem succeeds_run_survey (usual : options.AreUsual) (model : Model) :
    Succeeds (run (some model) options) ↔
      Succeeds (Inventory.survey model.scene model.clips options.precision options.shadows) := by
  rw [succeeds_run_iff]
  exact and_iff_left ⟨Options.succeeds_style usual, HostPage.succeeds_ofOptions usual⟩

/-- A model that was loaded is converted, under usual options that were accepted, exactly
when every node below its root is convertible. -/
theorem loaded_converts_iff {document : Value} {model : Model} {request : OptionRequest}
    (loaded : Model.ofValue document = .ok model)
    (accepted : Options.ofRequest request = .ok options) (usual : options.AreUsual) :
    (∃ outcome, run (some model) options = .ok outcome) ↔
      ∀ node ∈ model.scene.properDescendants, node.IsConvertible := by
  obtain ⟨decoded, named⟩ := Model.isDecoded_of_ofValue loaded
  obtain ⟨count, integer, bounded⟩ := usual.precision
  have places := Options.arePlaces_of_ofRequest accepted integer bounded
  exact (succeeds_run_survey usual model).trans (Inventory.succeeds_survey places decoded named)

theorem usual_defaults : Options.AreUsual {} where
  fileName := ⟨_, rfl⟩
  pathPrefix := ⟨_, rfl⟩
  environment := .inr ⟨_, rfl⟩
  lighting := .inr ⟨_, rfl⟩
  intensity := ⟨1.0, rfl, by decide⟩
  precision := ⟨3, rfl, by decide⟩

def paintedDocument (color : Value) : Value :=
  .map [("scene", .map [("children", .list [.map [("type", .text "Mesh"),
    ("geometry", .map [("type", .text "SphereGeometry"),
      ("parameters", .map [("radius", .int 2)])]),
    ("material", .map [("color", color)])]])])]

/-- A red sphere is loaded and converted, so that its node is convertible. -/
theorem redSphere_convertible :
    ∃ model, Model.ofValue (paintedDocument (.list [.int 1, .int 0, .int 0])) = .ok model ∧
      model.scene.properDescendants ≠ [] ∧
      ∀ node ∈ model.scene.properDescendants, node.IsConvertible := by
  have converts : (Model.ofValue (paintedDocument (.list [.int 1, .int 0, .int 0]))).toOption.map
      (fun model => (!model.scene.properDescendants.isEmpty,
        (run (some model) {}).toOption.isSome)) = some (true, true) := by decide +kernel
  obtain ⟨model, loaded, found⟩ := ok_of_map_toOption converts
  obtain ⟨inhabited, made⟩ := Prod.mk.inj found
  have accepted : Options.ofRequest {} = .ok {} := rfl
  refine ⟨model, loaded, by simpa using inhabited,
    (loaded_converts_iff loaded accepted usual_defaults).mp ?_⟩
  cases ended : run (some model) {} with
  | error failure => simp [ended, Except.toOption] at made
  | ok outcome => exact ⟨outcome, rfl⟩

/-- A colour with an undefined channel is loaded, and stops the conversion. -/
theorem undefinedChannel_unconverted :
    ∃ model, Model.ofValue (paintedDocument (.list [.null, .int 0, .int 0])) = .ok model ∧
      Options.ofRequest {} = .ok {} ∧ Options.AreUsual {} ∧
      ¬ ∃ outcome, run (some model) {} = .ok outcome := by
  have stops : (Model.ofValue (paintedDocument (.list [.null, .int 0, .int 0]))).toOption.map
      (fun model => (run (some model) {}).toOption.isNone) = some true := by decide +kernel
  obtain ⟨model, loaded, failed⟩ := ok_of_map_toOption stops
  refine ⟨model, loaded, rfl, usual_defaults, ?_⟩
  rintro ⟨outcome, converted⟩
  simp [converted, Except.toOption] at failed

end Conversion

end SceneComponent
