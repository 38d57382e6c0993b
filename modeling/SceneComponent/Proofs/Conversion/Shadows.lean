import Mathlib
import SceneComponent.Proofs.Component.References
import SceneComponent.Proofs.Component.ShadowMarks
import SceneComponent.Proofs.Conversion.LoadedModels
import SceneComponent.Proofs.Conversion.ReportedImports

/-!
# Shadows of conversions

A conversion shows its component, the host page and the imports that it reports.  What the
nodes of a document say on shadows decides none of it: where shadows are asked for, all meshes
are shaded, and where they are not, nothing of them is written.  So asking for shadows puts
the marks into the opening tags of all meshes, and leaves the rest of the component as it is.
-/

set_option autoImplicit false

namespace SceneComponent

open Checked

/-! ## Tags of meshes -/

theorem ne_meshTag {stem ending : String} {c : Char} (last : ending.toList.getLast? = some c)
    (other : c ≠ 'h') : stem ++ ending ≠ meshTag := by
  intro same
  have ends : (stem ++ ending).toList.getLast? = some c := by
    rw [String.toList_append, List.getLast?_append, last]
    rfl
  rw [same] at ends
  exact other (Option.some.inj ends).symm

namespace Inventory.IsExtracted

variable {IsType : String → Prop} {inventory : Inventory}

theorem count_entries {ending : String} {c : Char} (last : ending.toList.getLast? = some c)
    (other : c ≠ 'h') {entries : List Entry}
    (extracted : ∀ entry ∈ entries, entry.IsExtracted ending) :
    (entries.map Entry.tag).count meshTag = 0 := by
  refine List.count_eq_zero.mpr fun member => ?_
  obtain ⟨entry, inEntries, isMesh⟩ := List.mem_map.mp member
  obtain ⟨stem, _, tag⟩ := (extracted entry inEntries).tag
  rw [tag, ← String.append_assoc] at isMesh
  exact ne_meshTag last other isMesh

theorem count_meshes {entries : List MeshEntry}
    (extracted : ∀ entry ∈ entries, entry.IsExtracted IsType) :
    (entries.flatMap MeshEntry.tags).count meshTag = entries.length := by
  induction entries with
  | nil => rfl
  | cons entry rest inductionHypothesis =>
      obtain ⟨head, restExtracted⟩ := List.forall_mem_cons.mp extracted
      have geometry : entry.geometry.tag ≠ meshTag := by
        have last : "Geometry".toList.getLast? = some 'y' := rfl
        obtain ⟨typeName, _, tag⟩ := head.geometry
        rw [tag]
        exact ne_meshTag last (by decide)
      have material : entry.material.tag ≠ meshTag := by
        have last : "Material".toList.getLast? = some 'l' := rfl
        obtain ⟨stem, _, tag⟩ := head.material
        rw [tag, ← String.append_assoc]
        exact ne_meshTag last (by decide)
      rw [List.flatMap_cons, List.count_append, inductionHypothesis restExtracted,
        MeshEntry.tags, List.count_cons_self, List.count_cons_of_ne geometry,
        List.count_cons_of_ne material, List.count_nil, List.length_cons, Nat.add_comm]

/-- The meshes of a template are the entries for meshes, and nothing else. -/
theorem count_tags_root (extracted : inventory.IsExtracted IsType) (style : Style) :
    (Template.root inventory style).tags.count meshTag = inventory.meshes.length := by
  have light : "Light".toList.getLast? = some 't' := rfl
  have camera : "Camera".toList.getLast? = some 'a' := rfl
  have lights := count_entries light (by decide) extracted.lights
  have cameras := count_entries camera (by decide) extracted.cameras
  have frame : Imports.groupTag ≠ meshTag ∧ ["primitive"].count meshTag = 0 := by decide
  rw [Template.tags_root, List.count_cons_of_ne frame.1, List.count_append, frame.2, entryTags,
    List.count_append, List.count_append, lights, cameras, count_meshes extracted.meshes]
  omega

end Inventory.IsExtracted

/-! ## Options of shadows -/

namespace Options

def withShadows (options : Options) (shadows : Bool) : Options :=
  { options with shadows := .bool shadows }

theorem style_withShadows (options : Options) (shadows : Bool) :
    (options.withShadows shadows).style =
      options.style.map fun style => style.withShadows shadows := by
  unfold style
  simp only [mapped_bind]
  rfl

end Options

namespace HostPage

def withShadows (page : HostPage) (shadows : Bool) : HostPage :=
  { page with
    stage := page.stage.map fun stage => { stage with shadows }
    shadowLiteral := (Value.bool shadows).literal }

theorem stageOf_withShadows (options : Options) (shadows : Bool) :
    stageOf (options.withShadows shadows) =
      (stageOf options).map (Option.map fun stage => { stage with shadows }) := by
  unfold stageOf
  rw [mapped_bind]
  refine congrArg _ (funext fun preset => ?_)
  cases preset with
  | none => rfl
  | some preset =>
      dsimp only
      rw [mapped_bind]
      rfl

/-- The option of shadows reaches a page at two places, and cannot stop it. -/
theorem ofOptions_withShadows (options : Options) (shadows : Bool) :
    ofOptions (options.withShadows shadows) =
      (ofOptions options).map fun page => page.withShadows shadows := by
  unfold ofOptions
  rw [stageOf_withShadows]
  simp only [mapped_bind, bind_mapped]
  rfl

end HostPage

/-! ## What a conversion shows -/

/-- The component, the host page and the reported imports of an outcome. -/
structure Outcome.Shown where
  source : String
  hostPage : String
  imported : NameSet
  dependencies : NameSet

def Outcome.shown (outcome : Outcome) : Shown :=
  ⟨outcome.source, outcome.hostPage, outcome.imported, outcome.dependencies⟩

/-- Whether an outcome has the component of another one, which is written without shadows,
and with the marks of shadows in the opening tags of all meshes. -/
structure Outcome.IsShadedFrom (marked unmarked : Outcome) (style : Style) : Prop where
  marks : marked.source = ComponentFile.text marked.inventory (style.withShadows true)
  noMarks : unmarked.source = ComponentFile.text unmarked.inventory (style.withShadows false)
  template : Template.root marked.inventory (style.withShadows true) =
    (Template.root unmarked.inventory (style.withShadows false)).shaded
  openings : (Template.root unmarked.inventory (style.withShadows false)).tags.count meshTag =
    (Template.meshOpenings unmarked.inventory).length
  source : ShadesText (Template.meshOpenings unmarked.inventory) unmarked.source marked.source

namespace Conversion

def ofDocument (document : Value) (options : Options) : Except Failure Outcome := do
  run (some (← Model.ofValue document)) options

/-- What is shown once the scene was surveyed. -/
def showing (options : Options) (inventory : Inventory) : Except Failure Outcome.Shown := do
  let style ← options.style
  let page ← HostPage.ofOptions options
  let groups := Imports.groups inventory style
  return ⟨ComponentFile.text inventory style, page.text,
    .ofList (groups.flatMap fun group => group.names.names),
    .ofList (groups.map ImportGroup.source)⟩

theorem shown_run (model : Model) (options : Options) :
    (run (some model) options).map Outcome.shown =
      Inventory.survey model.scene model.clips options.precision options.shadows >>=
        fun found => showing options found.1 := by
  unfold run ofModel showing
  simp only [mapped_bind]
  rfl

/-- Inventories that are one without flags are shown alike, where they were surveyed under
the options. -/
theorem showing_unflagged {first second : Inventory}
    (alike : first.unflagged = second.unflagged) {options : Options}
    (flagged : options.shadows.isTruthy = true → first.IsShaded ∧ second.IsShaded) :
    showing options first = showing options second := by
  unfold showing
  cases styled : options.style with
  | error failure => rw [error_bind, error_bind]
  | ok style =>
      obtain ⟨_, _, _, _, shadows⟩ := Options.style_inversion styled
      have source : ComponentFile.text first style = ComponentFile.text second style :=
        ComponentFile.text_alike alike fun on => flagged (shadows.symm.trans on)
      rw [ok_bind, ok_bind, source, ← Imports.groups_unflagged first, alike,
        Imports.groups_unflagged]

/-- Models that are one without flags show the same, or are refused alike. -/
theorem run_unflagged {first second : Model} (alike : first.unflagged = second.unflagged)
    (options : Options) :
    (run (some first) options).map Outcome.shown =
      (run (some second) options).map Outcome.shown := by
  have scenes : first.scene.unflagged = second.scene.unflagged := congrArg Model.scene alike
  have clips : first.clips = second.clips := (Model.mk.inj alike).2
  have surveys := Inventory.survey_alike scenes first.clips options.precision options.shadows
    options.shadows
  rw [shown_run, shown_run, ← clips]
  rcases cases_of_map_eq surveys with ⟨failure, firstFound, secondFound⟩ |
    ⟨found, other, firstFound, secondFound, bare⟩
  · rw [firstFound, secondFound, error_bind]
  · have inventories : found.1.unflagged = other.1.unflagged := congrArg Prod.fst bare
    rw [firstFound, secondFound, ok_bind, ok_bind]
    exact showing_unflagged inventories fun on =>
      ⟨Inventory.isShaded_of_survey firstFound on, Inventory.isShaded_of_survey secondFound on⟩

theorem ofDocument_withoutFlags {first second : Value}
    (alike : Model.withoutFlags first = Model.withoutFlags second) (options : Options) :
    (ofDocument first options).map Outcome.shown =
      (ofDocument second options).map Outcome.shown := by
  have models : (Model.ofValue first).map Model.unflagged =
      (Model.ofValue second).map Model.unflagged := by
    rw [← Model.ofValue_withoutFlags, alike, Model.ofValue_withoutFlags]
  unfold ofDocument
  rcases cases_of_map_eq models with ⟨failure, firstRead, secondRead⟩ |
    ⟨model, other, firstRead, secondRead, same⟩
  · rw [firstRead, secondRead, error_bind]
  · rw [firstRead, secondRead, ok_bind, ok_bind]
    exact run_unflagged same options

/-! ## Asking for shadows -/

variable {model : Model} {options : Options}

/-- No conversion fails, or comes to its end, because shadows are asked for. -/
theorem succeeds_run_withShadows (model : Model) (options : Options) (shadows : Bool) :
    Succeeds (run (some model) (options.withShadows shadows)) ↔
      Succeeds (run (some model) options) := by
  have surveys : Succeeds (Inventory.survey model.scene model.clips options.precision
      (.bool shadows)) ↔
        Succeeds (Inventory.survey model.scene model.clips options.precision
          options.shadows) := by
    rw [← succeeds_map, Inventory.survey_alike rfl model.clips options.precision (.bool shadows)
      options.shadows, succeeds_map]
  rw [succeeds_run_iff, succeeds_run_iff, Options.style_withShadows,
    HostPage.ofOptions_withShadows, succeeds_map, succeeds_map]
  exact and_congr_left' surveys

theorem isShadedFrom_of_run {unmarked marked : Outcome}
    (off : run (some model) (options.withShadows false) = .ok unmarked)
    (on : run (some model) (options.withShadows true) = .ok marked) :
    ∃ style, options.style = .ok style ∧ marked.IsShadedFrom unmarked style := by
  obtain ⟨records, plain, unmarkedFound, plainStyled, noMarks, _⟩ := run_inversion off
  obtain ⟨others, shaded, markedFound, shadedStyled, marks, _⟩ := run_inversion on
  rw [Options.style_withShadows] at plainStyled shadedStyled
  cases styled : options.style with
  | error failure =>
      rw [styled] at plainStyled
      cases plainStyled
  | ok style =>
      rw [styled] at plainStyled shadedStyled
      obtain rfl : style.withShadows false = plain := Except.ok.inj plainStyled
      obtain rfl : style.withShadows true = shaded := Except.ok.inj shadedStyled
      have alike := Inventory.unflagged_eq_of_surveys rfl unmarkedFound markedFound
      have flagged := Inventory.isShaded_of_survey markedFound rfl
      have extracted := Inventory.isExtracted_of_survey unmarkedFound fun _ _ _ _ _ => trivial
      exact ⟨style, rfl, {
        marks
        noMarks
        template := Template.root_withShadows alike flagged style
        openings := (extracted.count_tags_root _).trans (List.length_map ..).symm
        source := by
          rw [marks, noMarks]
          exact ComponentFile.shadesText_text alike flagged style }⟩

/-- Documents that are one without flags of shadows are shown alike, or refused alike.  Asking
for shadows cannot stop a conversion, and only puts their marks into the opening tags of all
meshes. -/
theorem shadows_noninterfering {first second : Value}
    (alike : Model.withoutFlags first = Model.withoutFlags second) (options : Options) :
    (ofDocument first options).map Outcome.shown =
        (ofDocument second options).map Outcome.shown ∧
      (Succeeds (ofDocument first (options.withShadows false)) ↔
        Succeeds (ofDocument first (options.withShadows true))) ∧
      ∀ unmarked marked, ofDocument first (options.withShadows false) = .ok unmarked →
        ofDocument first (options.withShadows true) = .ok marked →
          ∃ style, options.style = .ok style ∧ marked.IsShadedFrom unmarked style := by
  refine ⟨ofDocument_withoutFlags alike options, ?_, ?_⟩
  · unfold ofDocument
    rw [succeeds_bind, succeeds_bind]
    refine exists_congr fun model => and_congr_right fun _ => ?_
    rw [succeeds_run_withShadows, succeeds_run_withShadows]
  · intro unmarked marked off on
    obtain ⟨model, loaded, off⟩ := bind_eq_ok.mp off
    obtain ⟨other, loadedToo, on⟩ := bind_eq_ok.mp on
    obtain rfl : model = other := Except.ok.inj (loaded.symm.trans loadedToo)
    exact isShadedFrom_of_run off on

/-- A mesh within a mesh, with entries of its own for shadows. -/
def nestedMeshes (flags : Entries) : Value :=
  .map [("scene", .map [("children", .list [.map [("type", .text "Mesh"),
    ("children", .list [.map (flags ++ [("type", .text "Mesh"),
      ("position", .list [.int 1, .int 0, .int 0])])])]])])]

/-- Both meshes are marked, and both documents are shown alike. -/
theorem nestedMeshes_shaded :
    Model.withoutFlags (nestedMeshes []) =
        Model.withoutFlags (nestedMeshes [("castShadow", .bool true)]) ∧
      ∃ unmarked marked style,
        ofDocument (nestedMeshes []) (Options.withShadows {} false) = .ok unmarked ∧
        ofDocument (nestedMeshes []) (Options.withShadows {} true) = .ok marked ∧
        (ofDocument (nestedMeshes [("castShadow", .bool true)])
          (Options.withShadows {} true)).map Outcome.shown = .ok marked.shown ∧
        unmarked.inventory.meshes.length = 2 ∧ marked.IsShadedFrom unmarked style := by
  have alike : Model.withoutFlags (nestedMeshes []) =
      Model.withoutFlags (nestedMeshes [("castShadow", .bool true)]) := rfl
  have converts : (ofDocument (nestedMeshes []) (Options.withShadows {} false)).toOption.map
      (fun outcome => outcome.inventory.meshes.length) = some 2 := by decide +kernel
  obtain ⟨unmarked, off, meshes⟩ := ok_of_map_toOption converts
  obtain ⟨marked, on⟩ := (shadows_noninterfering alike {}).2.1.mp ⟨unmarked, off⟩
  obtain ⟨style, _, shaded⟩ := (shadows_noninterfering alike {}).2.2 unmarked marked off on
  have shown := (shadows_noninterfering alike (Options.withShadows {} true)).1
  rw [on] at shown
  exact ⟨alike, unmarked, marked, style, off, on, shown.symm, meshes, shaded⟩

end Conversion

end SceneComponent
