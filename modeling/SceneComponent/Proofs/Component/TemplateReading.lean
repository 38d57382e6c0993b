import Mathlib
import SceneComponent.Proofs.Component.TemplateLines

/-!
# Reading templates

The lines of one kind stand in the order of the entries, and each of them tells its part of
an entry.  So the text of a template tells the entries that it was laid out from.
-/

set_option autoImplicit false

namespace SceneComponent

open Text Element Checked

/-- The lines of one kind in a text. -/
def linesOfKind (kind : LineKind) (text : String) : List (List Char) :=
  (bareLines text).filter fun line => LineKind.ofLine line = kind

namespace Template

variable {inventory : Inventory} {style : Style}

theorem bareLines_block (regular : inventory.IsRegular IsTypeName) :
    bareLines (block inventory style) = (root inventory style).lines :=
  bareLines_laidOut
    (fun step member => (isOther_of_mem_steps (isInline_root regular style) step member).1)
    (bare_steps_ne_nil (root inventory style))

theorem ofLine_entryLine {ending : String} {entry : Entry} (told : entry.IsExact ending)
    (filled : ending.toList ≠ []) :
    LineKind.ofLine (entryLine entry) = LineKind.ofLetter ending.toList.getLast? :=
  told.tag.ofLine_tagLine filled endsLeaf

/-- Entries of one ending have lines of one kind. -/
theorem filter_entryLines {ending : String} (filled : ending.toList ≠ []) {entries : List Entry}
    (told : ∀ entry ∈ entries, entry.IsExact ending) (kind : LineKind) :
    (entries.map entryLine).filter (fun line => LineKind.ofLine line = kind) =
      if LineKind.ofLetter ending.toList.getLast? = kind then entries.map entryLine else [] := by
  split
  · rename_i ofKind
    refine List.filter_eq_self.mpr (List.forall_mem_map.mpr fun entry member => ?_)
    rw [ofLine_entryLine (told entry member) filled, ofKind]
    exact decide_eq_true rfl
  · rename_i ofOther
    refine List.filter_eq_nil_iff.mpr (List.forall_mem_map.mpr fun entry member => ?_)
    rw [ofLine_entryLine (told entry member) filled, decide_eq_true_eq]
    exact ofOther

theorem filter_meshLines {entry : MeshEntry} (told : entry.IsExact) (kind : LineKind) :
    (meshLines style entry).filter (fun line => LineKind.ofLine line = kind) =
      match kind with
      | .remark => [remarkLine entry.name]
      | .mesh => [meshLine style entry]
      | .geometry => [geometryLine entry]
      | .material => [materialLine entry]
      | .light => []
      | .camera => []
      | .other => [closingLine meshTag] := by
  have mesh : LineKind.ofLine (meshLine style entry) = .mesh :=
    isTagOf_mesh.ofLine_tagLine (by decide) endsOpening
  have geometry : LineKind.ofLine (geometryLine entry) = .geometry :=
    told.geometry.ofLine_tagLine (by decide) endsLeaf
  have material : LineKind.ofLine (materialLine entry) = .material :=
    told.material.ofLine_tagLine (by decide) endsLeaf
  cases kind <;>
    simp [meshLines, LineKind.ofLine_remark, LineKind.ofLine_closing, mesh, geometry, material]

/-- Each mesh has one line of a kind, or none has. -/
theorem filter_meshes (told : ∀ entry ∈ inventory.meshes, entry.IsExact) (kind : LineKind) :
    (inventory.meshes.flatMap (meshLines style)).filter
        (fun line => LineKind.ofLine line = kind) =
      match kind with
      | .remark => inventory.meshes.map (remarkLine ·.name)
      | .mesh => inventory.meshes.map (meshLine style)
      | .geometry => inventory.meshes.map geometryLine
      | .material => inventory.meshes.map materialLine
      | .light => []
      | .camera => []
      | .other => inventory.meshes.map fun _ => closingLine meshTag := by
  rw [List.filter_flatMap, List.flatMap_congr fun entry member =>
    filter_meshLines (told entry member) kind]
  cases kind <;> simp [List.map_eq_flatMap]

theorem linesOfKind_block (regular : inventory.IsRegular IsTypeName)
    {kind : LineKind} (shows : kind ≠ .other) :
    linesOfKind kind (block inventory style) =
      (inventory.lights.map entryLine).filter (fun line => LineKind.ofLine line = kind) ++
        (inventory.meshes.flatMap (meshLines style)).filter
          (fun line => LineKind.ofLine line = kind) ++
        (inventory.cameras.map entryLine).filter (fun line => LineKind.ofLine line = kind) ++
        if kind = .remark then [remarkLine "GLTF scene"] else [] := by
  obtain ⟨opening, primitive, closing, openingFrame, primitiveFrame, closingFrame, lines⟩ :=
    lines_root inventory style
  have dropped : ∀ {line : List Char} (rest : List (List Char)), IsFrameLine line →
      (line :: rest).filter (fun line => LineKind.ofLine line = kind) =
        rest.filter (fun line => LineKind.ofLine line = kind) := by
    intro line rest isFrame
    refine List.filter_cons_of_neg ?_
    rw [decide_eq_true_eq, isFrame]
    exact shows.symm
  have scene : [remarkLine "GLTF scene", primitive].filter
      (fun line => LineKind.ofLine line = kind) =
        if kind = .remark then [remarkLine "GLTF scene"] else [] := by
    rw [List.filter_cons, dropped [] primitiveFrame, LineKind.ofLine_remark]
    simp [eq_comm]
  rw [linesOfKind, bareLines_block regular, lines, List.cons_append, dropped _ openingFrame,
    List.filter_append, dropped [] closingFrame, List.filter_nil, List.append_nil,
    List.filter_append, List.filter_append, List.filter_append, scene]

/-- What the lines of a text show of an inventory. -/
structure Shows (style : Style) (inventory : Inventory) (text : String) : Prop where
  lights : linesOfKind .light text = inventory.lights.map entryLine
  cameras : linesOfKind .camera text = inventory.cameras.map entryLine
  names : linesOfKind .remark text =
    inventory.meshes.map (remarkLine ·.name) ++ [remarkLine "GLTF scene"]
  meshes : linesOfKind .mesh text = inventory.meshes.map (meshLine style)
  geometries : linesOfKind .geometry text = inventory.meshes.map geometryLine
  materials : linesOfKind .material text = inventory.meshes.map materialLine

theorem shows_block (regular : inventory.IsRegular IsTypeName) (told : inventory.IsExact) :
    Shows style inventory (block inventory style) := by
  have sorted : ∀ {kind : LineKind}, kind ≠ .other →
      linesOfKind kind (block inventory style) =
        (if .light = kind then inventory.lights.map entryLine else []) ++
          (inventory.meshes.flatMap (meshLines style)).filter
            (fun line => LineKind.ofLine line = kind) ++
          (if .camera = kind then inventory.cameras.map entryLine else []) ++
          if kind = .remark then [remarkLine "GLTF scene"] else [] := by
    intro kind shows
    rw [linesOfKind_block regular shows, filter_entryLines (by decide) told.lights,
      filter_entryLines (by decide) told.cameras]
    rfl
  refine {
    lights := ?_
    cameras := ?_
    names := ?_
    meshes := ?_
    geometries := ?_
    materials := ?_ }
  all_goals
    rw [sorted (by decide), filter_meshes told.meshes]
    simp

/-! ## Entries from their lines -/

theorem entryLine_injective {ending : String} (filled : ending.toList ≠ []) {left right : Entry}
    (leftTold : left.IsExact ending) (rightTold : right.IsExact ending)
    (same : entryLine left = entryLine right) : left = right := by
  obtain ⟨tags, written⟩ := tagLine_injective filled leftTold.tag rightTold.tag
    (leftTold.transform.areExact_append leftTold.properties)
    (rightTold.transform.areExact_append rightTold.properties) same
  obtain ⟨transforms, properties⟩ := Transform.append_injective leftTold.own rightTold.own written
  cases left
  cases right
  simp_all

theorem entries_of_lines {ending : String} (filled : ending.toList ≠ []) {left right : List Entry}
    (leftTold : ∀ entry ∈ left, entry.IsExact ending)
    (rightTold : ∀ entry ∈ right, entry.IsExact ending)
    (same : left.map entryLine = right.map entryLine) : left = right :=
  eq_of_map_eq (fun entry inLeft other inRight =>
    entryLine_injective filled (leftTold entry inLeft) (rightTold other inRight)) same

theorem remarkLine_injective : Function.Injective remarkLine := by
  intro left right same
  apply String.toList_inj.mp
  simpa [remarkLine] using same

theorem shadowProperties_areExact (style : Style) (entry : MeshEntry) :
    (shadowProperties style entry).AreExact ∧
      ∀ property ∈ shadowProperties style entry, property.1 ∉ Transform.partNames := by
  have all : ∀ property ∈ shadowProperties style entry,
      property = ("cast-shadow", .bool true) ∨ property = ("receive-shadow", .bool true) := by
    unfold shadowProperties
    cases style.shadows <;> cases entry.castShadow.isTruthy <;>
      cases entry.receiveShadow.isTruthy <;> simp
  have castName : IsAttributeName "cast-shadow" := by decide
  have receiveName : IsAttributeName "receive-shadow" := by decide
  refine ⟨fun property member => ?_, fun property member => ?_⟩
  · rcases all property member with rfl | rfl
    · exact ⟨castName, .flag⟩
    · exact ⟨receiveName, .flag⟩
  · rcases all property member with rfl | rfl
    · exact (by decide : "cast-shadow" ∉ Transform.partNames)
    · exact (by decide : "receive-shadow" ∉ Transform.partNames)

/-- The flags of the shadows are told from the properties they are written as. -/
theorem flags_of_shadowProperties {style : Style} (shown : style.shadows = true)
    (entry : MeshEntry) :
    entry.castShadow.isTruthy = ((shadowProperties style entry).lookup "cast-shadow").isSome ∧
      entry.receiveShadow.isTruthy =
        ((shadowProperties style entry).lookup "receive-shadow").isSome := by
  rw [shadowProperties, if_pos shown]
  cases entry.castShadow.isTruthy <;> cases entry.receiveShadow.isTruthy <;> exact ⟨rfl, rfl⟩

theorem argumentProperties_areExact {entry : MeshEntry} (told : entry.IsExact) :
    (argumentProperties entry.geometry).AreExact := by
  obtain ⟨numbers, unsigned, arguments⟩ := told.arguments
  have named : IsAttributeName "args" := by decide
  unfold argumentProperties
  split
  · exact List.forall_mem_nil _
  · intro property member
    cases List.mem_singleton.mp member
    exact ⟨named, arguments ▸ .numbers numbers unsigned⟩

theorem geometry_of_properties {left right : GeometryEntry} (tags : left.tag = right.tag)
    (same : argumentProperties left = argumentProperties right) : left = right := by
  obtain ⟨tag, arguments⟩ := left
  obtain ⟨otherTag, otherArguments⟩ := right
  obtain rfl : tag = otherTag := tags
  cases arguments with
  | nil =>
      cases otherArguments with
      | nil => rfl
      | cons other others => cases same
  | cons first rest =>
      cases otherArguments with
      | nil => cases same
      | cons other others =>
          cases same
          rfl

end Template

/-- Whether two meshes are shown alike: the flags of the shadows count where shadows are
written. -/
structure MeshEntry.ShownAlike (style : Style) (left right : MeshEntry) : Prop where
  name : left.name = right.name
  geometry : left.geometry = right.geometry
  materialTag : left.material.tag = right.material.tag
  materialProperties : left.material.properties = right.material.properties
  transform : left.transform = right.transform
  castShadow : style.shadows = true → left.castShadow.isTruthy = right.castShadow.isTruthy
  receiveShadow : style.shadows = true →
    left.receiveShadow.isTruthy = right.receiveShadow.isTruthy

namespace Template

variable {style : Style}

/-- A mesh is told from its remark and the lines of its three elements. -/
theorem shownAlike_of_lines {left right : MeshEntry} (leftTold : left.IsExact)
    (rightTold : right.IsExact) (names : remarkLine left.name = remarkLine right.name)
    (meshes : meshLine style left = meshLine style right)
    (geometries : geometryLine left = geometryLine right)
    (materials : materialLine left = materialLine right) : left.ShownAlike style right := by
  obtain ⟨leftShadows, leftOwn⟩ := shadowProperties_areExact style left
  obtain ⟨rightShadows, rightOwn⟩ := shadowProperties_areExact style right
  obtain ⟨_, placed⟩ := tagLine_injective (by decide) isTagOf_mesh isTagOf_mesh
    (leftTold.transform.areExact_append leftShadows)
    (rightTold.transform.areExact_append rightShadows) meshes
  obtain ⟨transforms, shadows⟩ := Transform.append_injective leftOwn rightOwn placed
  obtain ⟨geometryTags, arguments⟩ := tagLine_injective (by decide) leftTold.geometry
    rightTold.geometry (argumentProperties_areExact leftTold)
    (argumentProperties_areExact rightTold) geometries
  obtain ⟨materialTags, properties⟩ := tagLine_injective (by decide) leftTold.material
    rightTold.material leftTold.properties rightTold.properties materials
  refine {
    name := remarkLine_injective names
    geometry := geometry_of_properties geometryTags arguments
    materialTag := materialTags
    materialProperties := properties
    transform := transforms
    castShadow := fun shown => ?_
    receiveShadow := fun shown => ?_ }
  · rw [(flags_of_shadowProperties shown left).1, shadows,
      ← (flags_of_shadowProperties shown right).1]
  · rw [(flags_of_shadowProperties shown left).2, shadows,
      ← (flags_of_shadowProperties shown right).2]

theorem meshes_of_lines {left right : List MeshEntry} (leftTold : ∀ entry ∈ left, entry.IsExact)
    (rightTold : ∀ entry ∈ right, entry.IsExact)
    (names : left.map (remarkLine ·.name) = right.map (remarkLine ·.name))
    (meshes : left.map (meshLine style) = right.map (meshLine style))
    (geometries : left.map geometryLine = right.map geometryLine)
    (materials : left.map materialLine = right.map materialLine) :
    List.Forall₂ (MeshEntry.ShownAlike style) left right := by
  induction left generalizing right with
  | nil =>
      cases List.map_eq_nil_iff.mp names.symm
      exact .nil
  | cons first rest inductionHypothesis =>
      cases right with
      | nil => cases names
      | cons other others =>
          obtain ⟨firstTold, restTold⟩ := List.forall_mem_cons.mp leftTold
          obtain ⟨otherTold, othersTold⟩ := List.forall_mem_cons.mp rightTold
          obtain ⟨name, restNames⟩ := List.cons.inj names
          obtain ⟨mesh, restMeshes⟩ := List.cons.inj meshes
          obtain ⟨geometry, restGeometries⟩ := List.cons.inj geometries
          obtain ⟨material, restMaterials⟩ := List.cons.inj materials
          exact .cons (shownAlike_of_lines firstTold otherTold name mesh geometry material)
            (inductionHypothesis restTold othersTold restNames restMeshes restGeometries
              restMaterials)

/-- A text shows the entries of one inventory. -/
theorem Shows.entries_alike {text : String} {left right : Inventory}
    (leftTold : left.IsExact) (rightTold : right.IsExact) (leftShown : Shows style left text)
    (rightShown : Shows style right text) :
    left.lights = right.lights ∧ left.cameras = right.cameras ∧
      List.Forall₂ (MeshEntry.ShownAlike style) left.meshes right.meshes := by
  have names := leftShown.names.symm.trans rightShown.names
  exact ⟨entries_of_lines (by decide) leftTold.lights rightTold.lights
      (leftShown.lights.symm.trans rightShown.lights),
    entries_of_lines (by decide) leftTold.cameras rightTold.cameras
      (leftShown.cameras.symm.trans rightShown.cameras),
    meshes_of_lines leftTold.meshes rightTold.meshes (List.append_cancel_right names)
      (leftShown.meshes.symm.trans rightShown.meshes)
      (leftShown.geometries.symm.trans rightShown.geometries)
      (leftShown.materials.symm.trans rightShown.materials)⟩

/-- Templates of one text show the same entries, whatever scenes they are of. -/
theorem entries_told_by_block {firstRoot secondRoot : Node} {firstClips secondClips : List Clip}
    {firstPlaces secondPlaces firstShadows secondShadows : Value} {first second : Inventory}
    {firstRecords secondRecords : List Record}
    (firstSurvey : Inventory.survey firstRoot firstClips firstPlaces firstShadows =
      .ok (first, firstRecords))
    (firstTyped : Node.GeometriesAre IsTypeName firstRoot.properDescendants)
    (secondSurvey : Inventory.survey secondRoot secondClips secondPlaces secondShadows =
      .ok (second, secondRecords))
    (secondTyped : Node.GeometriesAre IsTypeName secondRoot.properDescendants)
    (same : block first style = block second style) :
    first.lights = second.lights ∧ first.cameras = second.cameras ∧
      List.Forall₂ (MeshEntry.ShownAlike style) first.meshes second.meshes := by
  have firstTold := Inventory.isExact_of_survey firstSurvey firstTyped
  have secondTold := Inventory.isExact_of_survey secondSurvey secondTyped
  have firstShown : Shows style first (block first style) :=
    shows_block (Inventory.isRegular_of_survey firstSurvey firstTyped) firstTold
  have secondShown : Shows style second (block first style) :=
    same ▸ shows_block (Inventory.isRegular_of_survey secondSurvey secondTyped) secondTold
  exact Shows.entries_alike firstTold secondTold firstShown secondShown

/-- A box that is moved along one axis and may cast a shadow. -/
def boxAt (offset : Float) (casts : Bool) : Node where
  children := [
    { kind := .mesh
      name := .text "Box"
      position := .triple offset 0.0 0.0
      geometry := some { typeName := .text "BoxGeometry" }
      castShadow := .bool casts }]

def boxTemplate : String :=
  "  <TresGroup>\n    <!-- Box -->\n    <TresMesh :position=\"[1.5,0,0]\">\n" ++
    "      <TresBoxGeometry :args=\"[1,1,1]\" />\n      <TresMeshBasicMaterial />\n" ++
    "    </TresMesh>\n    <!-- GLTF scene -->\n    <primitive :object=\"scene\" />\n  </TresGroup>"

theorem boxAt_typeNames (offset : Float) (casts : Bool) :
    Node.GeometriesAre IsTypeName (boxAt offset casts).properDescendants := by
  intro node member _ typeName named
  cases List.mem_singleton.mp member
  cases named
  exact List.all_eq_true.mp rfl

/-- Boxes whose places are rounded to the same and whose shadows are not written. -/
theorem boxes_told_by_block : ∃ first second firstRecords secondRecords,
    Inventory.survey (boxAt 1.5 true) [] = .ok (first, firstRecords) ∧
      Inventory.survey (boxAt 1.5001 false) [] = .ok (second, secondRecords) ∧
      block first {} = boxTemplate ∧ block second {} = boxTemplate ∧
      first.lights = second.lights ∧ first.cameras = second.cameras ∧
      List.Forall₂ (MeshEntry.ShownAlike {}) first.meshes second.meshes := by
  have firstText : (Inventory.survey (boxAt 1.5 true) []).toOption.map (block ·.1 {}) =
      some boxTemplate := by decide +kernel
  have secondText : (Inventory.survey (boxAt 1.5001 false) []).toOption.map (block ·.1 {}) =
      some boxTemplate := by decide +kernel
  obtain ⟨⟨first, firstRecords⟩, firstSurvey, firstBlock⟩ := ok_of_map_toOption firstText
  obtain ⟨⟨second, secondRecords⟩, secondSurvey, secondBlock⟩ := ok_of_map_toOption secondText
  exact ⟨first, second, firstRecords, secondRecords, firstSurvey, secondSurvey, firstBlock,
    secondBlock, entries_told_by_block firstSurvey (boxAt_typeNames 1.5 true) secondSurvey
      (boxAt_typeNames 1.5001 false) (firstBlock.trans secondBlock.symm)⟩

end Template

end SceneComponent
