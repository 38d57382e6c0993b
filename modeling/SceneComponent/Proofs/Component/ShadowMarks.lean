import Mathlib
import SceneComponent.Proofs.Component.AttributeReading
import SceneComponent.Proofs.Component.DialectLine
import SceneComponent.Proofs.Inventory.Contents
import SceneComponent.Proofs.Inventory.ShadowFlags

/-!
# Marks of shadows

Shadows are written in one place, at the end of the opening tags of meshes.  Without them a
component is the same for all flags of its meshes; with them, and all meshes shaded, the
marks stand in every opening tag of a mesh and nothing else changes.
-/

set_option autoImplicit false

namespace SceneComponent

open Text

/-! ## Texts with marks -/

def shadowFlags : List Attribute := [⟨"cast-shadow", .flag⟩, ⟨"receive-shadow", .flag⟩]

/-- The marks of a mesh that casts and receives shadows. -/
def shadowMarks : List Char := " cast-shadow receive-shadow".toList

/-- The opening tag of a mesh up to its end. -/
def meshOpening (attributes : List Attribute) : List Char :=
  ("<" ++ meshTag ++ Attribute.following attributes).toList

/-- A text, and the same text with the marks of shadows inserted at the ends of some opening
tags of meshes, which are listed by their attributes. -/
inductive Shades : List (List Attribute) → List Char → List Char → Prop where
  | nil : Shades [] [] []
  | same (c : Char) {openings : List (List Attribute)} {plain shaded : List Char}
      (rest : Shades openings plain shaded) : Shades openings (c :: plain) (c :: shaded)
  | mesh (attributes : List Attribute) {openings : List (List Attribute)}
      {plain shaded : List Char} (rest : Shades openings plain shaded) :
      Shades (attributes :: openings) (meshOpening attributes ++ '>' :: plain)
        (meshOpening attributes ++ (shadowMarks ++ '>' :: shaded))

namespace Shades

variable {openings others : List (List Attribute)} {plain shaded : List Char}

theorem refl (text : List Char) : Shades [] text text := by
  induction text with
  | nil => exact .nil
  | cons c rest inductionHypothesis => exact .same c inductionHypothesis

theorem append {plainRest shadedRest : List Char} (first : Shades openings plain shaded)
    (rest : Shades others plainRest shadedRest) :
    Shades (openings ++ others) (plain ++ plainRest) (shaded ++ shadedRest) := by
  induction first with
  | nil => exact rest
  | same c _ inductionHypothesis => exact .same c inductionHypothesis
  | mesh attributes _ inductionHypothesis =>
      have marked := inductionHypothesis.mesh attributes
      rw [List.append_assoc, List.append_assoc, List.append_assoc]
      exact marked

theorem behind (marked : Shades openings plain shaded) (front : List Char) :
    Shades openings (front ++ plain) (front ++ shaded) := (refl front).append marked

theorem before (marked : Shades openings plain shaded) (back : List Char) :
    Shades openings (plain ++ back) (shaded ++ back) := by
  have joined := marked.append (refl back)
  rw [List.append_nil] at joined
  exact joined

theorem eq_nil_iff (marked : Shades openings plain shaded) : plain = [] ↔ shaded = [] := by
  cases marked with
  | nil => exact Iff.rfl
  | same c rest => simp
  | mesh attributes rest => simp

end Shades

/-- Items that are shaded one by one, with all their openings listed. -/
inductive ShadesEach {Item : Type} (shades : List (List Attribute) → Item → Item → Prop) :
    List (List Attribute) → List Item → List Item → Prop where
  | nil : ShadesEach shades [] [] []
  | cons {openings others : List (List Attribute)} {plain shaded : Item}
      {plainRest shadedRest : List Item} (first : shades openings plain shaded)
      (rest : ShadesEach shades others plainRest shadedRest) :
      ShadesEach shades (openings ++ others) (plain :: plainRest) (shaded :: shadedRest)

variable {openings others : List (List Attribute)}

theorem ShadesEach.single {Item : Type} {shades : List (List Attribute) → Item → Item → Prop}
    {plain shaded : Item} (only : shades openings plain shaded) :
    ShadesEach shades openings [plain] [shaded] := by
  have listed := ShadesEach.cons only .nil
  rw [List.append_nil] at listed
  exact listed

theorem ShadesEach.append {Item : Type} {shades : List (List Attribute) → Item → Item → Prop}
    {plain shaded plainRest shadedRest : List Item}
    (first : ShadesEach shades openings plain shaded)
    (rest : ShadesEach shades others plainRest shadedRest) :
    ShadesEach shades (openings ++ others) (plain ++ plainRest) (shaded ++ shadedRest) := by
  induction first with
  | nil => exact rest
  | cons head _ inductionHypothesis =>
      rw [List.append_assoc]
      exact .cons head inductionHypothesis

def ShadesText (openings : List (List Attribute)) (plain shaded : String) : Prop :=
  Shades openings plain.toList shaded.toList

theorem ShadesEach.refl (parts : List String) : ShadesEach ShadesText [] parts parts := by
  induction parts with
  | nil => exact .nil
  | cons part rest inductionHypothesis => exact .cons (.refl _) inductionHypothesis

theorem shadesText_intercalate (separator : String) {plain shaded : List String}
    (each : ShadesEach ShadesText openings plain shaded) :
    ShadesText openings (separator.intercalate plain) (separator.intercalate shaded) := by
  induction each with
  | nil => exact .refl _
  | @cons openings others plain shaded plainRest shadedRest first rest inductionHypothesis =>
      cases rest with
      | nil =>
          rw [String.intercalate_singleton, String.intercalate_singleton, List.append_nil]
          exact first
      | cons next more =>
          rw [String.intercalate_cons_cons, String.intercalate_cons_cons, ShadesText,
            String.toList_append, String.toList_append, String.toList_append,
            String.toList_append]
          exact (first.before separator.toList).append inductionHypothesis

/-! ## Steps with marks -/

inductive ShadesStep : List (List Attribute) → LayoutStep → LayoutStep → Prop where
  | line {openings : List (List Attribute)} {plain shaded : String}
      (marked : ShadesText openings plain shaded) :
      ShadesStep openings (.line plain) (.line shaded)
  | enter : ShadesStep [] .enter .enter
  | leave : ShadesStep [] .leave .leave

theorem ShadesStep.line_refl (text : String) : ShadesStep [] (.line text) (.line text) :=
  .line (.refl _)

theorem ShadesEach.deeper {plain shaded : List LayoutStep}
    (within : ShadesEach ShadesStep openings plain shaded) :
    ShadesEach ShadesStep openings (Text.deeper plain) (Text.deeper shaded) := by
  have entered := ShadesEach.cons .enter (within.append (.single .leave))
  rw [List.nil_append, List.append_nil] at entered
  exact entered

theorem shadesText_indented (level : Int) {plain shaded : String}
    (marked : ShadesText openings plain shaded) :
    ShadesText openings (Layout.indented level plain) (Layout.indented level shaded) := by
  have none : plain = "" ↔ shaded = "" := by
    rw [← String.toList_eq_nil_iff, ← String.toList_eq_nil_iff]
    exact marked.eq_nil_iff
  unfold Layout.indented
  by_cases empty : shaded = ""
  · have plainEmpty := none.mpr empty
    subst empty plainEmpty
    exact marked
  · rw [if_neg (by simpa using fun same => empty (none.mp same)), if_neg (by simpa using empty),
      ShadesText, String.toList_append, String.toList_append]
    exact marked.behind _

theorem shadesEach_writtenLines (level : Int) {plain shaded : List LayoutStep}
    (each : ShadesEach ShadesStep openings plain shaded) :
    ShadesEach ShadesText openings (writtenLines level plain) (writtenLines level shaded) := by
  induction each generalizing level with
  | nil => exact .nil
  | cons first _ inductionHypothesis =>
      cases first with
      | line marked => exact .cons (shadesText_indented level marked) (inductionHypothesis level)
      | enter => exact inductionHypothesis (level + 1)
      | leave => exact inductionHypothesis (level - 1)

theorem shadesText_laidOut (level : Int) {plain shaded : List LayoutStep}
    (each : ShadesEach ShadesStep openings plain shaded) :
    ShadesText openings (laidOut level plain) (laidOut level shaded) := by
  rw [laidOut_eq, laidOut_eq]
  exact shadesText_intercalate "\n" (shadesEach_writtenLines level each)

/-! ## Elements with marks -/

namespace Element

mutual

/-- An element with the flags of shadows at all meshes. -/
def shaded : Element → Element
  | .blank => .blank
  | .comment text => .comment text
  | .leaf tag attributes => .leaf tag attributes
  | .branch tag attributes content =>
      .branch tag (if tag = meshTag then attributes ++ shadowFlags else attributes)
        (shadedAll content)

def shadedAll : List Element → List Element
  | [] => []
  | element :: rest => shaded element :: shadedAll rest

end

mutual

/-- The meshes that are opened by an element, by their attributes. -/
def openedMeshes : Element → List (List Attribute)
  | .blank => []
  | .comment _ => []
  | .leaf _ _ => []
  | .branch tag attributes content =>
      (if tag = meshTag then [attributes] else []) ++ openedMeshesOf content

def openedMeshesOf : List Element → List (List Attribute)
  | [] => []
  | element :: rest => openedMeshes element ++ openedMeshesOf rest

end

theorem toList_following_shadowFlags (attributes : List Attribute) :
    (Attribute.following (attributes ++ shadowFlags)).toList =
      (Attribute.following attributes).toList ++ shadowMarks := by
  rw [Attribute.toList_following_eq, Attribute.toList_following_eq, List.flatMap_append]
  rfl

theorem shadesStep_opening (tag : String) (attributes : List Attribute) :
    ShadesStep (if tag = meshTag then [attributes] else [])
      (.line ("<" ++ tag ++ Attribute.following attributes ++ ">"))
      (.line ("<" ++ tag ++ Attribute.following
        (if tag = meshTag then attributes ++ shadowFlags else attributes) ++ ">")) := by
  by_cases mesh : tag = meshTag
  · subst mesh
    rw [if_pos rfl, if_pos rfl]
    have marked := Shades.mesh attributes .nil
    have plain : ("<" ++ meshTag ++ Attribute.following attributes ++ ">").toList =
        meshOpening attributes ++ ['>'] := String.toList_append ..
    have shaded : ("<" ++ meshTag ++ Attribute.following (attributes ++ shadowFlags) ++
        ">").toList = meshOpening attributes ++ (shadowMarks ++ ['>']) := by
      simp only [meshOpening, String.toList_append, toList_following_shadowFlags,
        List.append_assoc]
      rfl
    refine .line ?_
    rw [ShadesText, plain, shaded]
    exact marked
  · rw [if_neg mesh, if_neg mesh]
    exact .line_refl _

mutual

/-- The steps of an element with the flags are its own with the marks. -/
theorem shadesEach_steps : (element : Element) →
    ShadesEach ShadesStep element.openedMeshes element.steps element.shaded.steps
  | .blank => .single (.line_refl _)
  | .comment _ => .single (.line_refl _)
  | .leaf _ _ => .single (.line_refl _)
  | .branch tag attributes content => by
      have within := (shadesEach_stepsOf content).deeper
      have closed := within.append (.single (.line_refl ("</" ++ tag ++ ">")))
      rw [List.append_nil] at closed
      exact .cons (shadesStep_opening tag attributes) closed

theorem shadesEach_stepsOf : (elements : List Element) →
    ShadesEach ShadesStep (openedMeshesOf elements) (stepsOf elements)
      (stepsOf (shadedAll elements))
  | [] => .nil
  | element :: rest => (shadesEach_steps element).append (shadesEach_stepsOf rest)

end

theorem shadedAll_append (first rest : List Element) :
    shadedAll (first ++ rest) = shadedAll first ++ shadedAll rest := by
  induction first with
  | nil => rfl
  | cons element others inductionHypothesis =>
      rw [List.cons_append, shadedAll, inductionHypothesis, shadedAll, List.cons_append]

theorem openedMeshesOf_append (first rest : List Element) :
    openedMeshesOf (first ++ rest) = openedMeshesOf first ++ openedMeshesOf rest := by
  induction first with
  | nil => rfl
  | cons element others inductionHypothesis =>
      rw [List.cons_append, openedMeshesOf, inductionHypothesis, openedMeshesOf,
        List.append_assoc]

end Element

/-! ## Templates -/

def Style.withShadows (style : Style) (shadows : Bool) : Style := { style with shadows }

namespace Template

open Element

variable {inventory : Inventory} {style : Style}

/-- The template without flags of shadows. -/
def plainRoot (inventory : Inventory) : Element := root inventory {}

theorem root_of_not_shadows (off : style.shadows = false) :
    root inventory style = plainRoot inventory := by
  have meshes : meshElements style = meshElements {} := by
    funext entry
    simp [meshElements, shadowAttributes, off]
  rw [plainRoot, root, root, meshes]

theorem plainRoot_unflagged (inventory : Inventory) :
    plainRoot inventory.unflagged = plainRoot inventory := by
  have meshes : (inventory.meshes.map MeshEntry.unflagged).flatMap (meshElements {}) =
      inventory.meshes.flatMap (meshElements {}) := List.flatMap_map ..
  rw [plainRoot, root]
  simp only [Inventory.unflagged, meshes]
  rfl

theorem shadedAll_entries (entries : List Entry) :
    shadedAll (entries.map entryElement) = entries.map entryElement := by
  induction entries with
  | nil => rfl
  | cons entry rest inductionHypothesis =>
      rw [List.map_cons, shadedAll, inductionHypothesis]
      rfl

theorem openedMeshesOf_entries (entries : List Entry) :
    openedMeshesOf (entries.map entryElement) = [] := by
  induction entries with
  | nil => rfl
  | cons entry rest inductionHypothesis =>
      rw [List.map_cons, openedMeshesOf, inductionHypothesis]
      rfl

theorem shadedAll_mesh (on : style.shadows = true) {entry : MeshEntry}
    (casts : entry.castShadow.isTruthy = true) (receives : entry.receiveShadow.isTruthy = true) :
    shadedAll (meshElements {} entry) = meshElements style entry := by
  simp [meshElements, shadowAttributes, shadowFlags, shadedAll, shaded, on, casts, receives,
    geometryElement, materialElement]

theorem shadedAll_meshes (on : style.shadows = true) {entries : List MeshEntry}
    (flagged : ∀ entry ∈ entries,
      entry.castShadow.isTruthy = true ∧ entry.receiveShadow.isTruthy = true) :
    shadedAll (entries.flatMap (meshElements {})) = entries.flatMap (meshElements style) := by
  induction entries with
  | nil => rfl
  | cons entry rest inductionHypothesis =>
      obtain ⟨⟨casts, receives⟩, restFlagged⟩ := List.forall_mem_cons.mp flagged
      rw [List.flatMap_cons, shadedAll_append, shadedAll_mesh on casts receives,
        inductionHypothesis restFlagged, List.flatMap_cons]

/-- Where shadows are written and all meshes shaded, the template has its flags at all of
its meshes. -/
theorem root_of_shadows (on : style.shadows = true) (flagged : inventory.IsShaded) :
    root inventory style = (plainRoot inventory).shaded := by
  have notMesh : Imports.groupTag ≠ meshTag := by decide
  rw [plainRoot, root, root, shaded, if_neg notMesh, shadedAll_append, shadedAll_append,
    shadedAll_append, shadedAll_entries, shadedAll_entries, shadedAll_meshes on flagged]
  rfl

/-- The openings of the meshes of a template, without flags of shadows. -/
def meshOpenings (inventory : Inventory) : List (List Attribute) :=
  inventory.meshes.map fun entry => Attribute.ofEntry [] entry.transform

theorem openedMeshesOf_meshes (entries : List MeshEntry) :
    openedMeshesOf (entries.flatMap (meshElements {})) =
      entries.map fun entry => Attribute.ofEntry [] entry.transform := by
  induction entries with
  | nil => rfl
  | cons entry rest inductionHypothesis =>
      have single : openedMeshesOf (meshElements {} entry) =
          [Attribute.ofEntry [] entry.transform] := by
        simp [meshElements, shadowAttributes, openedMeshesOf, openedMeshes, geometryElement,
          materialElement]
      rw [List.flatMap_cons, openedMeshesOf_append, inductionHypothesis, single, List.map_cons]
      rfl

theorem openedMeshes_plainRoot (inventory : Inventory) :
    (plainRoot inventory).openedMeshes = meshOpenings inventory := by
  have notMesh : Imports.groupTag ≠ meshTag := by decide
  rw [plainRoot, root, openedMeshes, if_neg notMesh, openedMeshesOf_append,
    openedMeshesOf_append, openedMeshesOf_append, openedMeshesOf_entries, openedMeshesOf_entries,
    openedMeshesOf_meshes]
  simp [meshOpenings, sceneElements, openedMeshesOf, openedMeshes]

variable {first second : Inventory}

theorem root_withShadows (alike : first.unflagged = second.unflagged)
    (flagged : second.IsShaded) (style : Style) :
    root second (style.withShadows true) = (root first (style.withShadows false)).shaded := by
  have on : (style.withShadows true).shadows = true := rfl
  have off : (style.withShadows false).shadows = false := rfl
  rw [root_of_not_shadows off, root_of_shadows on flagged, ← plainRoot_unflagged second, ← alike,
    plainRoot_unflagged]

theorem shadesText_block (alike : first.unflagged = second.unflagged)
    (flagged : second.IsShaded) (style : Style) :
    ShadesText (meshOpenings first) (block first (style.withShadows false))
      (block second (style.withShadows true)) := by
  have off : (style.withShadows false).shadows = false := rfl
  rw [block, block, root_withShadows alike flagged, root_of_not_shadows off,
    ← openedMeshes_plainRoot]
  exact shadesText_laidOut 1 (shadesEach_steps (plainRoot first))

end Template

/-! ## Files -/

theorem Imports.groups_unflagged (inventory : Inventory) (style : Style) :
    groups inventory.unflagged style = groups inventory style := rfl

namespace ComponentFile

/-- What stands after the template. -/
def partsAfterTemplate (inventory : Inventory) (style : Style) : List String :=
  ["</template>", ""] ++ scriptParts inventory style ++
    ["", "<style scoped>", "/* Add any component-specific styles here */", "</style>"]

theorem partsAfterTemplate_unflagged (inventory : Inventory) (style : Style) :
    partsAfterTemplate inventory style =
      partsAfterTemplate inventory.unflagged (style.withShadows false) := rfl

theorem parts_eq (inventory : Inventory) (style : Style) :
    parts inventory style = "<template>" :: Template.block inventory style ::
      partsAfterTemplate inventory style := rfl

variable {first second : Inventory}

/-- Inventories that are one without flags make one file, where no shadows are written or
all meshes are shaded. -/
theorem text_alike (alike : first.unflagged = second.unflagged) {style : Style}
    (flagged : style.shadows = true → first.IsShaded ∧ second.IsShaded) :
    text first style = text second style := by
  have roots : Template.root first style = Template.root second style := by
    cases shadows : style.shadows with
    | false =>
        rw [Template.root_of_not_shadows shadows, Template.root_of_not_shadows shadows,
          ← Template.plainRoot_unflagged first, alike, Template.plainRoot_unflagged]
    | true =>
        obtain ⟨firstFlagged, secondFlagged⟩ := flagged shadows
        rw [Template.root_of_shadows shadows firstFlagged,
          Template.root_of_shadows shadows secondFlagged,
          ← Template.plainRoot_unflagged first, alike, Template.plainRoot_unflagged]
  rw [text, text, parts_eq, parts_eq, partsAfterTemplate_unflagged first, alike,
    ← partsAfterTemplate_unflagged second, Template.block, Template.block, roots]

/-- Writing the shadows of meshes that are all shaded puts the marks into the opening tags
of all meshes. -/
theorem shadesText_text (alike : first.unflagged = second.unflagged)
    (flagged : second.IsShaded) (style : Style) :
    ShadesText (Template.meshOpenings first) (text first (style.withShadows false))
      (text second (style.withShadows true)) := by
  have template : ShadesText (Template.meshOpenings first)
      (Template.block first (style.withShadows false))
      (Template.block second (style.withShadows true)) :=
    Template.shadesText_block alike flagged style
  have after : partsAfterTemplate second (style.withShadows true) =
      partsAfterTemplate first (style.withShadows false) := by
    rw [partsAfterTemplate_unflagged second, ← alike, partsAfterTemplate_unflagged first]
    rfl
  have each : ShadesEach ShadesText (Template.meshOpenings first)
      (parts first (style.withShadows false)) (parts second (style.withShadows true)) := by
    rw [parts_eq, parts_eq, after]
    have joined := ShadesEach.cons template
      (.refl (partsAfterTemplate first (style.withShadows false)))
    rw [List.append_nil] at joined
    exact .cons (.refl _) joined
  rw [text, text, ShadesText, String.toList_append, String.toList_append]
  exact (shadesText_intercalate "\n" each).before _

end ComponentFile

end SceneComponent
