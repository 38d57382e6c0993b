import Mathlib
import SceneComponent.Proofs.Component.SourceLines

/-!
# The line of the dialect

A server-rendered project has the elements of the framework registered, a standalone one
imports them.  That is one statement among the imports and so one line of the file: the
names handed out by the setup are those of the engine, which both dialects import, and no
other section looks at the dialect.
-/

set_option autoImplicit false

namespace SceneComponent

open Text Checked

/-- What is left of a text without one of its lines. -/
def Text.DropsLine (line longer shorter : String) : Prop :=
  ∃ before after, lines longer = before ++ line :: after ∧ lines shorter = before ++ after

/-- A part of a joined text loses a line, and so does the text. -/
theorem Text.DropsLine.intercalate {line longer shorter : String}
    (drops : DropsLine line longer shorter) (front back : List String) :
    DropsLine line ("\n".intercalate (front ++ longer :: back) ++ "\n")
      ("\n".intercalate (front ++ shorter :: back) ++ "\n") := by
  obtain ⟨before, after, atLonger, atShorter⟩ := drops
  have linesAround : ∀ part, lines ("\n".intercalate (front ++ part :: back) ++ "\n") =
      front.flatMap lines ++ (lines part ++ (back.flatMap lines ++ lines "")) := by
    intro part
    have ended := lines_append_feed ("\n".intercalate (front ++ part :: back)) ""
    rw [String.append_empty] at ended
    rw [ended, lines_intercalate (by simp), List.flatMap_append, List.flatMap_cons]
    simp only [List.append_assoc]
  refine ⟨front.flatMap lines ++ before, after ++ (back.flatMap lines ++ lines ""), ?_, ?_⟩
  · rw [linesAround, atLonger]
    simp only [List.append_assoc, List.cons_append]
  · rw [linesAround, atShorter]
    simp only [List.append_assoc]

def Style.inDialect (style : Style) (dialect : Dialect) : Style := { style with dialect }

def StyleSettings.inDialect (settings : StyleSettings) (dialect : Dialect) : StyleSettings :=
  { settings with dialect := .text dialect.name }

theorem StyleSettings.style_inDialect {settings : StyleSettings} {style : Style}
    (given : settings.style = .ok style) (dialect : Dialect) :
    (settings.inDialect dialect).style = .ok (style.inDialect dialect) := by
  have tagged : Dialect.ofValue (.text dialect.name) = dialect := by
    cases dialect <;> decide
  unfold StyleSettings.style at given ⊢
  obtain ⟨modelPath, path, given⟩ := bind_eq_ok.mp given
  dsimp only [inDialect] at given ⊢
  rw [path, ok_bind]
  split at given
  · next composition =>
      cases return_eq_ok.mp given
      rw [if_pos composition, tagged]
      rfl
  · next options =>
      obtain ⟨componentName, named, given⟩ := bind_eq_ok.mp given
      cases return_eq_ok.mp given
      rw [if_neg options, named, tagged]
      rfl

/-! ## The import statements -/

namespace ImportStatement

theorem feed_not_mem_text_of_names {statement : ImportStatement}
    (single : ∀ name ∈ statement.names, '\n' ∉ name.toList) : '\n' ∉ statement.text.toList := by
  have names : '\n' ∉ (", ".intercalate statement.names).toList := by
    rw [String.toList_intercalate]
    intro member
    rcases mem_intercalate member with inSeparator | ⟨word, inWords, inWord⟩
    · exact absurd inSeparator (by decide)
    · obtain ⟨name, inNames, rfl⟩ := List.mem_map.mp inWords
      exact single name inNames inWord
  have source := feed_not_mem_scriptString statement.source
  have opening : '\n' ∉ (if statement.onlyTypes then "type " else "").toList := by
    split <;> decide
  unfold text
  simp only [String.toList_append, List.mem_append, not_or]
  exact ⟨⟨⟨⟨⟨by decide, opening⟩, by decide⟩, names⟩, by decide⟩, source⟩

end ImportStatement

namespace Imports

/-- The statement that imports the elements of the framework. -/
def frameworkStatement (inventory : Inventory) : ImportStatement :=
  ⟨false, (frameworkNames inventory { dialect := .standalone }).names, frameworkModule⟩

variable {inventory : Inventory} {style : Style}

/-- Names of an inventory each of which stays on one line. -/
def AreSingle (inventory : Inventory) : Prop := ∀ name ∈ inventory.references, '\n' ∉ name.toList

theorem feed_not_mem_of_imported (single : AreSingle inventory) {group : ImportGroup}
    (member : group ∈ allGroups inventory style) :
    ∀ name ∈ group.names.names, '\n' ∉ name.toList := by
  have fixed : ∀ name ∈ ["ref", "onMounted", "defineComponent", modelHelper, clipHelper, groupTag],
      '\n' ∉ name.toList := by decide
  simp only [List.forall_mem_cons] at fixed
  obtain ⟨reference, mounting, definition, loading, playing, group, _⟩ := fixed
  intro name named
  simp only [allGroups, List.mem_cons, List.not_mem_nil, or_false] at member
  rcases member with rfl | rfl | rfl | rfl
  · have known := NameSet.mem_ofList.mp named
    simp only [List.mem_append, List.mem_ite_nil_right, List.mem_singleton] at known
    rcases known with (⟨_, rfl⟩ | ⟨_, rfl⟩) | ⟨_, rfl⟩
    · exact reference
    · exact mounting
    · exact definition
  · cases dialect : style.dialect with
    | standalone =>
        simp only [frameworkNames, dialect] at named
        rcases NameSet.mem_insert.mp named with rfl | kept
        · exact group
        · exact single name (NameSet.mem_filter.mp kept).1
    | serverRendered =>
        simp only [frameworkNames, dialect] at named
        cases named
  · exact single name (NameSet.mem_filter.mp named).1
  · have known := NameSet.mem_ofList.mp named
    simp only [List.mem_cons, List.mem_ite_nil_right, List.not_mem_nil, or_false] at known
    rcases known with rfl | ⟨_, rfl⟩
    · exact loading
    · exact playing

theorem feed_not_mem_statement (single : AreSingle inventory) :
    ∀ statement ∈ statements inventory style, '\n' ∉ statement.text.toList := by
  intro statement member
  refine ImportStatement.feed_not_mem_text_of_names ?_
  rcases List.mem_append.mp member with typing | inGroups
  · split at typing
    · rw [List.mem_singleton.mp typing]
      decide
    · cases typing
  · obtain ⟨group, inFiltered, rfl⟩ := List.mem_map.mp inGroups
    rw [groups_eq_filter] at inFiltered
    exact feed_not_mem_of_imported single (List.mem_filter.mp inFiltered).1

theorem lines_block (single : AreSingle inventory) :
    lines (block inventory style) =
      (statements inventory style).map ImportStatement.text := by
  have texts : block inventory style =
      "\n".intercalate ((statements inventory style).map ImportStatement.text) := by
    rw [block, ← laidOut_zero_lines, List.map_map]
    rfl
  rw [texts, lines_intercalate (by simpa using statements_ne_nil inventory style),
    List.flatMap_map, List.map_eq_flatMap]
  exact List.flatMap_congr fun statement member =>
    lines_eq_singleton (feed_not_mem_statement single statement member)

/-! ## Statements by dialect -/

/-- A statement for each group that has names. -/
def statementsOf (groups : List ImportGroup) : List ImportStatement :=
  (groups.filter fun group => !group.names.isEmpty).map fun group =>
    ⟨false, group.names.names, group.source⟩

theorem statementsOf_append (first second : List ImportGroup) :
    statementsOf (first ++ second) = statementsOf first ++ statementsOf second := by
  rw [statementsOf, List.filter_append, List.map_append]
  rfl

def statementsBefore (inventory : Inventory) (style : Style) : List ImportStatement :=
  (if style.typed && !style.composition then [⟨true, ["PropType"], scriptModule⟩] else []) ++
    statementsOf [⟨scriptModule, scriptNames inventory style⟩]

def statementsAfter (inventory : Inventory) : List ImportStatement :=
  statementsOf [⟨engineModule, engineNames inventory⟩, ⟨helperModule, helperNames inventory⟩]

theorem statements_eq (inventory : Inventory) (style : Style) :
    statements inventory style = statementsBefore inventory style ++
      (statementsOf [⟨frameworkModule, frameworkNames inventory style⟩] ++
        statementsAfter inventory) := by
  rw [statementsBefore, List.append_assoc, statementsAfter, ← statementsOf_append,
    ← statementsOf_append]
  rfl

theorem statements_standalone (inventory : Inventory) (style : Style) :
    statements inventory (style.inDialect .standalone) =
      statementsBefore inventory style ++
        frameworkStatement inventory :: statementsAfter inventory := by
  have named : (frameworkNames inventory (style.inDialect .standalone)).isEmpty = false := by
    have inNames : groupTag ∈ (frameworkNames inventory (style.inDialect .standalone)).names :=
      NameSet.mem_insert.mpr (.inl rfl)
    refine Bool.eq_false_iff.mpr fun empty => ?_
    rw [List.isEmpty_iff.mp empty] at inNames
    cases inNames
  have kept : statementsOf [⟨frameworkModule, frameworkNames inventory
      (style.inDialect .standalone)⟩] = [frameworkStatement inventory] := by
    rw [statementsOf, List.filter_cons_of_pos (by rw [named]; rfl)]
    rfl
  rw [statements_eq, kept]
  rfl

theorem statements_serverRendered (inventory : Inventory) (style : Style) :
    statements inventory (style.inDialect .serverRendered) =
      statementsBefore inventory style ++ statementsAfter inventory := statements_eq _ _

theorem source_of_mem_statementsOf {groups : List ImportGroup} {statement : ImportStatement}
    (member : statement ∈ statementsOf groups) :
    statement.source ∈ groups.map ImportGroup.source := by
  obtain ⟨group, kept, rfl⟩ := List.mem_map.mp member
  exact List.mem_map_of_mem (List.mem_filter.mp kept).1

theorem source_ne_framework (style : Style) :
    ∀ statement ∈ statements inventory (style.inDialect .serverRendered),
      statement.source ≠ frameworkModule := by
  intro statement member
  rw [statements_serverRendered] at member
  have known : statement.source ∈ [scriptModule, engineModule, helperModule] := by
    rcases List.mem_append.mp member with before | after
    · rcases List.mem_append.mp before with typing | script
      · split at typing
        · rw [List.mem_singleton.mp typing]
          exact List.mem_cons_self ..
        · cases typing
      · rw [List.mem_singleton.mp (source_of_mem_statementsOf script)]
        exact List.mem_cons_self ..
    · exact List.mem_cons_of_mem _ (source_of_mem_statementsOf after)
  intro framework
  rw [framework] at known
  exact absurd known (by decide)

/-- The block of the imports loses the statement of the framework. -/
theorem block_dropsLine (single : AreSingle inventory) (style : Style) :
    DropsLine (frameworkStatement inventory).text
      (block inventory (style.inDialect .standalone))
      (block inventory (style.inDialect .serverRendered)) := by
  refine ⟨(statementsBefore inventory style).map ImportStatement.text,
    (statementsAfter inventory).map ImportStatement.text, ?_, ?_⟩
  · rw [lines_block single, statements_standalone, List.map_append, List.map_cons]
  · rw [lines_block single, statements_serverRendered, List.map_append]

end Imports

/-! ## The other blocks -/

theorem Setup.block_inDialect (inventory : Inventory) (style : Style) (dialect : Dialect) :
    Setup.block inventory (style.inDialect dialect) = Setup.block inventory style := by
  have exposed : exposedNames inventory (style.inDialect dialect) =
      exposedNames inventory style := by
    have constants : ∀ style : Style,
        Imports.namesOf Imports.engineModule (Imports.groups inventory style) =
          (Imports.engineNames inventory).names := Imports.importedFrom_engine inventory
    rw [exposedNames, exposedNames, constants, constants]
  have steps : steps inventory (style.inDialect dialect) = steps inventory style := by
    rw [Setup.steps, Setup.steps, optionsSteps, optionsSteps, exposed]
    rfl
  rw [block, block, steps]

/-! ## The file -/

namespace ComponentFile

variable {inventory : Inventory}

/-- What stands before and after the imports. -/
def partsBefore (inventory : Inventory) (style : Style) : List String :=
  ["<template>", Template.block inventory style, "</template>", "", scriptOpening style]

def partsAfter (inventory : Inventory) (style : Style) : List String :=
  (if style.composition then compositionParts inventory style
    else optionsParts inventory style) ++
    ["</script>", "", "<style scoped>", "/* Add any component-specific styles here */",
      "</style>"]

theorem text_eq (inventory : Inventory) (style : Style) :
    text inventory style = "\n".intercalate (partsBefore inventory style ++
      Imports.block inventory style :: partsAfter inventory style) ++ "\n" := by
  have same : parts inventory style = partsBefore inventory style ++
      Imports.block inventory style :: partsAfter inventory style := by
    simp [parts, scriptParts, partsBefore, partsAfter]
  rw [text, same]

theorem partsAfter_inDialect (inventory : Inventory) (style : Style) (dialect : Dialect) :
    partsAfter inventory (style.inDialect dialect) = partsAfter inventory style := by
  have setup := Setup.block_inDialect inventory style dialect
  have members : members inventory (style.inDialect dialect) = members inventory style := by
    rw [ComponentFile.members, ComponentFile.members, setup]
    rfl
  rw [partsAfter, partsAfter, compositionParts, compositionParts, optionsParts, optionsParts,
    setup, members]
  rfl

/-- The file of the server-rendered dialect is that of the standalone dialect without one
line, the statement that imports the elements of the framework. -/
theorem serverRendered_drops_line (single : Imports.AreSingle inventory)
    {settings : StyleSettings} {style : Style} (given : settings.style = .ok style) :
    ∃ standalone serverRendered,
      (settings.inDialect .standalone).style = .ok standalone ∧
      (settings.inDialect .serverRendered).style = .ok serverRendered ∧
      DropsLine (Imports.frameworkStatement inventory).text (text inventory standalone)
        (text inventory serverRendered) ∧
      (∀ statement ∈ Imports.statements inventory serverRendered,
        statement.source ≠ Imports.frameworkModule) ∧
      PathProperty.block serverRendered = PathProperty.block standalone ∧
      Setup.block inventory serverRendered = Setup.block inventory standalone ∧
      Template.block inventory serverRendered = Template.block inventory standalone := by
  refine ⟨style.inDialect .standalone, style.inDialect .serverRendered,
    StyleSettings.style_inDialect given _, StyleSettings.style_inDialect given _, ?_,
    Imports.source_ne_framework style, rfl, ?_, rfl⟩
  · rw [text_eq, text_eq, partsAfter_inDialect, partsAfter_inDialect]
    exact (Imports.block_dropsLine single style).intercalate (partsBefore inventory style) _
  · rw [Setup.block_inDialect, Setup.block_inDialect]

/-- A mesh that is seen from behind, and a clip. -/
def facedInventory : Inventory where
  meshes := [{
    name := "Wall"
    geometry := { tag := "TresPlaneGeometry" }
    material := {
      kind := "basic", tag := "TresMeshBasicMaterial"
      properties := [("side", .constant "BackSide")] } }]
  clipNames := [.text "Open"]
  references := .ofList ["TresMesh", "TresPlaneGeometry", "TresMeshBasicMaterial", "BackSide",
    "useAnimations"]

theorem facedInventory_drops_line : Imports.AreSingle facedInventory ∧
    (Imports.frameworkStatement facedInventory).text =
      "import \x7b TresGroup, TresMesh, TresMeshBasicMaterial, TresPlaneGeometry \x7d from " ++
        "'@tresjs/core'" ∧
    ∃ standalone serverRendered,
      (StyleSettings.inDialect { composition := .bool false } .standalone).style =
        .ok standalone ∧
      (StyleSettings.inDialect { composition := .bool false } .serverRendered).style =
        .ok serverRendered ∧
      DropsLine (Imports.frameworkStatement facedInventory).text
        (text facedInventory standalone) (text facedInventory serverRendered) ∧
      (∀ statement ∈ Imports.statements facedInventory serverRendered,
        statement.source ≠ Imports.frameworkModule) ∧
      PathProperty.block serverRendered = PathProperty.block standalone ∧
      Setup.block facedInventory serverRendered = Setup.block facedInventory standalone ∧
      Template.block facedInventory serverRendered =
        Template.block facedInventory standalone := by
  have single : Imports.AreSingle facedInventory := by
    have each : ∀ name ∈ facedInventory.references.names, '\n' ∉ name.toList := by decide +kernel
    exact each
  have given : StyleSettings.style { composition := .bool false } =
      .ok { composition := false } := rfl
  exact ⟨single, by decide +kernel, serverRendered_drops_line single given⟩

end ComponentFile

end SceneComponent
