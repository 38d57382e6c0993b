import Mathlib
import SceneComponent.HostPage
import SceneComponent.Proofs.Component.Markup
import SceneComponent.Proofs.Component.SourceLines

/-!
# Names of host pages

The script of a page binds what it imports, the component that the page shows and the
options of the canvas; its template opens tags that are to be among them.  All names are
read back from the texts.  They are as they should be unless the component, which is
named after its file, takes over a name that is meant for something else.
-/

set_option autoImplicit false

namespace SceneComponent

open Checked Text

/-! ## Names read off a script -/

/-- The names that a line binds: those that it imports, between braces or alone, or that of
a constant. -/
def ScriptLine.names (line : List Char) : List String :=
  match afterPattern? "import ".toList line with
  | some rest =>
      if rest.head? = some '\x7b' then ImportLine.names line else (leadingWord? rest).toList
  | none => ((afterPattern? "const ".toList line).bind leadingWord?).toList

def namesBoundBy (text : String) : List String := (bareLines text).flatMap ScriptLine.names

def ImportLine.namesFrom (source : String) (line : List Char) : List String :=
  if isImport line ∧ ImportLine.source line = source then ImportLine.names line else []

/-- The names that a text imports from one module. -/
def namesImportedFrom (source text : String) : List String :=
  (bareLines text).flatMap (ImportLine.namesFrom source)

namespace ImportStatement

variable {statement : ImportStatement}

theorem boundNames_text (plain : statement.IsPlain) (values : statement.onlyTypes = false) :
    ScriptLine.names statement.text.toList = statement.names := by
  have opening : statement.opening = "import ".toList := by
    rw [ImportStatement.opening, values]
    rfl
  have found : ∃ rest, afterPattern? "import ".toList statement.text.toList = some rest ∧
      rest.head? = some '\x7b' := by
    rw [toList_text plain, opening]
    exact ⟨_, afterPattern?_eq_some_iff.mpr rfl, rfl⟩
  obtain ⟨rest, after, brace⟩ := found
  rw [ScriptLine.names, after]
  simp only [brace, if_true]
  exact names_text plain

theorem namesFrom_text (plain : statement.IsPlain) (source : String) :
    ImportLine.namesFrom source statement.text.toList =
      if statement.source = source then statement.names else [] := by
  rw [ImportLine.namesFrom, isImport_text plain, source_text plain, names_text plain]
  simp

end ImportStatement

namespace HostPage

/-- The components that pages take from the helper library. -/
def helperNames : List String := ["ContactShadows", "Environment", "OrbitControls", "Stage"]

/-- Whether every name of a page is bound once, and the helpers that the script imports are
those whose tags the template opens. -/
structure BindsOnce (page : HostPage) : Prop where
  distinct : (namesBoundBy (laidOut 0 page.script)).Nodup
  known : ∀ name ∈ namesImportedFrom Imports.helperModule (laidOut 0 page.script),
    name ∈ helperNames
  helpers : ∀ helper ∈ helperNames,
    helper ∈ namesImportedFrom Imports.helperModule (laidOut 0 page.script) ↔
      helper ∈ openedTags (laidOut 0 page.template.steps)

/-- A page whose component is an identifier and whose shadow flag is written on one line. -/
structure IsRegular (page : HostPage) : Prop where
  component : IsIdentifier page.component
  shadows : '\n' ∉ page.shadowLiteral.toList

variable {page : HostPage}

/-! ## The script -/

def frameworkStatement (page : HostPage) : ImportStatement :=
  ⟨false, page.frameworkNames, Imports.frameworkModule⟩

def helperStatement (page : HostPage) : ImportStatement :=
  ⟨false, page.helpers.names, Imports.helperModule⟩

def componentLine (page : HostPage) : String :=
  "import " ++ page.component ++ " from " ++ scriptString (importPath page.component page.dialect)

theorem mem_helpers_iff {name : String} :
    name ∈ page.helpers.names ↔ name = "OrbitControls" ∨
      (name = "Environment" ∧ page.environment.isSome = true) ∨
      (name = "Stage" ∧ page.stage.isSome = true) ∨
      (name = "ContactShadows" ∧ page.contactShadow = true) := by
  change name ∈ page.helpers ↔ _
  rw [helpers, NameSet.mem_ofList]
  cases page.environment.isSome <;> cases page.stage.isSome <;> cases page.contactShadow <;> simp

theorem mem_helperNames {name : String} (helper : name ∈ page.helpers.names) :
    name ∈ helperNames := by
  rcases mem_helpers_iff.mp helper with rfl | ⟨rfl, _⟩ | ⟨rfl, _⟩ | ⟨rfl, _⟩ <;>
    simp [helperNames]

theorem isPlain_helperStatement (page : HostPage) : (helperStatement page).IsPlain where
  some := List.ne_nil_of_mem (mem_helpers_iff.mpr (.inl rfl))
  names := fun name helper => by
    have words : ∀ name ∈ helperNames, name.toList.all Identifier.isRest = true := by
      decide
    exact List.all_eq_true.mp (words name (mem_helperNames helper))
  source := Imports.plain_source Imports.helperModule (by simp)

theorem isPlain_frameworkStatement (standalone : page.frameworkNames = ["TresCanvas"]) :
    (frameworkStatement page).IsPlain where
  some := by simp [frameworkStatement, standalone]
  names := fun name member => by
    have word : "TresCanvas".toList.all Identifier.isRest = true := rfl
    rw [frameworkStatement, standalone, List.mem_singleton] at member
    rw [member]
    exact List.all_eq_true.mp word
  source := Imports.plain_source Imports.frameworkModule (by simp)

def openingLine (page : HostPage) : String :=
  "<script setup" ++ (if page.typed then " lang=\"ts\"" else "") ++ ">"

def frameworkLines (page : HostPage) : List String :=
  if page.frameworkNames.isEmpty then [] else [(frameworkStatement page).text]

def shadowLine (page : HostPage) : String := "shadows: " ++ page.shadowLiteral ++ ","

def openingLines (page : HostPage) : List String :=
  [openingLine page] ++ frameworkLines page ++
    [(helperStatement page).text, componentLine page, "", "const " ++ canvasOptions ++ " = \x7b"]

def optionLines (page : HostPage) : List String :=
  ["clearColor: " ++ scriptString clearColor ++ ",", shadowLine page, "alpha: false,",
    "powerPreference: 'high-performance',"]

/-- The lines of a script, without their indentation. -/
def scriptLines (page : HostPage) : List String :=
  openingLines page ++ optionLines page ++ ["\x7d", "</script>"]

/-- The lines that are the same on all pages. -/
def fixedLines : List String :=
  ["", "const " ++ canvasOptions ++ " = \x7b", "clearColor: " ++ scriptString clearColor ++ ",",
    "alpha: false,", "powerPreference: 'high-performance',", "\x7d", "</script>"]

theorem script_eq (page : HostPage) :
    page.script = (openingLines page).map LayoutStep.line ++
      deeper ((optionLines page).map LayoutStep.line) ++
        ["\x7d", "</script>"].map LayoutStep.line := by
  have framework : (if page.frameworkNames.isEmpty then [] else
      [LayoutStep.line (frameworkStatement page).text]) =
        (frameworkLines page).map LayoutStep.line := by
    unfold frameworkLines
    split <;> rfl
  simp only [openingLines, List.map_append, ← framework]
  rfl

theorem frameworkNames_cases (page : HostPage) :
    page.frameworkNames = ["TresCanvas"] ∨ page.frameworkNames = [] := by
  unfold frameworkNames
  cases page.dialect with
  | standalone => exact .inl rfl
  | serverRendered => exact .inr rfl

theorem line_cases {text : String} (member : text ∈ scriptLines page) :
    text = openingLine page ∨
      (page.frameworkNames = ["TresCanvas"] ∧ text = (frameworkStatement page).text) ∨
      text = (helperStatement page).text ∨ text = componentLine page ∨
      text = shadowLine page ∨ text ∈ fixedLines := by
  have framework : text ∈ frameworkLines page →
      page.frameworkNames = ["TresCanvas"] ∧ text = (frameworkStatement page).text := by
    intro inFramework
    unfold frameworkLines at inFramework
    rcases frameworkNames_cases page with standalone | registered
    · rw [standalone] at inFramework
      exact ⟨standalone, List.mem_singleton.mp inFramework⟩
    · rw [registered] at inFramework
      cases inFramework
  simp only [scriptLines, openingLines, optionLines, List.mem_append, List.mem_cons,
    List.not_mem_nil, or_false] at member
  simp only [fixedLines, List.mem_cons, List.not_mem_nil, or_false]
  grind

theorem unindented_of_mem_scriptLines {text : String} (member : text ∈ scriptLines page) :
    unindented text.toList = text.toList := by
  refine unindented_visible ?_
  have fixed : ∀ text ∈ fixedLines, text.toList.head? ≠ some ' ' := by decide
  rcases line_cases member with rfl | ⟨_, rfl⟩ | rfl | rfl | rfl | inFixed
  · simp [openingLine]
  · simp [ImportStatement.text]
  · simp [ImportStatement.text]
  · simp [componentLine]
  · simp [shadowLine]
  · exact fixed text inFixed

theorem feed_not_mem_scriptLines (regular : page.IsRegular) :
    ∀ text ∈ scriptLines page, '\n' ∉ text.toList := by
  intro text member
  have fixed : ∀ text ∈ fixedLines, '\n' ∉ text.toList := by decide
  rcases line_cases member with rfl | ⟨standalone, rfl⟩ | rfl | rfl | rfl | inFixed
  · unfold openingLine
    cases page.typed <;> decide
  · exact ImportStatement.feed_not_mem_text (isPlain_frameworkStatement standalone)
  · exact ImportStatement.feed_not_mem_text (isPlain_helperStatement page)
  · have component := feed_not_mem (Identifier.isRest_of_spells regular.component) (by decide)
    have path := feed_not_mem_scriptString (importPath page.component page.dialect)
    simpa [componentLine] using ⟨component, path⟩
  · simpa [shadowLine] using regular.shadows
  · exact fixed text inFixed

theorem isSingle_script (regular : page.IsRegular) : ∀ step ∈ page.script, step.IsSingle := by
  have lines : ∀ texts : List String, (∀ text ∈ texts, '\n' ∉ text.toList) →
      ∀ step ∈ texts.map LayoutStep.line, step.IsSingle := by
    intro texts each step member
    obtain ⟨text, inTexts, rfl⟩ := List.mem_map.mp member
    exact each text inTexts
  have single := feed_not_mem_scriptLines regular
  simp only [scriptLines, List.forall_mem_append] at single
  obtain ⟨⟨opening, options⟩, ending⟩ := single
  rw [script_eq]
  exact List.forall_mem_append.mpr ⟨List.forall_mem_append.mpr ⟨lines _ opening,
    forall_mem_deeper trivial trivial (lines _ options)⟩, lines _ ending⟩

theorem bareLines_script (regular : page.IsRegular) :
    bareLines (laidOut 0 page.script) = (scriptLines page).map String.toList := by
  have written : page.script.flatMap LayoutStep.bare = (scriptLines page).map String.toList := by
    rw [script_eq, List.flatMap_append, List.flatMap_append, flatMap_bare_deeper,
      ← List.flatMap_append, ← List.flatMap_append, ← List.map_append, ← List.map_append,
      List.flatMap_map, List.map_eq_flatMap]
    exact List.flatMap_congr fun text member =>
      congrArg (fun line => [line]) (unindented_of_mem_scriptLines member)
  rw [bareLines_laidOut (isSingle_script regular) (by simp [written, scriptLines]), written]

/-- What is read off the lines of a script that vary, and off the fixed ones. -/
theorem flatMap_script (regular : page.IsRegular) {read : List Char → List String}
    (opening : read (openingLine page).toList = []) (shadow : read (shadowLine page).toList = []) :
    (bareLines (laidOut 0 page.script)).flatMap read =
      (if page.frameworkNames = [] then [] else read (frameworkStatement page).text.toList) ++
        (read (helperStatement page).text.toList ++ (read (componentLine page).toList ++
          fixedLines.flatMap fun text => read text.toList)) := by
  have framework : (frameworkLines page).flatMap (fun text => read text.toList) =
      if page.frameworkNames = [] then [] else read (frameworkStatement page).text.toList := by
    unfold frameworkLines
    rcases frameworkNames_cases page with standalone | registered
    · simp [standalone]
    · simp [registered]
  rw [bareLines_script regular, List.flatMap_map, ← framework]
  simp only [scriptLines, openingLines, optionLines, fixedLines, List.flatMap_append,
    List.flatMap_cons, List.flatMap_nil, opening, shadow, List.nil_append, List.append_nil,
    List.append_assoc]

/-! ## What the script binds and imports -/

theorem names_openingLine (page : HostPage) : ScriptLine.names (openingLine page).toList = [] := by
  unfold openingLine
  cases page.typed <;> decide

theorem toList_shadowLine (page : HostPage) :
    (shadowLine page).toList = 's' :: ("hadows: " ++ page.shadowLiteral ++ ",").toList := by
  simp [shadowLine]

theorem names_shadowLine (page : HostPage) : ScriptLine.names (shadowLine page).toList = [] := by
  rw [ScriptLine.names, toList_shadowLine]
  rfl

theorem toList_componentLine (page : HostPage) :
    (componentLine page).toList = "import ".toList ++ (page.component.toList ++
      (" from " ++ scriptString (importPath page.component page.dialect)).toList) := by
  simp [componentLine]

theorem names_componentLine (spelled : IsIdentifier page.component) :
    ScriptLine.names (componentLine page).toList = [page.component] := by
  have stop : ∀ c, (" from " ++ scriptString
      (importPath page.component page.dialect)).toList.head? = some c →
        Identifier.isRest c = false := by
    intro c head
    have blank : c = ' ' := by simpa using head.symm
    rw [blank]
    decide
  have word := leadingWord?_append spelled stop
  have noBrace : (page.component.toList ++ (" from " ++
      scriptString (importPath page.component page.dialect)).toList).head? ≠ some '\x7b' := by
    intro brace
    obtain ⟨rest, opened⟩ := List.head?_eq_some_iff.mp brace
    rw [opened, leadingWord?_none (by decide)] at word
    cases word
  rw [ScriptLine.names, toList_componentLine, afterPattern?_eq_some_iff.mpr rfl]
  simp only [noBrace, if_false, word, Option.toList_some]

/-- The names that a script binds, read off its text, are those that its page gives it. -/
theorem namesBoundBy_script (regular : page.IsRegular) :
    namesBoundBy (laidOut 0 page.script) = page.bindings := by
  have framework : (if page.frameworkNames = [] then [] else
      ScriptLine.names (frameworkStatement page).text.toList) = page.frameworkNames := by
    rcases frameworkNames_cases page with standalone | registered
    · rw [standalone, if_neg (by simp),
        ImportStatement.boundNames_text (isPlain_frameworkStatement standalone) rfl]
      exact standalone
    · rw [registered, if_pos rfl]
  have fixed : (fixedLines.flatMap fun text => ScriptLine.names text.toList) = [canvasOptions] := by
    decide
  rw [namesBoundBy, flatMap_script regular (names_openingLine page) (names_shadowLine page),
    framework, fixed, ImportStatement.boundNames_text (isPlain_helperStatement page) rfl,
    names_componentLine regular.component, bindings, List.append_assoc]
  rfl

theorem scriptString_of_head? {text : String} {c : Char} (head : text.toList.head? = some c)
    (plain : scriptEscape c = [c]) :
    ∃ rest, (scriptString text).toList = '\'' :: c :: rest := by
  obtain ⟨others, chars⟩ := List.head?_eq_some_iff.mp head
  rw [scriptString, String.toList_ofList, scriptCharacters, chars, List.flatMap_cons, plain]
  exact ⟨_, rfl⟩

/-- The path that a component is imported from is not that of the helpers. -/
theorem source_componentLine_ne (spelled : IsIdentifier page.component) :
    ImportLine.source (componentLine page).toList ≠ Imports.helperModule := by
  have unopened : '\'' ∉ ("import " ++ page.component ++ " from ").toList := by
    have word : '\'' ∉ page.component.toList := fun member =>
      absurd (Identifier.isRest_of_spells spelled _ member) (by decide)
    simpa using word
  -- paths begin with a dot or a tilde, and the module of the helpers with an at sign
  have path : ∃ first, (importPath page.component page.dialect).toList.head? = some first ∧
      scriptEscape first = [first] ∧ first ≠ '\'' ∧ first ≠ '@' := by
    cases page.dialect with
    | standalone => exact ⟨'.', by simp [importPath], by decide⟩
    | serverRendered => exact ⟨'~', by simp [importPath], by decide⟩
  obtain ⟨first, head, kept, plain, different⟩ := path
  obtain ⟨rest, opened⟩ := scriptString_of_head? head kept
  have line : (componentLine page).toList =
      ("import " ++ page.component ++ " from ").toList ++ '\'' :: first :: rest := by
    rw [← opened, componentLine, String.toList_append]
  intro same
  have chars := congrArg String.toList same
  rw [ImportLine.source, String.toList_ofList, line] at chars
  have head := head?_between unopened plain rest
  rw [chars] at head
  exact different (Option.some.inj head).symm

theorem namesImportedFrom_script (regular : page.IsRegular) :
    namesImportedFrom Imports.helperModule (laidOut 0 page.script) = page.helpers.names := by
  have opening : ImportLine.namesFrom Imports.helperModule (openingLine page).toList = [] := by
    unfold openingLine
    cases page.typed <;> decide
  have shadow : ImportLine.namesFrom Imports.helperModule (shadowLine page).toList = [] := by
    rw [toList_shadowLine]
    rfl
  have framework : (if page.frameworkNames = [] then [] else
      ImportLine.namesFrom Imports.helperModule (frameworkStatement page).text.toList) = [] := by
    rcases frameworkNames_cases page with standalone | registered
    · rw [ImportStatement.namesFrom_text (isPlain_frameworkStatement standalone)]
      simp [frameworkStatement, Imports.frameworkModule, Imports.helperModule]
    · rw [registered, if_pos rfl]
  have fixed : (fixedLines.flatMap fun text =>
      ImportLine.namesFrom Imports.helperModule text.toList) = [] := by decide
  have component : ImportLine.namesFrom Imports.helperModule (componentLine page).toList = [] := by
    rw [ImportLine.namesFrom, if_neg (fun both => source_componentLine_ne regular.component both.2)]
  have helper : ImportLine.namesFrom Imports.helperModule (helperStatement page).text.toList =
      page.helpers.names := by
    rw [ImportStatement.namesFrom_text (isPlain_helperStatement page)]
    exact if_pos rfl
  rw [namesImportedFrom, flatMap_script regular opening shadow, framework, fixed, component,
    helper, List.nil_append, List.append_nil, List.append_nil]

/-! ## The template -/

/-- The tag around the component, which is a helper where there is a stage. -/
def rigTag (page : HostPage) : String :=
  if page.stage.isSome then "Stage" else Imports.groupTag

def frameTags : List String :=
  ["template", "div", "TresCanvas", "TresPerspectiveCamera", "Suspense", "TresAmbientLight",
    "TresDirectionalLight"]

theorem mem_tags_template {tag : String} :
    tag ∈ page.template.tags ↔ tag ∈ frameTags ∨ tag = rigTag page ∨ tag = page.component ∨
      (tag = "Environment" ∧ page.environment.isSome = true) ∨
      (tag = "ContactShadows" ∧ page.contactShadow = true) ∨ tag = "OrbitControls" := by
  have subject : page.subject.tags = [rigTag page, page.component] := by
    unfold subject rigTag
    cases page.stage <;> rfl
  have environment : Element.tagsOf page.environmentElements =
      if page.environment.isSome then ["Environment"] else [] := by
    unfold environmentElements
    cases page.environment <;> rfl
  have shadows : Element.tagsOf page.shadowElements =
      if page.contactShadow then ["ContactShadows"] else [] := by
    unfold shadowElements
    cases page.contactShadow <;> rfl
  have controls : page.controls.tags = ["OrbitControls"] := rfl
  simp only [template, canvas, Element.tags, Element.tagsOf, Element.tagsOf_append, subject,
    environment, shadows, controls, frameTags]
  cases page.environment.isSome <;> cases page.contactShadow <;> simp <;> grind

def attributeNames : List String :=
  ["class", "v-bind", "window-size", "position", "fov", "preset", "intensity", "shadows", "opacity",
    "blur", "auto-rotate"]

def frameAttributes : List Attribute :=
  [⟨"class", .fixed "scene-container"⟩, ⟨"v-bind", .fixed "gl"⟩, ⟨"window-size", .flag⟩,
    ⟨"position", .code "[0,0,5]"⟩, ⟨"fov", .code "50"⟩, ⟨"intensity", .code "0.5"⟩,
    ⟨"position", .code "[10,10,5]"⟩, ⟨"intensity", .code "1"⟩]

/-- An attribute of a known name that binds no constant. -/
def IsPageAttribute (item : Attribute) : Prop :=
  item.name ∈ attributeNames ∧ ∀ name, item.content ≠ .constant name

theorem isPageAttribute_of_mem (page : HostPage) :
    ∀ item ∈ page.template.attributesIn, IsPageAttribute item := by
  have subject : ∀ item ∈ page.subject.attributesIn, IsPageAttribute item := by
    unfold subject
    cases page.stage with
    | none => simp [Element.attributesIn, Element.attributesOf]
    | some stage =>
        cases stage.shadows <;>
          simp [Element.attributesIn, Element.attributesOf, IsPageAttribute, attributeNames]
  have environment : ∀ item ∈ Element.attributesOf page.environmentElements,
      IsPageAttribute item := by
    unfold environmentElements
    cases page.environment <;>
      simp [Element.attributesIn, Element.attributesOf, IsPageAttribute, attributeNames]
  have shadows : ∀ item ∈ Element.attributesOf page.shadowElements, IsPageAttribute item := by
    unfold shadowElements
    cases page.contactShadow <;>
      simp [Element.attributesIn, Element.attributesOf, IsPageAttribute, attributeNames]
  have controls : ∀ item ∈ page.controls.attributesIn, IsPageAttribute item := by
    unfold controls
    cases page.autoRotate <;> simp [Element.attributesIn, IsPageAttribute, attributeNames]
  rw [Element.attributesOf_eq] at environment shadows
  have frame : ∀ item ∈ frameAttributes, IsPageAttribute item := by
    simp [frameAttributes, IsPageAttribute, attributeNames]
  simp only [frameAttributes, List.forall_mem_cons] at frame
  simp only [template, canvas, Element.attributesIn, Element.attributesOf_eq, List.flatMap_cons,
    List.flatMap_append, List.flatMap_nil, List.append_nil, List.nil_append,
    List.forall_mem_append, List.forall_mem_cons, List.not_mem_nil, false_implies, implies_true,
    frame, and_true, true_and]
  exact ⟨⟨⟨subject, environment⟩, shadows⟩, controls⟩

theorem remarks_template (page : HostPage) : page.template.remarks = [] := by
  have subject : page.subject.remarks = [] := by
    unfold subject
    cases page.stage <;> rfl
  have environment : Element.remarksOf page.environmentElements = [] := by
    unfold environmentElements
    cases page.environment <;> rfl
  have shadows : Element.remarksOf page.shadowElements = [] := by
    unfold shadowElements
    cases page.contactShadow <;> rfl
  rw [Element.remarksOf_eq] at environment shadows
  simp only [template, canvas, controls, Element.remarks, Element.remarksOf_eq, List.flatMap_cons,
    List.flatMap_append, List.flatMap_nil, subject, environment, shadows, List.append_nil]

theorem openedTags_template (regular : page.IsRegular) :
    openedTags (laidOut 0 page.template.steps) = page.template.tags := by
  have tagged : ∀ tag ∈ page.template.tags, IsIdentifier tag := by
    intro tag member
    have frame : ∀ tag ∈ frameTags, IsIdentifier tag := by decide
    have helper : ∀ tag ∈ helperNames, IsIdentifier tag := by decide
    have rig : IsIdentifier (rigTag page) := by
      unfold rigTag
      cases page.stage.isSome <;> decide
    rcases mem_tags_template.mp member with inFrame | rfl | rfl | ⟨rfl, _⟩ | ⟨rfl, _⟩ | rfl
    · exact frame tag inFrame
    · exact rig
    · exact regular.component
    · exact helper _ (by decide)
    · exact helper _ (by decide)
    · exact helper _ (by decide)
  have plain : ∀ item ∈ page.template.attributesIn, IsUnmarked item.text := by
    intro item member
    have names : ∀ name ∈ attributeNames, IsUnmarked name := by decide
    obtain ⟨known, unbound⟩ := isPageAttribute_of_mem page item member
    exact Attribute.isUnmarked_text (names _ known) fun name bound => absurd bound (unbound name)
  exact Element.openedTags_laidOut 0 tagged plain (by simp [remarks_template])

/-- A helper whose tag is opened is one that the page asks for, or names the component. -/
theorem mem_openedTags_iff (regular : page.IsRegular) {helper : String}
    (known : helper ∈ helperNames) :
    helper ∈ openedTags (laidOut 0 page.template.steps) ↔
      helper ∈ page.helpers.names ∨ helper = page.component := by
  have frame : helper ∉ frameTags := by
    revert helper
    decide
  have rig : helper = rigTag page ↔ helper = "Stage" ∧ page.stage.isSome = true := by
    have group : helper ≠ Imports.groupTag := by
      revert helper
      decide
    unfold rigTag
    cases page.stage.isSome <;> simp [group]
  -- the tags of the frame are no helpers, and all others are those asked for or the component
  rw [openedTags_template regular, mem_tags_template, mem_helpers_iff, rig]
  grind

/-! ## Names bound once -/

/-- The names that the script of a page may bind beside its component. -/
def ownNames (dialect : Dialect) : List String :=
  (if dialect = .standalone then ["TresCanvas"] else []) ++ helperNames ++ [canvasOptions]

theorem mem_ownNames {name : String} :
    name ∈ ownNames page.dialect ↔
      name ∈ page.frameworkNames ∨ name ∈ helperNames ∨ name = canvasOptions := by
  unfold ownNames frameworkNames
  cases page.dialect <;> simp

/-- All names but that of the component are bound once in any case. -/
theorem nodup_others (page : HostPage) :
    (page.frameworkNames ++ page.helpers.names ++ [canvasOptions]).Nodup := by
  have framework : page.frameworkNames.Nodup := by
    rcases frameworkNames_cases page with standalone | registered
    · simp [standalone]
    · simp [registered]
  have helpers : page.helpers.names.Nodup := page.helpers.increasing.imp String.ne_of_lt
  have apart : ∀ name ∈ page.frameworkNames, name ∉ helperNames ∧ name ≠ canvasOptions := by
    rcases frameworkNames_cases page with standalone | registered
    · rw [standalone]
      decide
    · simp [registered]
  have canvas : canvasOptions ∉ helperNames := by decide
  rw [List.append_assoc, List.nodup_append, List.nodup_append]
  refine ⟨framework, ⟨helpers, List.nodup_singleton _, ?_⟩, ?_⟩
  · rintro name helper other inCanvas rfl
    rw [List.mem_singleton.mp inCanvas] at helper
    exact canvas (mem_helperNames helper)
  · rintro name inFramework other inRest rfl
    obtain ⟨notHelper, notCanvas⟩ := apart name inFramework
    rcases List.mem_append.mp inRest with helper | inCanvas
    · exact notHelper (mem_helperNames helper)
    · exact notCanvas (List.mem_singleton.mp inCanvas)

theorem nodup_bindings_iff (page : HostPage) :
    page.bindings.Nodup ↔ page.component ∉ page.frameworkNames ∧
      page.component ∉ page.helpers.names ∧ page.component ≠ canvasOptions := by
  rw [bindings, List.perm_middle.nodup_iff, List.nodup_cons, and_iff_left (nodup_others page),
    List.mem_append, List.mem_append, List.mem_singleton, not_or, not_or, and_assoc]

/-- The condition on the component under which a page binds its names once. -/
theorem bindsOnce_iff (regular : page.IsRegular) :
    page.BindsOnce ↔ page.component ∉ ownNames page.dialect := by
  have script := namesBoundBy_script regular
  have imported := namesImportedFrom_script regular
  constructor
  · rintro ⟨distinct, _, helpers⟩ own
    rw [script, nodup_bindings_iff] at distinct
    obtain ⟨notFramework, notHelper, notCanvas⟩ := distinct
    rcases mem_ownNames.mp own with framework | known | canvas
    · exact notFramework framework
    -- the component opens the tag of the helper, which is to be imported then
    · have opened := (mem_openedTags_iff regular known).mpr (.inr rfl)
      have among := (helpers _ known).mpr opened
      rw [imported] at among
      exact notHelper among
    · exact notCanvas canvas
  · intro other
    rw [mem_ownNames, not_or, not_or] at other
    obtain ⟨notFramework, notKnown, notCanvas⟩ := other
    refine ⟨?_, ?_, ?_⟩
    · rw [script, nodup_bindings_iff]
      exact ⟨notFramework, fun helper => notKnown (mem_helperNames helper), notCanvas⟩
    · rw [imported]
      exact fun name => mem_helperNames
    · intro helper known
      rw [imported, mem_openedTags_iff regular known]
      constructor
      · exact .inl
      · rintro (asked | rfl)
        · exact asked
        · exact absurd known notKnown

theorem isRegular_of_options {options : Options} (success : ofOptions options = .ok page)
    (single : '\n' ∉ options.shadows.literal.toList) :
    page.IsRegular ∧ page.dialect = options.dialect ∧ ∃ fileName,
      options.fileName = .text fileName ∧ page.component = Identifier.componentName fileName := by
  unfold ofOptions at success
  obtain ⟨component, named, success⟩ := bind_eq_ok.mp success
  obtain ⟨stage, _, success⟩ := bind_eq_ok.mp success
  obtain ⟨environment, _, success⟩ := bind_eq_ok.mp success
  cases return_eq_ok.mp success
  unfold Options.componentName at named
  obtain ⟨fileName, isText, named⟩ := bind_eq_ok.mp named
  cases return_eq_ok.mp named
  refine ⟨⟨Identifier.spells_componentName fileName, single⟩, rfl, fileName, ?_, rfl⟩
  exact Value.toText_eq_ok.mp isText

/-- The names that a page binds are read back from its script, and each is bound once, with
every helper imported that the template uses, exactly when the file does not give the component
a name that pages keep for themselves. -/
theorem binds_once_iff {options : Options} (success : ofOptions options = .ok page)
    (single : '\n' ∉ options.shadows.literal.toList) :
    (∃ fileName, options.fileName = .text fileName ∧
      page.component = Identifier.componentName fileName) ∧
    namesBoundBy (laidOut 0 page.script) = page.bindings ∧
    (page.BindsOnce ↔ page.component ∉ ownNames options.dialect) := by
  obtain ⟨regular, dialect, named⟩ := isRegular_of_options success single
  refine ⟨named, namesBoundBy_script regular, ?_⟩
  rw [← dialect]
  exact bindsOnce_iff regular

theorem robotPage_binds_once : ∃ page,
    ofOptions { fileName := .text "robot.glb" } = .ok page ∧ page.BindsOnce := by
  have made : (ofOptions { fileName := .text "robot.glb" }).toOption.map HostPage.component =
      some "Robot" := by decide +kernel
  obtain ⟨page, success, component⟩ := ok_of_map_toOption made
  have single : '\n' ∉ (Value.bool false).literal.toList := by decide
  refine ⟨page, success, (binds_once_iff success single).2.2.mpr ?_⟩
  rw [component]
  decide

/-- A component named after a file for stages is imported beside the helper of that name. -/
theorem stagePage_binds_twice : ∃ page,
    ofOptions { fileName := .text "stage.glb" } = .ok page ∧
      namesBoundBy (laidOut 0 page.script) =
        ["TresCanvas", "Environment", "OrbitControls", "Stage", "Stage", "gl"] ∧
      ¬ page.BindsOnce := by
  have made : (ofOptions { fileName := .text "stage.glb" }).toOption.map HostPage.bindings =
      some ["TresCanvas", "Environment", "OrbitControls", "Stage", "Stage", "gl"] := by
    decide +kernel
  obtain ⟨page, success, bound⟩ := ok_of_map_toOption made
  have regular := (isRegular_of_options success (by decide)).1
  have names := (namesBoundBy_script regular).trans bound
  refine ⟨page, success, names, fun once => ?_⟩
  have distinct := once.distinct
  rw [names] at distinct
  exact absurd distinct (by decide)

end HostPage

end SceneComponent
