import Mathlib
import SceneComponent.Component.Setup
import SceneComponent.Proofs.Component.Groups
import SceneComponent.Proofs.Inventory.Contents
import SceneComponent.Proofs.Text.Words

/-!
# The text of a setup

What the setup of a component uses and what it hands out, both read off its text.
The lines that vary are those that play clips and those of the names handed out;
all others are fixed, so that their words are computed.
-/

set_option autoImplicit false

namespace SceneComponent.Setup

open Text

variable {IsType : String → Prop} {inventory : Inventory} {style : Style}

def callables : List String := ["useGLTF", "useAnimations", "ref", "onMounted"]

/-- What stands before the names that play clips, in either style. -/
def receivers : List String := ["", "this."]

/-! ## Lines that play clips -/

theorem slots_eq_map {slots : List Clip.Slot}
    (names : inventory.clipNames = slots.map fun slot => .text slot.name)
    (indices : inventory.clipIndices = slots.map fun slot => .int (Int.ofNat slot.index)) :
    inventory.slots = slots.map fun slot =>
      (Value.int (Int.ofNat slot.index), Value.text slot.name) := by
  unfold Inventory.slots
  rw [names, indices]
  cases slots with
  | nil => rfl
  | cons first rest =>
      simp only [List.map_cons, List.isEmpty_cons, Bool.false_eq_true, ↓reduceIte,
        List.zip_cons_cons, List.zip_map']

theorem mem_slots (regular : inventory.IsRegular IsType) {slot : Value × Value}
    (member : slot ∈ inventory.slots) :
    ∃ (index : Nat) (name : String), Identifier.spells name.toList = true ∧
      slot = (.int index, .text name) := by
  obtain ⟨slots, spelled, names, indices⟩ := regular.clips
  rw [slots_eq_map names indices] at member
  obtain ⟨slot, inSlots, rfl⟩ := List.mem_map.mp member
  exact ⟨slot.index, slot.name, spelled slot inSlots, rfl⟩

theorem toList_playLine (receiver : String) (index : Nat) (name : String) :
    (playLine receiver (.int index, .text name)).toList =
      (receiver ++ "actions[" ++ receiver ++ "animations").toList ++ '[' ::
        ((toString index).toList ++ ']' :: ".name]?.play() ".toList) ++
          '/' :: '/' :: ' ' :: name.toList := by
  have indexText : (Value.int (index : Int)).plainText = toString index := by
    exact Value.intText_natCast index
  have nameText : (Value.text name).plainText = name := rfl
  simp [playLine, indexText, nameText]

theorem head?_playLine {receiver : String} (known : receiver ∈ receivers)
    (regular : inventory.IsRegular IsType) {slot : Value × Value}
    (member : slot ∈ inventory.slots) :
    (playLine receiver slot).toList.head? = some 'a' ∨
      (playLine receiver slot).toList.head? = some 't' := by
  obtain ⟨index, name, _, rfl⟩ := mem_slots regular member
  rw [toList_playLine]
  simp only [receivers, List.mem_cons, List.not_mem_nil, or_false] at known
  rcases known with rfl | rfl
  · left
    simp
  · right
    simp

/-- A character of no name, unless it is one of the marks of such lines, does not stand in a
line that plays a clip. -/
theorem char_not_mem_playLine {receiver : String} (known : receiver ∈ receivers)
    (regular : inventory.IsRegular IsType) {slot : Value × Value}
    (member : slot ∈ inventory.slots) {c : Char} (excluded : Identifier.isRest c = false)
    (notMark : c ∉ ['.', '[', ']', '?', '(', ')', '/', ' ']) :
    c ∉ (playLine receiver slot).toList := by
  obtain ⟨index, name, spelled, rfl⟩ := mem_slots regular member
  have notWords : ∀ words : List Char, (words.all fun d => Identifier.isRest d ||
      ['.', '[', ']', '?', '(', ')', '/', ' '].contains d) = true → c ∉ words := by
    intro words each inWords
    have here := List.all_eq_true.mp each c inWords
    simp [excluded, notMark] at here
  have front : ∀ receiver ∈ receivers, ((receiver ++ "actions[" ++ receiver ++
      "animations").toList.all fun d => Identifier.isRest d ||
        ['.', '[', ']', '?', '(', ')', '/', ' '].contains d) = true := by decide
  have back : c ∉ ".name]?.play() ".toList := notWords _ (by decide)
  have digits : c ∉ (toString index).toList := fun inDigits => by
    rw [Identifier.isRest_of_isAlphanumeric (isAlphanumeric_of_mem_toString inDigits)] at excluded
    cases excluded
  have nameFree : c ∉ name.toList := fun inName => by
    rw [Identifier.isRest_of_spells spelled c inName] at excluded
    cases excluded
  have marks : c ≠ '[' ∧ c ≠ ']' ∧ c ≠ '/' ∧ c ≠ ' ' := by
    refine ⟨?_, ?_, ?_, ?_⟩ <;> · rintro rfl; exact notMark (by decide)
  obtain ⟨opened, closed, slash, blank⟩ := marks
  rw [toList_playLine]
  simp only [List.mem_append, List.mem_cons, not_or]
  exact ⟨⟨notWords _ (front receiver known), opened, digits, closed, back⟩, slash, slash, blank,
    nameFree⟩

theorem isSingle_playLine {receiver : String} (known : receiver ∈ receivers)
    (regular : inventory.IsRegular IsType) {slot : Value × Value}
    (member : slot ∈ inventory.slots) : (LayoutStep.line (playLine receiver slot)).IsSingle :=
  char_not_mem_playLine known regular member (by decide) (by decide)

theorem slash_not_mem_playLine {receiver : String} (known : receiver ∈ receivers) (index : Nat) :
    '/' ∉ (receiver ++ "actions[" ++ receiver ++ "animations").toList ++ '[' ::
      ((toString index).toList ++ ']' :: ".name]?.play() ".toList) := by
  have front : ∀ receiver ∈ receivers,
      '/' ∉ (receiver ++ "actions[" ++ receiver ++ "animations").toList := by decide
  have digits : '/' ∉ (toString index).toList := fun member =>
    absurd (isDigit_of_mem_toString member) (by decide)
  have back : '/' ∉ ".name]?.play() ".toList := by decide
  simp only [List.mem_append, List.mem_cons, not_or]
  exact ⟨front receiver known, by decide, digits, by decide, back⟩

/-- The words of the line that plays a clip: those around the index, and the index.  The
name of the clip is in the remark. -/
theorem codeWords_playLine {receiver : String} (known : receiver ∈ receivers)
    (regular : inventory.IsRegular IsType) {index : Nat} {clip : String}
    (member : (.int index, .text clip) ∈ inventory.slots) :
    (LayoutStep.line (playLine receiver (.int index, .text clip))).codeWords =
      words (receiver ++ "actions[" ++ receiver ++ "animations").toList ++
        ([(toString index).toList] ++ words ".name]?.play() ".toList) := by
  have whole : ∀ c ∈ (toString index).toList, Identifier.isRest c = true := fun c member =>
    Identifier.isRest_of_isAlphanumeric (isAlphanumeric_of_mem_toString member)
  have visible : unindented (playLine receiver (.int index, .text clip)).toList =
      (playLine receiver (.int index, .text clip)).toList := by
    refine unindented_visible ?_
    rcases head?_playLine known regular member with first | first
    · simp [first]
    · simp [first]
  rw [← words_single whole, ← words_separated _ _ (by decide : Identifier.isRest ']' = false),
    ← words_separated _ _ (by decide : Identifier.isRest '[' = false),
    ← codePart_remark (slash_not_mem_playLine known index), ← toList_playLine receiver index clip]
  simp only [LayoutStep.codeWords, LayoutStep.bare, List.flatMap_cons, List.flatMap_nil,
    List.append_nil, lineWords, visible]

/-- The line that plays a clip calls nothing by a name of its own, whatever the name
of the clip in its remark. -/
theorem not_mem_playLine {receiver : String} (known : receiver ∈ receivers)
    (regular : inventory.IsRegular IsType) {slot : Value × Value}
    (member : slot ∈ inventory.slots) {name : String} (callable : name ∈ callables) :
    name.toList ∉ (LayoutStep.line (playLine receiver slot)).codeWords := by
  obtain ⟨index, clip, _, rfl⟩ := mem_slots regular member
  have front : ∀ receiver ∈ receivers, ∀ name ∈ callables, name.toList ∉
      words (receiver ++ "actions[" ++ receiver ++ "animations").toList := by decide
  have back : ∀ name ∈ callables, name.toList ∉ words ".name]?.play() ".toList := by
    decide
  have digits : (toString index).toList.all Char.isDigit = true :=
    List.all_eq_true.mpr fun c member => isDigit_of_mem_toString member
  have notDigits : ∀ name ∈ callables, ¬ name.toList.all Char.isDigit = true := by
    decide
  rw [codeWords_playLine known regular member]
  simp only [List.mem_append, List.mem_singleton, not_or]
  refine ⟨front receiver known name callable, ?_, back name callable⟩
  -- the index is a word of digits, and nothing that is called is spelled so
  intro same
  rw [← same] at digits
  exact notDigits name callable digits

/-! ## The steps of a setup -/

def handedOut : List String :=
  ["group", "scene", "animations", "actions"] ++ Imports.engineConstants

theorem mem_handedOut {name : String} (exposed : name ∈ exposedNames inventory style) :
    name ∈ handedOut := by
  rcases List.mem_append.mp exposed with ofModel | ofEngine
  · refine List.mem_append_left _ ?_
    split at ofModel
    · exact ofModel
    · simp only [List.mem_singleton] at ofModel
      simp [ofModel]
  · exact List.mem_append_right _
      (Imports.mem_engineConstants_of_imported inventory style ofEngine)

def exposedSteps (inventory : Inventory) (style : Style) : List LayoutStep :=
  (exposedNames inventory style).map fun name => .line (name ++ ",")

theorem forall_mem_exposedSteps {holds : LayoutStep → Prop}
    (each : ∀ name ∈ handedOut, holds (.line (name ++ ","))) :
    ∀ step ∈ exposedSteps inventory style, holds step := by
  intro step member
  obtain ⟨name, exposed, rfl⟩ := List.mem_map.mp member
  exact each name (mem_handedOut exposed)

theorem forall_mem_playSteps {receiver : String} {holds : LayoutStep → Prop}
    (remark : holds (.line "// Play all animations"))
    (each : ∀ slot ∈ inventory.slots, holds (.line (playLine receiver slot))) :
    ∀ step ∈ playSteps inventory receiver, holds step := by
  intro step member
  rcases List.mem_cons.mp member with rfl | inPlays
  · exact remark
  · obtain ⟨slot, inSlots, rfl⟩ := List.mem_map.mp inPlays
    exact each slot inSlots

def fixedLines : List String :=
  ["// Load GLTF model", "const \x7b scene \x7d = await useGLTF(props.path)",
    "const \x7b scene, animations \x7d = await useGLTF(props.path)", "const group = ref()",
    "const \x7b actions \x7d = useAnimations(animations, group)", "", "onMounted(() => \x7b",
    "// Play all animations", "\x7d)", "async setup(props) \x7b", "return \x7b", "\x7d", "\x7d,",
    "mounted() \x7b"]

theorem loadStep_fixed (inventory : Inventory) : ∃ text ∈ fixedLines, loadStep inventory = .line text := by
  unfold loadStep
  cases inventory.hasClips with
  | false => exact ⟨_, List.mem_cons_of_mem _ (List.mem_cons_self ..), rfl⟩
  | true =>
      exact ⟨_, List.mem_cons_of_mem _ (List.mem_cons_of_mem _ (List.mem_cons_self ..)), rfl⟩

/-- A property of all that a setup is made of: of the fixed lines, of the lines of names
and of those that play clips. -/
structure HoldsOfParts (inventory : Inventory) (holds : LayoutStep → Prop) : Prop where
  entering : holds .enter
  leaving : holds .leave
  fixed : ∀ text ∈ fixedLines, holds (.line text)
  exposed : ∀ name ∈ handedOut, holds (.line (name ++ ","))
  plays : ∀ receiver ∈ receivers, ∀ slot ∈ inventory.slots, holds (.line (playLine receiver slot))

namespace HoldsOfParts

variable {holds : LayoutStep → Prop}

theorem lines (parts : HoldsOfParts inventory holds) (texts : List String)
    (known : ∀ text ∈ texts, text ∈ fixedLines) :
    ∀ step ∈ texts.map LayoutStep.line, holds step := by
  intro step member
  obtain ⟨text, inTexts, rfl⟩ := List.mem_map.mp member
  exact parts.fixed text (known text inTexts)

theorem load (parts : HoldsOfParts inventory holds) : holds (loadStep inventory) := by
  obtain ⟨text, known, same⟩ := loadStep_fixed inventory
  rw [same]
  exact parts.fixed text known

theorem actions (parts : HoldsOfParts inventory holds) : ∀ step ∈ actionSteps, holds step := by
  intro step member
  rcases List.mem_cons.mp member with rfl | inRest
  · exact parts.fixed _ (by simp [fixedLines])
  · rw [List.mem_singleton.mp inRest]
    exact parts.fixed _ (by simp [fixedLines, clipHelper])

theorem played (parts : HoldsOfParts inventory holds) {receiver : String}
    (known : receiver ∈ receivers) :
    ∀ step ∈ deeper (playSteps inventory receiver), holds step := by
  apply forall_mem_deeper parts.entering parts.leaving
  apply forall_mem_playSteps
  · exact parts.fixed _ (by simp [fixedLines])
  · exact parts.plays receiver known

theorem composition (parts : HoldsOfParts inventory holds) :
    ∀ step ∈ compositionSteps inventory, holds step := by
  have opening := parts.lines ["// Load GLTF model"] (by simp [fixedLines])
  have mounting := parts.lines ["", "onMounted(() => \x7b"] (by simp [fixedLines])
  have blank := parts.lines [""] (by simp [fixedLines])
  have closing := parts.lines ["\x7d)"] (by simp [fixedLines])
  have played := parts.played (by decide : "" ∈ receivers)
  unfold compositionSteps
  refine List.forall_mem_append.mpr ⟨?_, ?_⟩
  · exact List.forall_mem_append.mpr ⟨opening, List.forall_mem_cons.mpr ⟨parts.load, by simp⟩⟩
  · split
    · simp only [List.forall_mem_append]
      exact ⟨⟨⟨⟨blank, parts.actions⟩, mounting⟩, played⟩, closing⟩
    · simp

theorem options (parts : HoldsOfParts inventory holds) :
    ∀ step ∈ optionsSteps inventory style, holds step := by
  have opening := parts.lines ["async setup(props) \x7b"] (by simp [fixedLines])
  have returning := parts.lines ["", "return \x7b"] (by simp [fixedLines])
  have returned := parts.lines ["\x7d"] (by simp [fixedLines])
  have closing := parts.lines ["\x7d,"] (by simp [fixedLines])
  have mounting := parts.lines ["mounted() \x7b"] (by simp [fixedLines])
  have played := parts.played (by decide : "this." ∈ receivers)
  have handed : ∀ step ∈ deeper (exposedSteps inventory style), holds step :=
    forall_mem_deeper parts.entering parts.leaving (forall_mem_exposedSteps parts.exposed)
  have optional : ∀ step ∈ (if inventory.hasClips then actionSteps else []), holds step := by
    split
    · exact parts.actions
    · simp
  have setup := forall_mem_deeper parts.entering parts.leaving (List.forall_mem_append.mpr
    ⟨List.forall_mem_append.mpr ⟨List.forall_mem_append.mpr
      ⟨List.forall_mem_cons.mpr ⟨parts.load, optional⟩, returning⟩, handed⟩, returned⟩)
  unfold optionsSteps
  refine List.forall_mem_append.mpr ⟨?_, ?_⟩
  · exact List.forall_mem_append.mpr ⟨List.forall_mem_append.mpr ⟨opening, setup⟩, closing⟩
  · split
    · exact List.forall_mem_append.mpr
        ⟨List.forall_mem_append.mpr ⟨mounting, played⟩, closing⟩
    · simp

theorem steps (parts : HoldsOfParts inventory holds) :
    ∀ step ∈ steps inventory style, holds step := by
  unfold Setup.steps
  split
  · exact parts.composition
  · exact parts.options

end HoldsOfParts

theorem isSingle_steps (regular : inventory.IsRegular IsType) :
    ∀ step ∈ steps inventory style, step.IsSingle := by
  apply HoldsOfParts.steps
  exact {
    entering := trivial
    leaving := trivial
    fixed := by decide
    exposed := by decide
    plays := fun receiver known slot => isSingle_playLine known regular }

/-! ## What a setup calls -/

theorem mem_loadStep {name : String} (callable : name ∈ callables) :
    name.toList ∈ (loadStep inventory).codeWords ↔ name = "useGLTF" := by
  unfold loadStep
  revert name
  cases inventory.hasClips with
  | false => decide
  | true => decide

theorem mem_actionSteps {name : String} (callable : name ∈ callables) :
    name.toList ∈ actionSteps.flatMap LayoutStep.codeWords ↔
      name = "useAnimations" ∨ name = "ref" := by
  revert name
  decide

theorem not_mem_playSteps (regular : inventory.IsRegular IsType) {receiver : String}
    (known : receiver ∈ receivers) {name : String} (callable : name ∈ callables) :
    name.toList ∉ (playSteps inventory receiver).flatMap LayoutStep.codeWords := by
  intro member
  obtain ⟨step, inSteps, inWords⟩ := List.mem_flatMap.mp member
  have remark : ∀ name ∈ callables,
      name.toList ∉ (LayoutStep.line "// Play all animations").codeWords := by decide
  have each : ∀ step ∈ playSteps inventory receiver, name.toList ∉ step.codeWords :=
    forall_mem_playSteps (remark name callable) fun slot inSlots =>
      not_mem_playLine known regular inSlots callable
  exact each step inSteps inWords

theorem not_mem_exposedSteps {name : String} (callable : name ∈ callables) :
    name.toList ∉ (exposedSteps inventory style).flatMap LayoutStep.codeWords := by
  intro member
  obtain ⟨step, inSteps, inWords⟩ := List.mem_flatMap.mp member
  have listed : ∀ exposed ∈ handedOut, ∀ name ∈ callables,
      name.toList ∉ (LayoutStep.line (exposed ++ ",")).codeWords := by decide
  have each : ∀ step ∈ exposedSteps inventory style, name.toList ∉ step.codeWords :=
    forall_mem_exposedSteps fun exposed known => listed exposed known name callable
  exact each step inSteps inWords

theorem mem_compositionSteps (regular : inventory.IsRegular IsType) {name : String}
    (callable : name ∈ callables) :
    name.toList ∈ (compositionSteps inventory).flatMap LayoutStep.codeWords ↔
      name = "useGLTF" ∨ (inventory.hasClips = true ∧
        (name = "useAnimations" ∨ name = "ref" ∨ name = "onMounted")) := by
  have silent : ∀ text ∈ ["// Load GLTF model", "", "\x7d)"], ∀ name ∈ callables,
      name.toList ∉ (LayoutStep.line text).codeWords := by decide
  have mounting : ∀ name ∈ callables,
      (name.toList ∈ (LayoutStep.line "onMounted(() => \x7b").codeWords ↔ name = "onMounted") := by
    decide
  have opening := silent "// Load GLTF model" (by simp) name callable
  have blank := silent "" (by simp) name callable
  have closing := silent "\x7d)" (by simp) name callable
  have load : name.toList ∈ (loadStep inventory).codeWords ↔ name = "useGLTF" :=
    mem_loadStep callable
  have plays := not_mem_playSteps regular (by decide : "" ∈ receivers) callable
  unfold compositionSteps
  cases inventory.hasClips with
  | false =>
      simp only [Bool.false_eq_true, ↓reduceIte, List.append_nil, List.flatMap_cons,
        List.flatMap_nil, List.mem_append, load, opening, false_or, false_and, or_false]
  | true =>
      simp only [↓reduceIte, List.flatMap_append, List.flatMap_cons, List.flatMap_nil,
        flatMap_codeWords_deeper, List.mem_append, List.not_mem_nil, load,
        mem_actionSteps callable, mounting name callable, opening, blank, closing, plays,
        false_or, or_false, true_and, or_assoc]

theorem mem_optionsSteps (regular : inventory.IsRegular IsType) {name : String}
    (callable : name ∈ callables) :
    name.toList ∈ (optionsSteps inventory style).flatMap LayoutStep.codeWords ↔
      name = "useGLTF" ∨ (inventory.hasClips = true ∧
        (name = "useAnimations" ∨ name = "ref")) := by
  have silent : ∀ text ∈ ["async setup(props) \x7b", "", "return \x7b", "\x7d", "\x7d,",
      "mounted() \x7b"], ∀ name ∈ callables,
      name.toList ∉ (LayoutStep.line text).codeWords := by decide
  have opening := silent "async setup(props) \x7b" (by simp) name callable
  have blank := silent "" (by simp) name callable
  have handing := silent "return \x7b" (by simp) name callable
  have handed := silent "\x7d" (by simp) name callable
  have closing := silent "\x7d," (by simp) name callable
  have mounting := silent "mounted() \x7b" (by simp) name callable
  have load : name.toList ∈ (loadStep inventory).codeWords ↔ name = "useGLTF" :=
    mem_loadStep callable
  have plays := not_mem_playSteps regular (by decide : "this." ∈ receivers) callable
  have exposed : name.toList ∉ (exposedSteps inventory style).flatMap LayoutStep.codeWords :=
    not_mem_exposedSteps callable
  unfold exposedSteps at exposed
  unfold optionsSteps
  cases inventory.hasClips with
  | false =>
      simp only [Bool.false_eq_true, ↓reduceIte, List.append_nil, List.flatMap_append,
        List.flatMap_cons, List.flatMap_nil, flatMap_codeWords_deeper, List.mem_append, load,
        opening, blank, handing, handed, closing, exposed, false_or, or_false, false_and]
  | true =>
      simp only [↓reduceIte, List.flatMap_append, List.flatMap_cons, List.flatMap_nil,
        flatMap_codeWords_deeper, List.mem_append, List.not_mem_nil, load,
        mem_actionSteps callable, opening, blank, handing, handed, closing, mounting, plays,
        exposed, false_or, or_false, true_and]

theorem bare_steps_ne_nil : (steps inventory style).flatMap LayoutStep.bare ≠ [] := by
  unfold steps
  split <;> simp [compositionSteps, optionsSteps, LayoutStep.bare]

theorem mentions_block (regular : inventory.IsRegular IsType) {name : String}
    (callable : name ∈ callables) :
    Mentions (block inventory style) name ↔
      name = "useGLTF" ∨ (inventory.hasClips = true ∧
        (name = "useAnimations" ∨ name = "ref" ∨
          (style.composition = true ∧ name = "onMounted"))) := by
  unfold Mentions
  rw [block, codeWords_laidOut (isSingle_steps regular) bare_steps_ne_nil, steps]
  cases style.composition with
  | true =>
      simp only [↓reduceIte, mem_compositionSteps regular callable, true_and]
  | false =>
      simp only [Bool.false_eq_true, ↓reduceIte, mem_optionsSteps regular callable, false_and,
        or_false]

/-! ## What a setup hands out -/

/-- The names between the opening and the end of a returned object, one a line and each
followed by a comma. -/
def returnedNames (text : String) : List String :=
  let opened := (bareLines text).dropWhile (· ≠ "return \x7b".toList)
  ((opened.drop 1).takeWhile (· ≠ "\x7d".toList)).map fun line =>
    String.ofList (line.takeWhile (· ≠ ','))

theorem returnedNames_eq {text : String} {before after : List (List Char)} {names : List String}
    (lines : bareLines text = before ++ "return \x7b".toList ::
      (names.map (fun name => (name ++ ",").toList) ++ "\x7d".toList :: after))
    (unopened : "return \x7b".toList ∉ before) (plain : ∀ name ∈ names, ',' ∉ name.toList) :
    returnedNames text = names := by
  have skipped : ∀ line ∈ before, decide (line ≠ "return \x7b".toList) = true := by
    intro line member
    refine decide_eq_true ?_
    rintro rfl
    exact unopened member
  have listed : ∀ line ∈ names.map fun name => (name ++ ",").toList,
      decide (line ≠ "\x7d".toList) = true := by
    intro line member
    obtain ⟨name, _, rfl⟩ := List.mem_map.mp member
    refine decide_eq_true ?_
    intro same
    have comma : ',' ∈ (name ++ ",").toList := by simp
    rw [same] at comma
    exact absurd comma (by decide)
  unfold returnedNames
  dsimp only
  rw [lines, List.dropWhile_append_of_pos skipped, List.dropWhile_cons_of_neg (by simp),
    List.drop_one, List.tail_cons, List.takeWhile_append_of_pos listed,
    List.takeWhile_cons_of_neg (by simp), List.append_nil, List.map_map]
  conv_rhs => rw [← List.map_id names]
  refine List.map_congr_left ?_
  intro name member
  have kept : (name.toList ++ [',']).takeWhile (fun c => decide (c ≠ ',')) = name.toList := by
    rw [List.takeWhile_append_of_pos]
    · simp
    · intro c inName
      refine decide_eq_true ?_
      rintro rfl
      exact plain name member inName
  simp only [Function.comp_apply, String.toList_append, id_eq]
  exact (congrArg String.ofList kept).trans (String.ofList_toList)

theorem returnedNames_block (regular : inventory.IsRegular IsType)
    (options : style.composition = false) :
    returnedNames (block inventory style) = exposedNames inventory style := by
  have plain : ∀ name ∈ handedOut, ',' ∉ name.toList := by decide
  have visible : ∀ name ∈ handedOut, unindented (name ++ ",").toList = (name ++ ",").toList := by
    decide
  have named : (exposedSteps inventory style).flatMap LayoutStep.bare =
      (exposedNames inventory style).map fun name => (name ++ ",").toList := by
    have asMap : (exposedSteps inventory style).flatMap LayoutStep.bare =
        (exposedNames inventory style).map fun name => unindented (name ++ ",").toList := by
      rw [exposedSteps, List.flatMap_map, List.map_eq_flatMap]
      rfl
    rw [asMap]
    exact List.map_congr_left fun name exposed => visible name (mem_handedOut exposed)
  have lines : bareLines (block inventory style) =
      ("async setup(props) \x7b".toList :: (loadStep inventory).bare ++
          (if inventory.hasClips then actionSteps else []).flatMap LayoutStep.bare ++ [[]]) ++
        "return \x7b".toList ::
          ((exposedNames inventory style).map (fun name => (name ++ ",").toList) ++
            "\x7d".toList :: ("\x7d,".toList :: (if inventory.hasClips then
              .line "mounted() \x7b" :: deeper (playSteps inventory "this.") ++ [.line "\x7d,"]
              else []).flatMap LayoutStep.bare)) := by
    rw [block, bareLines_laidOut (isSingle_steps regular) bare_steps_ne_nil, steps, options,
      ← named, exposedSteps]
    simp only [Bool.false_eq_true, ↓reduceIte, optionsSteps, List.flatMap_append,
      List.flatMap_cons, List.flatMap_nil, flatMap_bare_deeper, List.append_assoc,
      List.cons_append, List.append_nil]
    rfl
  refine returnedNames_eq lines ?_ fun name exposed => plain name (mem_handedOut exposed)
  unfold loadStep
  cases inventory.hasClips with
  | false => decide
  | true => decide

end SceneComponent.Setup
