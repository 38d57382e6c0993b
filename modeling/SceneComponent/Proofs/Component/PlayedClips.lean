import Mathlib
import SceneComponent.Proofs.Clips
import SceneComponent.Proofs.Component.ImportClosure
import SceneComponent.Proofs.Decimal.TextReading

/-!
# Clips that a setup plays

The calls that play clips are read back from the text of a setup: the lines with such a
call, the place in the list of clips that each of them looks up, and the name in its remark.
Whatever the style, they are the slots of the clips, one after the other.
-/

set_option autoImplicit false

namespace SceneComponent

open Checked Text

theorem Text.containsPattern_between (front pattern back : List Char) :
    containsPattern pattern (front ++ (pattern ++ back)) = true := by
  induction front with
  | nil =>
      have found := afterPattern?_eq_some_iff.mpr (rfl : pattern ++ back = pattern ++ back)
      cases whole : pattern ++ back with
      | nil =>
          rw [List.append_eq_nil_iff.mp whole |>.1]
          rfl
      | cons c rest =>
          rw [whole] at found
          rw [List.nil_append, containsPattern, found]
          rfl
  | cons c front inductionHypothesis =>
      rw [List.cons_append, containsPattern, inductionHypothesis, Bool.or_true]

namespace Setup

variable {IsType : String → Prop} {inventory : Inventory} {style : Style}

/-- Whether a line has a call that plays something. -/
def isPlay (line : List Char) : Bool := containsPattern ".play(".toList line

def playLines (text : String) : List (List Char) := (bareLines text).filter isPlay

/-- The place that a line looks up in the list of clips, both reached through a receiver,
and the name in its remark. -/
def readPlay? (receiver : String) (line : List Char) : Option (Nat × String) := do
  let looked ← afterPattern? (receiver ++ "actions[" ++ receiver ++ "animations[").toList line
  let digits := looked.takeWhile isAsciiDigit
  let name ← afterPattern? "].name]?.play() // ".toList (looked.dropWhile isAsciiDigit)
  return (Nat.ofDigitChars 10 digits 0, String.ofList name)

/-- What a setup hands out stands behind this in the options style. -/
def receiverOf (style : Style) : String := if style.composition then "" else "this."

def playedBy (receiver text : String) : List (Option (Nat × String)) :=
  (playLines text).map (readPlay? receiver)

/-! ## Single lines -/

theorem isPlay_playLine (receiver : String) (slot : Value × Value) :
    isPlay (playLine receiver slot).toList = true := by
  have split : (playLine receiver slot).toList =
      (receiver ++ "actions[" ++ receiver ++ "animations[" ++ slot.1.plainText ++
        "].name]?").toList ++ (".play(".toList ++ (") // " ++ slot.2.plainText).toList) := by
    simp [playLine]
  rw [isPlay, split]
  exact containsPattern_between _ _ _

theorem readPlay?_playLine (receiver : String) (index : Nat) (name : String) :
    readPlay? receiver (playLine receiver (.int index, .text name)).toList =
      some (index, name) := by
  have split : (playLine receiver (.int index, .text name)).toList =
      (receiver ++ "actions[" ++ receiver ++ "animations[").toList ++
        ((toString index).toList ++ ("].name]?.play() // ".toList ++ name.toList)) := by
    rw [toList_playLine]
    simp
  have digits : ∀ c ∈ (toString index).toList, isAsciiDigit c = true := by
    intro c member
    rw [Nat.toString_eq_ofList_toDigits, String.toList_ofList] at member
    exact Decimal.isAsciiDigit_of_mem_digits member
  have stop : ∀ c, ("].name]?.play() // ".toList ++ name.toList).head? = some c →
      isAsciiDigit c = false := by
    intro c head
    obtain rfl : ']' = c := Option.some.inj head
    rfl
  have value : Nat.ofDigitChars 10 (toString index).toList 0 = index := by
    rw [Nat.toString_eq_ofList_toDigits, String.toList_ofList]
    exact Decimal.ofDigitChars_digits index
  unfold readPlay?
  rw [split, afterPattern?_eq_some_iff.mpr rfl]
  simp only [Option.bind_eq_bind, Option.bind_some, takeWhile_cut digits stop,
    dropWhile_cut digits stop, afterPattern?_eq_some_iff.mpr rfl, value, String.ofList_toList]
  rfl

/-! ## Whole setups -/

def plays (step : LayoutStep) : List (List Char) := step.bare.filter isPlay

theorem flatMap_plays_deeper (steps : List LayoutStep) :
    (deeper steps).flatMap plays = steps.flatMap plays := by
  simp [deeper, plays, LayoutStep.bare]

theorem flatMap_plays_eq_nil {steps : List LayoutStep} (silent : ∀ step ∈ steps, plays step = []) :
    steps.flatMap plays = [] := by
  simpa using silent

theorem plays_playLine (regular : inventory.IsRegular IsType) {receiver : String}
    (known : receiver ∈ receivers) {slot : Value × Value} (member : slot ∈ inventory.slots) :
    plays (.line (playLine receiver slot)) = [(playLine receiver slot).toList] := by
  have visible : (playLine receiver slot).toList.head? ≠ some ' ' := by
    rcases head?_playLine known regular member with first | first
    · simp [first]
    · simp [first]
  rw [plays, LayoutStep.bare, unindented_visible visible,
    List.filter_cons_of_pos (isPlay_playLine receiver slot), List.filter_nil]

theorem flatMap_plays_playSteps (regular : inventory.IsRegular IsType) {receiver : String}
    (known : receiver ∈ receivers) :
    (playSteps inventory receiver).flatMap plays =
      inventory.slots.map fun slot => (playLine receiver slot).toList := by
  have remark : plays (.line "// Play all animations") = [] := by decide
  rw [playSteps, List.flatMap_cons, remark, List.nil_append, List.flatMap_map, List.map_eq_flatMap]
  exact List.flatMap_congr fun slot member => plays_playLine regular known member

theorem slots_eq_nil (none : inventory.hasClips = false) : inventory.slots = [] := by
  have names : inventory.clipNames = [] := by simpa [Inventory.hasClips] using none
  rw [Inventory.slots, names, List.zip_nil_right]

/-- The lines that play clips are those of the slots of the inventory. -/
theorem playLines_block (regular : inventory.IsRegular IsType) (style : Style) :
    playLines (block inventory style) =
      inventory.slots.map fun slot => (playLine (receiverOf style) slot).toList := by
  have silent : ∀ text ∈ fixedLines, plays (.line text) = [] := by decide
  have load : plays (loadStep inventory) = [] := by
    obtain ⟨text, known, same⟩ := loadStep_fixed inventory
    rw [same]
    exact silent text known
  have actions : actionSteps.flatMap plays = [] := by decide
  have handed : (exposedSteps inventory style).flatMap plays = [] :=
    flatMap_plays_eq_nil (forall_mem_exposedSteps (by decide))
  simp only [fixedLines, List.forall_mem_cons] at silent
  unfold exposedSteps at handed
  -- the lines are read off the steps, of which those that play slots alone play anything
  rw [playLines, block, bareLines_laidOut (isSingle_steps regular) bare_steps_ne_nil,
    List.filter_flatMap]
  change (steps inventory style).flatMap plays = _
  rw [steps, receiverOf]
  cases clips : inventory.hasClips with
  | false =>
      rw [slots_eq_nil clips]
      cases style.composition <;>
        simp only [compositionSteps, optionsSteps, clips, Bool.false_eq_true, ↓reduceIte,
          List.append_nil, List.flatMap_append, List.flatMap_cons, List.flatMap_nil,
          flatMap_plays_deeper, silent, load, handed, List.map_nil]
  | true =>
      have composed := flatMap_plays_playSteps regular (by decide : "" ∈ receivers)
      have optioned := flatMap_plays_playSteps regular (by decide : "this." ∈ receivers)
      cases style.composition <;>
        simp only [compositionSteps, optionsSteps, clips, Bool.false_eq_true, ↓reduceIte,
          List.append_nil, List.nil_append, List.flatMap_append, List.flatMap_cons,
          List.flatMap_nil, flatMap_plays_deeper, silent, load, handed, actions, composed,
          optioned]

/-- What a setup plays of a list of clips: one call for each slot, in the order of the slots.
Without clips it neither plays nor prepares anything. -/
structure PlaysAll (clips : List Clip) (slots : List Clip.Slot) (receiver text : String) :
    Prop where
  calls : playedBy receiver text = slots.map fun slot => some (slot.index, slot.name)
  silent : playLines text = [] ↔ clips = []
  helper : ¬ Mentions text "useAnimations" ↔ clips = []
  reference : ¬ Mentions text "ref" ↔ clips = []

theorem playsAll_of_survey {root : Node} {clips : List Clip} {slots : List Clip.Slot}
    {places shadows : Value} {records : List Record} (slotted : Clip.slots clips = .ok slots)
    (success : Inventory.survey root clips places shadows = .ok (inventory, records))
    (style : Style) : PlaysAll clips slots (receiverOf style) (block inventory style) := by
  have regular : inventory.IsRegular fun _ => True :=
    Inventory.isRegular_of_survey success fun _ _ _ _ _ => trivial
  have hasClips := Inventory.hasClips_of_survey success
  obtain ⟨findings, others, _, played, rfl⟩ := Inventory.survey_trace success
  obtain rfl : slots = others := Except.ok.inj (slotted.symm.trans played)
  have lines := playLines_block regular style
  rw [slots_eq_map rfl rfl, List.map_map] at lines
  have mentioned : ∀ name ∈ ["useAnimations", "ref"],
      (Mentions (block (Inventory.ofFindings findings slots) style) name ↔ clips ≠ []) := by
    intro name known
    have callable : name ∈ callables := by
      revert name
      decide
    rw [mentions_block regular callable, hasClips]
    simp only [List.mem_cons, List.not_mem_nil, or_false] at known
    rcases known with rfl | rfl <;> simp
  refine {
    calls := ?_
    silent := ?_
    helper := (not_congr (mentioned _ (by simp))).trans not_not
    reference := (not_congr (mentioned _ (by simp))).trans not_not }
  · rw [playedBy, lines, List.map_map]
    exact List.map_congr_left fun slot _ => readPlay?_playLine _ slot.index slot.name
  · rw [lines, List.map_eq_nil_iff, ← not_iff_not, ← ne_eq clips, ← hasClips]
    cases slots <;> simp [Inventory.hasClips, Inventory.ofFindings]

end Setup

/-- Every list of clips with names has slots, one for each distinct clip, and whatever the
scene and the style, the setup plays these slots. -/
theorem Clip.each_played_once {clips : List Clip}
    (named : ∀ clip ∈ clips, Succeeds clip.name.toName) :
    ∃ slots, Clip.slots clips = .ok slots ∧ Clip.PlaysEach clips slots ∧
      ∀ (root : Node) (places shadows : Value) (inventory : Inventory) (records : List Record)
        (style : Style),
        Inventory.survey root clips places shadows = .ok (inventory, records) →
          Setup.PlaysAll clips slots (Setup.receiverOf style) (Setup.block inventory style) := by
  obtain ⟨slots, slotted⟩ := Clip.succeeds_slots named
  refine ⟨slots, slotted, Clip.playsEach_of_slots slotted, ?_⟩
  intro root places shadows inventory records style success
  exact Setup.playsAll_of_survey slotted success style

/-- A clip that is listed twice, one without a name, and two of one name. -/
def Clip.mixedClips : List Clip :=
  [⟨0, .text "Walk", 1.0⟩, ⟨1, .text "", 2.0⟩, ⟨0, .text "Walk", 1.0⟩, ⟨2, .text "Walk", 3.0⟩]

theorem Clip.mixedClips_named : ∀ clip ∈ mixedClips, Succeeds clip.name.toName := by
  intro clip member
  simp only [mixedClips, List.mem_cons, List.not_mem_nil, or_false] at member
  rcases member with rfl | rfl | rfl | rfl
  · exact succeeds_ok "Walk"
  · exact succeeds_ok ""
  · exact succeeds_ok "Walk"
  · exact succeeds_ok "Walk"

theorem Clip.mixedClips_played : ∃ inventory records,
    Inventory.survey {} mixedClips = .ok (inventory, records) ∧
      Clip.PlaysEach mixedClips [⟨0, "Walk"⟩, ⟨1, "Animation_1"⟩, ⟨3, "Walk"⟩] ∧
      Setup.playedBy "" (Setup.block inventory {}) =
        [some (0, "Walk"), some (1, "Animation_1"), some (3, "Walk")] := by
  have listed : (Clip.slots mixedClips).toOption =
      some [⟨0, "Walk"⟩, ⟨1, "Animation_1"⟩, ⟨3, "Walk"⟩] := by decide +kernel
  have surveyed : (Inventory.survey {} mixedClips).toOption.map (fun _ => ()) = some () := by
    decide +kernel
  obtain ⟨⟨inventory, records⟩, made, _⟩ := ok_of_map_toOption surveyed
  obtain ⟨slots, slotted, each, played⟩ := each_played_once mixedClips_named
  rw [slotted] at listed
  obtain rfl := Option.some.inj listed
  exact ⟨inventory, records, made, each, (played _ _ _ _ _ {} made).calls⟩

end SceneComponent
