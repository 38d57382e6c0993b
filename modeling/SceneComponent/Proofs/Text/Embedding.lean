import Mathlib
import SceneComponent.Proofs.Text.Lines

/-!
# Embedded texts

A text that was laid out from one level on and is embedded at another one reads as if its
steps had been carried out at the sum of both levels.  The steps have to be balanced: they
leave only levels that they entered, and all of them in the end.  `writtenLines_raised` is
the law of a run whose levels stay at or above the one that it begins at; blank lines carry
no indentation at any level, so that they need no law of their own.
-/

set_option autoImplicit false

namespace SceneComponent.Text

namespace LayoutStep

/-- The number of levels that are open after a step; a level that was not entered cannot be
left. -/
def openedAfter? (opened : Nat) : LayoutStep → Option Nat
  | .line _ => some opened
  | .embed _ => some opened
  | .enter => some (opened + 1)
  | .leave =>
      match opened with
      | 0 => none
      | others + 1 => some others

/-- The texts that a step writes, one for each line. -/
def texts : LayoutStep → List String
  | .line text => [text]
  | .embed text => lines text
  | .enter => []
  | .leave => []

def Writes (step : LayoutStep) : Prop := step.texts ≠ []

end LayoutStep

def openedAfter? (opened : Nat) (steps : List LayoutStep) : Option Nat :=
  steps.foldlM LayoutStep.openedAfter? opened

/-- Steps that never leave the level they begin at, and end at it. -/
def IsBalanced (steps : List LayoutStep) : Prop := openedAfter? 0 steps = some 0

instance : DecidablePred IsBalanced := fun steps =>
  inferInstanceAs (Decidable (openedAfter? 0 steps = some 0))

/-- A line that holds a text behind some indentation; one without a text is empty. -/
def IsIndented (text line : String) : Prop :=
  (text = "" → line = "") ∧
    (text ≠ "" → ∃ level : Nat, line = String.ofList (List.replicate (2 * level) ' ') ++ text)

/-! ## Steps -/

theorem openedAfter?_cons {opened closed : Nat} {step : LayoutStep} {rest : List LayoutStep} :
    openedAfter? opened (step :: rest) = some closed ↔
      ∃ between, step.openedAfter? opened = some between ∧
        openedAfter? between rest = some closed := by
  rw [openedAfter?, List.foldlM_cons]
  exact Option.bind_eq_some_iff

theorem LayoutStep.openedAfter?_leave {opened between : Nat} :
    LayoutStep.leave.openedAfter? opened = some between ↔ opened = between + 1 := by
  cases opened with
  | zero => simp [LayoutStep.openedAfter?]
  | succ others => simp [LayoutStep.openedAfter?]

theorem indentation_add {inner outer : Int} (innerAbove : 0 ≤ inner) (outerAbove : 0 ≤ outer) :
    Layout.indentation (inner + outer) = Layout.indentation outer ++ Layout.indentation inner := by
  have length : 2 * (inner + outer).toNat = 2 * outer.toNat + 2 * inner.toNat := by
    rw [Int.toNat_add innerAbove outerAbove]
    omega
  rw [Layout.indentation, length, List.replicate_add, String.ofList_append]
  rfl

/-- Indenting twice is indenting once by both levels; a blank line stays blank throughout. -/
theorem indented_indented {inner outer : Int} (innerAbove : 0 ≤ inner) (outerAbove : 0 ≤ outer)
    (text : String) :
    Layout.indented outer (Layout.indented inner text) = Layout.indented (inner + outer) text := by
  unfold Layout.indented
  by_cases empty : text.isEmpty = true
  · rw [if_pos empty, if_pos empty]
    rfl
  · have filled : ¬ (Layout.indentation inner ++ text).isEmpty = true := by
      intro blank
      apply empty
      rw [String.isEmpty_iff] at blank ⊢
      exact (String.append_eq_empty_iff.mp blank).2
    rw [if_neg empty, if_neg filled, if_neg empty, indentation_add innerAbove outerAbove,
      String.append_assoc]

theorem isIndented_indented (level : Int) (text : String) :
    IsIndented text (Layout.indented level text) := by
  unfold Layout.indented
  constructor
  · rintro rfl
    rfl
  · intro filled
    rw [if_neg (by simpa using filled)]
    exact ⟨level.toNat, rfl⟩

/-! ## Runs -/

/-- A run writes at a higher level what it writes at a lower one, indented once more. -/
theorem writtenLines_raised {steps : List LayoutStep} {opened closed : Nat}
    (kept : openedAfter? opened steps = some closed) {level outer : Int} (above : opened ≤ level)
    (outerAbove : 0 ≤ outer) :
    writtenLines (level + outer) steps =
      (writtenLines level steps).map (Layout.indented outer) := by
  induction steps generalizing opened level with
  | nil => rfl
  | cons step rest inductionHypothesis =>
      obtain ⟨between, stepped, remaining⟩ := openedAfter?_cons.mp kept
      have levelAbove : 0 ≤ level := by omega
      cases step with
      | line text =>
          obtain rfl := Option.some.inj stepped
          rw [writtenLines, writtenLines, List.map_cons, indented_indented levelAbove outerAbove,
            inductionHypothesis remaining above]
      | embed text =>
          obtain rfl := Option.some.inj stepped
          have embedded : (lines text).map (Layout.indented (level + outer)) =
              ((lines text).map (Layout.indented level)).map (Layout.indented outer) := by
            rw [List.map_map]
            exact List.map_congr_left fun line _ =>
              (indented_indented levelAbove outerAbove line).symm
          rw [writtenLines, writtenLines, List.map_append, embedded,
            inductionHypothesis remaining above]
      | enter =>
          obtain rfl := Option.some.inj stepped
          have entered : ((opened + 1 : Nat) : Int) ≤ level + 1 := by omega
          have higher := inductionHypothesis remaining entered
          rw [writtenLines, writtenLines, ← higher, add_right_comm]
      | leave =>
          obtain rfl := LayoutStep.openedAfter?_leave.mp stepped
          have left : (between : Int) ≤ level - 1 := by omega
          have lower := inductionHypothesis remaining left
          rw [writtenLines, writtenLines, ← lower, sub_add_eq_add_sub]

theorem level_run {steps : List LayoutStep} {opened closed : Nat}
    (kept : openedAfter? opened steps = some closed) (layout : Layout) :
    (layout.run steps).level + opened = layout.level + closed := by
  induction steps generalizing opened layout with
  | nil =>
      obtain rfl := Option.some.inj kept
      rfl
  | cons step rest inductionHypothesis =>
      obtain ⟨between, stepped, remaining⟩ := openedAfter?_cons.mp kept
      have later : ((layout.step step).run rest).level + between =
          (layout.step step).level + closed := inductionHypothesis remaining (layout.step step)
      have run : layout.run (step :: rest) = (layout.step step).run rest := rfl
      rw [run]
      cases step with
      | line text =>
          obtain rfl := Option.some.inj stepped
          exact later
      | embed text =>
          obtain rfl := Option.some.inj stepped
          rwa [Layout.step, foldl_line] at later ⊢
      | enter =>
          obtain rfl := Option.some.inj stepped
          simp only [Layout.step] at later ⊢
          omega
      | leave =>
          obtain rfl := LayoutStep.openedAfter?_leave.mp stepped
          simp only [Layout.step] at later ⊢
          omega

theorem forall₂_isIndented_writtenLines (level : Int) (steps : List LayoutStep) :
    List.Forall₂ IsIndented (steps.flatMap LayoutStep.texts) (writtenLines level steps) := by
  induction steps generalizing level with
  | nil => exact .nil
  | cons step rest inductionHypothesis =>
      cases step with
      | line text => exact .cons (isIndented_indented level text) (inductionHypothesis level)
      | embed text =>
          rw [List.flatMap_cons, writtenLines]
          refine List.rel_append ?_ (inductionHypothesis level)
          exact List.forall₂_map_right_iff.mpr
            (List.forall₂_same.mpr fun line _ => isIndented_indented level line)
      | enter => exact inductionHypothesis (level + 1)
      | leave => exact inductionHypothesis (level - 1)

theorem run_balanced {steps : List LayoutStep} (balanced : IsBalanced steps) (layout : Layout) :
    layout.run steps = ⟨layout.level, layout.lines ++ writtenLines layout.level steps⟩ := by
  have level := level_run balanced layout
  have lines := lines_run layout steps
  cases final : layout.run steps with
  | mk finalLevel finalLines =>
      rw [final] at level lines
      have sameLevel : finalLevel = layout.level := by simpa using level
      have sameLines : finalLines = layout.lines ++ writtenLines layout.level steps := by
        apply Array.toList_inj.mp
        rw [lines, Array.toList_appendList]
      rw [sameLevel, sameLines]

/-- Splitting a laid out text gives back its lines, unless nothing was written. -/
theorem lines_laidOut {steps : List LayoutStep} (single : ∀ step ∈ steps, step.IsSingle)
    (writes : ∃ step ∈ steps, step.Writes) (level : Int) :
    lines (laidOut level steps) = writtenLines level steps := by
  have startSingle : (Layout.mk level #[]).IsSingle := by simp [Layout.IsSingle]
  have allSingle := Layout.isSingle_run startSingle single
  rw [Layout.IsSingle, lines_run] at allSingle
  have someLines : writtenLines level steps ≠ [] := by
    obtain ⟨step, member, someTexts⟩ := writes
    obtain ⟨text, inTexts⟩ := List.exists_mem_of_ne_nil _ someTexts
    have inAll : text ∈ steps.flatMap LayoutStep.texts :=
      List.mem_flatMap.mpr ⟨step, member, inTexts⟩
    intro nothing
    have related := forall₂_isIndented_writtenLines level steps
    rw [nothing, List.forall₂_nil_right_iff] at related
    rw [related] at inAll
    exact List.not_mem_nil inAll
  have one : ∀ line ∈ writtenLines level steps, lines line = [line] := fun line member =>
    lines_eq_singleton (allSingle line (List.mem_append_right _ member))
  rw [laidOut_eq, lines_intercalate someLines, List.flatMap_congr one, List.flatMap_singleton']

/-- A text that balanced steps laid out at one level, embedded at another, appends the lines
that the steps append at the sum of the levels; the levels are the same afterwards, the text
splits into the lines that were written, and no blank line is indented. -/
theorem embed_laidOut {steps : List LayoutStep} (balanced : IsBalanced steps)
    (single : ∀ step ∈ steps, step.IsSingle) (writes : ∃ step ∈ steps, step.Writes)
    (inner outer : Nat) (before : Array String) :
    ∃ appended : List String,
      Layout.step ⟨outer, before⟩ (.embed (laidOut inner steps)) = ⟨outer, before ++ appended⟩ ∧
      Layout.run ⟨inner + outer, before⟩ steps = ⟨inner + outer, before ++ appended⟩ ∧
      List.Forall₂ IsIndented (steps.flatMap LayoutStep.texts) appended ∧
      Layout.run ⟨inner, #[]⟩ steps = ⟨inner, (lines (laidOut inner steps)).toArray⟩ ∧
      List.Forall₂ IsIndented (steps.flatMap LayoutStep.texts) (lines (laidOut inner steps)) := by
  have innerAbove : ((0 : Nat) : Int) ≤ inner := by omega
  have raised : writtenLines (inner + outer) steps =
      (writtenLines inner steps).map (Layout.indented outer) :=
    writtenLines_raised balanced innerAbove (by omega)
  refine ⟨writtenLines (inner + outer) steps, ?_, run_balanced balanced _,
    forall₂_isIndented_writtenLines _ steps, ?_, ?_⟩
  · rw [Layout.step, foldl_line, lines_laidOut single writes, raised]
  · rw [lines_laidOut single writes, run_balanced balanced]
    simp
  · rw [lines_laidOut single writes]
    exact forall₂_isIndented_writtenLines _ steps

/-- A group of one mesh, with a blank line in it. -/
def groupMarkup : List LayoutStep := [
  .line "<TresGroup>", .enter, .line "<TresMesh>", .enter, .line "<TresBoxGeometry />", .leave,
  .line "</TresMesh>", .line "", .leave, .line "</TresGroup>"]

theorem groupMarkup_embedded :
    IsBalanced groupMarkup ∧
      Layout.step ⟨2, #["<template>"]⟩ (.embed (laidOut 1 groupMarkup)) =
        ⟨2, #["<template>", "      <TresGroup>", "        <TresMesh>",
          "          <TresBoxGeometry />", "        </TresMesh>", "", "      </TresGroup>"]⟩ := by
  have balanced : IsBalanced groupMarkup := by decide
  have single : ∀ step ∈ groupMarkup, step.IsSingle := by decide
  have writes : ∃ step ∈ groupMarkup, step.Writes :=
    ⟨.line "<TresGroup>", List.mem_cons_self .., List.cons_ne_nil _ _⟩
  obtain ⟨appended, embedded, direct, _⟩ := embed_laidOut balanced single writes 1 2 #["<template>"]
  have written : (Layout.run ⟨3, #["<template>"]⟩ groupMarkup).lines =
      #["<template>", "      <TresGroup>", "        <TresMesh>", "          <TresBoxGeometry />",
        "        </TresMesh>", "", "      </TresGroup>"] := by decide +kernel
  refine ⟨balanced, embedded.trans ?_⟩
  rw [← written]
  exact congrArg (Layout.mk 2) (congrArg Layout.lines direct).symm

end SceneComponent.Text
