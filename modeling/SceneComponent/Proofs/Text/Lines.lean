import Mathlib
import SceneComponent.Text.Layout

/-!
# Lines of a laid out text

The lines of a text without their indentation are those of the steps that laid
it out, whatever the level of each.  No step may hold a line feed in a line of
its own; an embedded text brings its lines along.
-/

set_option autoImplicit false

namespace SceneComponent.Text

def unindented (line : List Char) : List Char := line.dropWhile (· == ' ')

def bareLines (text : String) : List (List Char) := (text.toList.splitOn '\n').map unindented

theorem not_mem_of_mem_splitOn {separator : Char} :
    ∀ {text piece : List Char}, piece ∈ text.splitOn separator → separator ∉ piece := by
  intro text
  induction text with
  | nil => simp
  | cons c text inductionHypothesis =>
      intro piece member
      rw [List.splitOn_cons_eq_if_modifyHead] at member
      obtain ⟨first, rest, pieces⟩ := List.exists_cons_of_ne_nil (List.splitOn_ne_nil separator text)
      rw [pieces] at member inductionHypothesis
      by_cases same : c = separator
      · rw [if_pos (beq_iff_eq.mpr same)] at member
        rcases List.mem_cons.mp member with rfl | inRest
        · exact List.not_mem_nil
        · exact inductionHypothesis inRest
      · rw [if_neg (by simpa using same), List.modifyHead_cons] at member
        rcases List.mem_cons.mp member with rfl | inRest
        · have notFirst := inductionHypothesis (List.mem_cons_self ..)
          simpa [Ne.symm same] using notFirst
        · exact inductionHypothesis (List.mem_cons_of_mem _ inRest)

/-- A list is told from what its members are written as, if each member is told. -/
theorem eq_of_map_eq {α β : Type} {write : α → β} {left right : List α}
    (told : ∀ x ∈ left, ∀ y ∈ right, write x = write y → x = y)
    (same : left.map write = right.map write) : left = right := by
  induction left generalizing right with
  | nil => exact (List.map_eq_nil_iff.mp same.symm).symm
  | cons first rest inductionHypothesis =>
      cases right with
      | nil => cases same
      | cons other others =>
          obtain ⟨firsts, rests⟩ := List.cons.inj same
          have restTold : ∀ x ∈ rest, ∀ y ∈ others, write x = write y → x = y :=
            fun x inRest y inOthers =>
              told x (List.mem_cons_of_mem _ inRest) y (List.mem_cons_of_mem _ inOthers)
          rw [told first (List.mem_cons_self ..) other (List.mem_cons_self ..) firsts,
            inductionHypothesis restTold rests]

/-- The nonempty pieces between separators. -/
def piecesAt (separator : Char) (text : List Char) : List (List Char) :=
  (text.splitOn separator).filter (· ≠ [])

/-- Nonempty texts are told from what they are joined to by a separator that none of them
holds. -/
theorem piecesAt_intercalate {separator : Char} {texts : List (List Char)}
    (free : ∀ piece ∈ texts, separator ∉ piece) (filled : ∀ piece ∈ texts, piece ≠ []) :
    piecesAt separator ([separator].intercalate texts) = texts := by
  unfold piecesAt
  cases texts with
  | nil => simp
  | cons first rest =>
      rw [List.splitOn_intercalate separator free (List.cons_ne_nil _ _)]
      exact List.filter_eq_self.mpr fun piece member => decide_eq_true (filled piece member)

theorem unindented_visible {line : List Char} (visible : line.head? ≠ some ' ') :
    unindented line = line := by
  cases line with
  | nil => rfl
  | cons first rest =>
      rw [unindented, List.dropWhile_cons_of_neg]
      simpa using visible

/-- A class of characters without the line feed keeps a text on one line. -/
theorem feed_not_mem {holds : Char → Bool} {chars : List Char}
    (all : ∀ c ∈ chars, holds c = true) (excluded : holds '\n' = false) : '\n' ∉ chars := by
  intro member
  rw [all _ member] at excluded
  cases excluded

theorem unindented_indented (level : Int) (text : String) :
    unindented (Layout.indented level text).toList = unindented text.toList := by
  unfold Layout.indented
  by_cases empty : text.isEmpty
  · rw [if_pos empty, String.isEmpty_iff.mp empty]
  · rw [if_neg empty, String.toList_append, Layout.indentation, String.toList_ofList]
    unfold unindented
    rw [List.dropWhile_append_of_pos]
    intro c member
    simp [List.eq_of_mem_replicate member]

theorem feed_not_mem_indented {level : Int} {text : String} (single : '\n' ∉ text.toList) :
    '\n' ∉ (Layout.indented level text).toList := by
  unfold Layout.indented
  split
  · simp
  · rw [String.toList_append, List.mem_append, Layout.indentation, String.toList_ofList]
    rintro (inIndentation | inText)
    · exact absurd (List.eq_of_mem_replicate inIndentation) (by decide)
    · exact single inText

namespace LayoutStep

def bare : LayoutStep → List (List Char)
  | .line text => [unindented text.toList]
  | .embed text => bareLines text
  | .enter => []
  | .leave => []

/-- Whether a step writes no line feed within a line. -/
def IsSingle : LayoutStep → Prop
  | .line text => '\n' ∉ text.toList
  | _ => True

instance : DecidablePred IsSingle
  | .line text => inferInstanceAs (Decidable ('\n' ∉ text.toList))
  | .embed _ => isTrue trivial
  | .enter => isTrue trivial
  | .leave => isTrue trivial

end LayoutStep

namespace Layout

def bare (layout : Layout) : List (List Char) :=
  layout.lines.toList.map fun line => unindented line.toList

def IsSingle (layout : Layout) : Prop := ∀ line ∈ layout.lines.toList, '\n' ∉ line.toList

theorem bare_line (layout : Layout) (text : String) :
    (layout.line text).bare = layout.bare ++ [unindented text.toList] := by
  simp [bare, line, unindented_indented]

theorem isSingle_line {layout : Layout} {text : String} (single : layout.IsSingle)
    (lineSingle : '\n' ∉ text.toList) : (layout.line text).IsSingle := by
  intro written member
  simp only [line, Array.toList_push, List.mem_append, List.mem_singleton] at member
  rcases member with before | rfl
  · exact single written before
  · exact feed_not_mem_indented lineSingle

theorem bare_foldl_line (layout : Layout) (texts : List String) :
    (texts.foldl line layout).bare =
      layout.bare ++ texts.map fun text => unindented text.toList := by
  induction texts generalizing layout with
  | nil => simp
  | cons text rest inductionHypothesis =>
      rw [List.foldl_cons, inductionHypothesis, bare_line]
      simp

theorem isSingle_foldl_line {layout : Layout} {texts : List String} (single : layout.IsSingle)
    (textsSingle : ∀ text ∈ texts, '\n' ∉ text.toList) :
    (texts.foldl line layout).IsSingle := by
  induction texts generalizing layout with
  | nil => exact single
  | cons text rest inductionHypothesis =>
      obtain ⟨headSingle, restSingle⟩ := List.forall_mem_cons.mp textsSingle
      exact inductionHypothesis (isSingle_line single headSingle) restSingle

theorem bare_step (layout : Layout) (step : LayoutStep) :
    (layout.step step).bare = layout.bare ++ step.bare := by
  cases step with
  | line text => exact bare_line layout text
  | embed text =>
      refine (bare_foldl_line layout (Text.lines text)).trans ?_
      simp [LayoutStep.bare, bareLines, Text.lines]
  | enter => exact (List.append_nil _).symm
  | leave => exact (List.append_nil _).symm

theorem isSingle_step {layout : Layout} {step : LayoutStep} (single : layout.IsSingle)
    (stepSingle : step.IsSingle) : (layout.step step).IsSingle := by
  cases step with
  | line text => exact isSingle_line single stepSingle
  | embed text =>
      refine isSingle_foldl_line single ?_
      intro line member
      obtain ⟨piece, inPieces, rfl⟩ := List.mem_map.mp member
      rw [String.toList_ofList]
      exact not_mem_of_mem_splitOn inPieces
  | enter => exact single
  | leave => exact single

/-- A run writes the lines of its steps after those that are there. -/
theorem bare_run (layout : Layout) (steps : List LayoutStep) :
    (layout.run steps).bare = layout.bare ++ steps.flatMap LayoutStep.bare := by
  induction steps generalizing layout with
  | nil => exact (List.append_nil _).symm
  | cons step rest inductionHypothesis =>
      have remaining := inductionHypothesis (layout.step step)
      rw [bare_step, List.append_assoc] at remaining
      exact remaining

theorem isSingle_run {layout : Layout} {steps : List LayoutStep} (single : layout.IsSingle)
    (stepsSingle : ∀ step ∈ steps, step.IsSingle) : (layout.run steps).IsSingle := by
  induction steps generalizing layout with
  | nil => exact single
  | cons step rest inductionHypothesis =>
      obtain ⟨headSingle, restSingle⟩ := List.forall_mem_cons.mp stepsSingle
      exact inductionHypothesis (isSingle_step single headSingle) restSingle

/-- The lines of a text are those that were written, unless nothing was. -/
theorem bareLines_text {layout : Layout} (single : layout.IsSingle)
    (written : layout.bare ≠ []) : bareLines layout.text = layout.bare := by
  have someLines : layout.lines.toList.map String.toList ≠ [] := by
    intro none
    apply written
    rw [bare, List.map_eq_nil_iff.mp none, List.map_nil]
  have pieces : layout.text.toList.splitOn '\n' = layout.lines.toList.map String.toList := by
    rw [text, String.toList_intercalate]
    refine List.splitOn_intercalate '\n' ?_ someLines
    intro piece member
    obtain ⟨line, inLines, rfl⟩ := List.mem_map.mp member
    exact single line inLines
  rw [bareLines, pieces, List.map_map]
  rfl

end Layout

theorem bareLines_laidOut {level : Int} {steps : List LayoutStep}
    (single : ∀ step ∈ steps, step.IsSingle) (written : steps.flatMap LayoutStep.bare ≠ []) :
    bareLines (laidOut level steps) = steps.flatMap LayoutStep.bare := by
  have startSingle : (Layout.mk level #[]).IsSingle := by simp [Layout.IsSingle]
  have lines := Layout.bare_run (Layout.mk level #[]) steps
  have empty : (Layout.mk level #[]).bare = [] := rfl
  rw [empty, List.nil_append] at lines
  rw [laidOut, Layout.bareLines_text (Layout.isSingle_run startSingle single) (lines ▸ written),
    lines]

@[simp]
theorem flatMap_bare_deeper (steps : List LayoutStep) :
    (deeper steps).flatMap LayoutStep.bare = steps.flatMap LayoutStep.bare := by
  simp [deeper, LayoutStep.bare]

theorem forall_mem_deeper {holds : LayoutStep → Prop} {steps : List LayoutStep}
    (entering : holds .enter) (leaving : holds .leave) (within : ∀ step ∈ steps, holds step) :
    ∀ step ∈ deeper steps, holds step := by
  intro step member
  rw [deeper, List.cons_append, List.mem_cons, List.mem_append, List.mem_singleton] at member
  rcases member with rfl | inSteps | rfl
  · exact entering
  · exact within step inSteps
  · exact leaving

/-! ## Lines of joined texts -/

theorem splitOn_append_feed (first rest : String) :
    (first ++ "\n" ++ rest).toList.splitOn '\n' =
      first.toList.splitOn '\n' ++ rest.toList.splitOn '\n' := by
  have feed : "\n".toList = ['\n'] := rfl
  rw [String.toList_append, String.toList_append, feed, List.append_assoc, List.singleton_append,
    List.splitOn_append_cons_self]

theorem splitOn_intercalate_feed {parts : List String} (someParts : parts ≠ []) :
    ("\n".intercalate parts).toList.splitOn '\n' =
      parts.flatMap fun part => part.toList.splitOn '\n' := by
  induction parts with
  | nil => exact absurd rfl someParts
  | cons part rest inductionHypothesis =>
      cases rest with
      | nil => simp
      | cons next others =>
          rw [String.intercalate_cons_cons, splitOn_append_feed,
            inductionHypothesis (List.cons_ne_nil _ _)]
          rfl

theorem bareLines_append_feed (first rest : String) :
    bareLines (first ++ "\n" ++ rest) = bareLines first ++ bareLines rest := by
  rw [bareLines, splitOn_append_feed, List.map_append]
  rfl

theorem bareLines_intercalate {parts : List String} (someParts : parts ≠ []) :
    bareLines ("\n".intercalate parts) = parts.flatMap bareLines := by
  rw [bareLines, splitOn_intercalate_feed someParts, List.map_flatMap]
  rfl

theorem lines_append_feed (first rest : String) :
    lines (first ++ "\n" ++ rest) = lines first ++ lines rest := by
  rw [lines, splitOn_append_feed, List.map_append]
  rfl

theorem lines_intercalate {parts : List String} (someParts : parts ≠ []) :
    lines ("\n".intercalate parts) = parts.flatMap lines := by
  rw [lines, splitOn_intercalate_feed someParts, List.map_flatMap]
  rfl

theorem lines_eq_singleton {text : String} (single : '\n' ∉ text.toList) : lines text = [text] := by
  rw [lines, List.splitOn_eq_singleton single, List.map_singleton, String.ofList_toList]

/-! ## Written lines -/

/-- The lines that steps write from a level on. -/
def writtenLines (level : Int) : List LayoutStep → List String
  | [] => []
  | .line text :: rest => Layout.indented level text :: writtenLines level rest
  | .embed text :: rest => (lines text).map (Layout.indented level) ++ writtenLines level rest
  | .enter :: rest => writtenLines (level + 1) rest
  | .leave :: rest => writtenLines (level - 1) rest

theorem foldl_line (layout : Layout) (texts : List String) :
    texts.foldl Layout.line layout =
      ⟨layout.level, layout.lines ++ texts.map (Layout.indented layout.level)⟩ := by
  induction texts generalizing layout with
  | nil => simp
  | cons text rest inductionHypothesis =>
      rw [List.foldl_cons, inductionHypothesis, Layout.line]
      simp

theorem lines_run (layout : Layout) (steps : List LayoutStep) :
    (layout.run steps).lines.toList = layout.lines.toList ++ writtenLines layout.level steps := by
  induction steps generalizing layout with
  | nil => exact (List.append_nil _).symm
  | cons step rest inductionHypothesis =>
      have remaining := inductionHypothesis (layout.step step)
      rw [Layout.run] at remaining
      rw [Layout.run, List.foldl_cons, remaining]
      cases step with
      | line text => simp [Layout.step, Layout.line, writtenLines]
      | embed text => simp [Layout.step, foldl_line, writtenLines]
      | enter => rfl
      | leave => rfl

theorem laidOut_eq (level : Int) (steps : List LayoutStep) :
    laidOut level steps = "\n".intercalate (writtenLines level steps) := by
  rw [laidOut, Layout.text, lines_run, List.nil_append]

theorem indented_zero (text : String) : Layout.indented 0 text = text := by
  unfold Layout.indented
  split
  · next empty => exact (String.isEmpty_iff.mp empty).symm
  · exact String.empty_append

theorem laidOut_zero_lines (texts : List String) :
    laidOut 0 (texts.map .line) = "\n".intercalate texts := by
  have same : writtenLines 0 (texts.map .line) = texts := by
    induction texts with
    | nil => rfl
    | cons text rest inductionHypothesis =>
        rw [List.map_cons, writtenLines, indented_zero, inductionHypothesis]
  rw [laidOut_eq, same]

end SceneComponent.Text
