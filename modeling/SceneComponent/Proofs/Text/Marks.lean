import Mathlib
import SceneComponent.Proofs.Text.Lines

/-!
# Marks of markup

What stands after the less-than signs of a text is read sign by sign, by a reader
that looks at the characters behind each.  A reader that never looks past a line
feed reads a text line by line, so that a laid out text is read off its steps.
-/

set_option autoImplicit false

namespace SceneComponent.Text

variable {β : Type} {read : List Char → Option β}

/-- What is read after each less-than sign of a text, in order. -/
def afterMarks (read : List Char → Option β) : List Char → List β
  | [] => []
  | c :: rest => (if c = '<' then (read rest).toList else []) ++ afterMarks read rest

/-- Whether what is read never depends on what follows a character. -/
def StopsAt (read : List Char → Option β) (stop : Char) : Prop :=
  ∀ front back, read (front ++ stop :: back) = read front

theorem afterMarks_mark (rest : List Char) :
    afterMarks read ('<' :: rest) = (read rest).toList ++ afterMarks read rest := by
  rw [afterMarks, if_pos rfl]

theorem afterMarks_plain {c : Char} (plain : c ≠ '<') (rest : List Char) :
    afterMarks read (c :: rest) = afterMarks read rest := by
  rw [afterMarks, if_neg plain, List.nil_append]

theorem afterMarks_unmarked_append {front : List Char} (unmarked : '<' ∉ front)
    (back : List Char) : afterMarks read (front ++ back) = afterMarks read back := by
  induction front with
  | nil => rfl
  | cons c rest inductionHypothesis =>
      simp only [List.mem_cons, not_or] at unmarked
      rw [List.cons_append, afterMarks_plain (Ne.symm unmarked.1),
        inductionHypothesis unmarked.2]

theorem afterMarks_unmarked {text : List Char} (unmarked : '<' ∉ text) :
    afterMarks read text = [] := by
  have nothing : afterMarks read (text ++ []) = [] := afterMarks_unmarked_append unmarked []
  rwa [List.append_nil] at nothing

/-- At a stop a text falls into two that are read apart. -/
theorem afterMarks_append_stop {stop : Char} (stops : StopsAt read stop) (plain : stop ≠ '<')
    (front back : List Char) :
    afterMarks read (front ++ stop :: back) = afterMarks read front ++ afterMarks read back := by
  induction front with
  | nil => exact afterMarks_plain plain back
  | cons c rest inductionHypothesis =>
      rw [List.cons_append, afterMarks, afterMarks, stops rest back, inductionHypothesis,
        List.append_assoc]

theorem afterMarks_unindented (line : List Char) :
    afterMarks read (unindented line) = afterMarks read line := by
  have blank : '<' ∉ line.takeWhile (· == ' ') := by
    intro member
    exact absurd (List.mem_takeWhile_imp member) (by decide)
  conv_rhs => rw [← List.takeWhile_append_dropWhile (p := (· == ' ')) (l := line)]
  exact (afterMarks_unmarked_append blank _).symm

/-- Nothing is read exactly when nothing is read at any sign. -/
theorem afterMarks_eq_nil_iff {text : List Char} :
    afterMarks read text = [] ↔ ∀ front back, text = front ++ '<' :: back → read back = none := by
  induction text with
  | nil => simp [afterMarks]
  | cons c rest inductionHypothesis =>
      rw [afterMarks, List.append_eq_nil_iff, inductionHypothesis]
      constructor
      · rintro ⟨here, later⟩ front back same
        cases front with
        | nil =>
            obtain ⟨rfl, rfl⟩ := List.cons.inj same
            rw [if_pos rfl] at here
            exact Option.toList_eq_nil_iff.mp here
        | cons first others => exact later others back (List.cons.inj same).2
      · intro nowhere
        refine ⟨?_, fun front back same => nowhere (c :: front) back (congrArg (c :: ·) same)⟩
        split
        · next mark =>
            rw [mark] at nowhere
            exact Option.toList_eq_nil_iff.mpr (nowhere [] rest rfl)
        · rfl

/-! ## Line by line -/

theorem afterMarks_intercalate (stops : StopsAt read '\n') (pieces : List (List Char)) :
    afterMarks read (['\n'].intercalate pieces) = pieces.flatMap (afterMarks read) := by
  induction pieces with
  | nil => rfl
  | cons piece rest inductionHypothesis =>
      cases rest with
      | nil => simp
      | cons next others =>
          rw [List.intercalate_cons_cons, List.append_assoc, List.singleton_append,
            afterMarks_append_stop stops (by decide), inductionHypothesis]
          exact List.flatMap_cons.symm

theorem afterMarks_joined (stops : StopsAt read '\n') (parts : List String) :
    afterMarks read ("\n".intercalate parts).toList =
      parts.flatMap fun part => afterMarks read part.toList := by
  have feed : "\n".toList = ['\n'] := rfl
  rw [String.toList_intercalate, feed, afterMarks_intercalate stops, List.flatMap_map]

theorem afterMarks_bareLines (stops : StopsAt read '\n') (text : String) :
    (bareLines text).flatMap (afterMarks read) = afterMarks read text.toList := by
  have lines := afterMarks_intercalate stops (text.toList.splitOn '\n')
  rw [List.intercalate_splitOn] at lines
  rw [lines, bareLines, List.flatMap_map]
  exact List.flatMap_congr fun line _ => afterMarks_unindented line

/-- What is read off the lines of a step. -/
def LayoutStep.marks (read : List Char → Option β) (step : LayoutStep) : List β :=
  step.bare.flatMap (afterMarks read)

theorem LayoutStep.marks_line (text : String) :
    (LayoutStep.line text).marks read = afterMarks read text.toList := by
  rw [marks, bare, List.flatMap_singleton, afterMarks_unindented]

theorem LayoutStep.marks_embed (stops : StopsAt read '\n') (text : String) :
    (LayoutStep.embed text).marks read = afterMarks read text.toList :=
  afterMarks_bareLines stops text

@[simp]
theorem flatMap_marks_deeper (steps : List LayoutStep) :
    (deeper steps).flatMap (LayoutStep.marks read) = steps.flatMap (LayoutStep.marks read) := by
  simp [deeper, LayoutStep.marks, LayoutStep.bare]

/-- A laid out text is read off its steps, at any level. -/
theorem afterMarks_laidOut (stops : StopsAt read '\n') (level : Int) (steps : List LayoutStep) :
    afterMarks read (laidOut level steps).toList = steps.flatMap (LayoutStep.marks read) := by
  have empty : (Layout.mk level #[]).bare = [] := rfl
  have lines := Layout.bare_run (Layout.mk level #[]) steps
  rw [empty, List.nil_append, Layout.bare] at lines
  have byLines : (steps.flatMap LayoutStep.bare).flatMap (afterMarks read) =
      steps.flatMap (LayoutStep.marks read) := List.flatMap_assoc
  rw [laidOut, Layout.text, afterMarks_joined stops, ← byLines, ← lines, List.flatMap_map]
  exact (List.flatMap_congr fun line _ => afterMarks_unindented line.toList).symm

end SceneComponent.Text
