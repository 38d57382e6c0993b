import Mathlib
import SceneComponent.Proofs.Text.Marks
import SceneComponent.Text.Escapes

/-!
# Sections of a file

A file has sections, each of which ends at the closing tag of its name, wherever that
stands.  The rules of script literals leave less-than signs and slashes as they are, so
that a literal closes the sections that its text closes on its own.
-/

set_option autoImplicit false

namespace SceneComponent.Text

def sectionNames : List String := ["template", "script", "style"]

/-- What stands behind the less-than sign of the tag that closes a section. -/
def closingOf (name : String) : List Char := ("/" ++ name ++ ">").toList

def closedSection? (text : List Char) : Option String :=
  sectionNames.find? fun name => (closingOf name).isPrefixOf text

/-- The sections whose closing tags stand in a text, in order. -/
def sectionEnds (text : String) : List String := afterMarks closedSection? text.toList

theorem isPrefixOf_append_stop {pattern : List Char} {stop : Char} (free : stop ∉ pattern)
    (front back : List Char) :
    pattern.isPrefixOf (front ++ stop :: back) = pattern.isPrefixOf front := by
  induction pattern generalizing front with
  | nil => simp
  | cons p pattern inductionHypothesis =>
      simp only [List.mem_cons, not_or] at free
      cases front with
      | nil => simp [List.isPrefixOf, Ne.symm free.1]
      | cons c front =>
          rw [List.cons_append, List.isPrefixOf_cons_cons, List.isPrefixOf_cons_cons,
            inductionHypothesis free.2]

theorem closedSection?_congr {left right : List Char}
    (same : ∀ name ∈ sectionNames,
      (closingOf name).isPrefixOf left = (closingOf name).isPrefixOf right) :
    closedSection? left = closedSection? right := by
  simp only [sectionNames, List.forall_mem_cons] at same
  obtain ⟨template, script, style, _⟩ := same
  simp only [closedSection?, sectionNames, List.find?_cons, template, script, style, List.find?_nil]

theorem stopsAt_closedSection? {stop : Char}
    (free : ∀ name ∈ sectionNames, stop ∉ closingOf name) : StopsAt closedSection? stop :=
  fun front back => closedSection?_congr fun name known =>
    isPrefixOf_append_stop (free name known) front back

theorem closedSection?_eq_none_iff {text : List Char} :
    closedSection? text = none ↔ ∀ name ∈ sectionNames, ¬ closingOf name <+: text := by
  simp only [closedSection?, List.find?_eq_none, List.isPrefixOf_iff_prefix]

theorem feedStops : StopsAt closedSection? '\n' := stopsAt_closedSection? (by decide)

theorem closedSection?_of_ne {c : Char} (other : c ≠ '/') (rest : List Char) :
    closedSection? (c :: rest) = none := by
  refine closedSection?_eq_none_iff.mpr ?_
  rintro name _ ⟨back, same⟩
  have front : closingOf name = '/' :: (name ++ ">").toList := by simp [closingOf]
  rw [front, List.cons_append] at same
  exact other (List.cons.inj same).1.symm

/-- No section ends in a text that holds no closing tag of one. -/
theorem sectionEnds_eq_nil_iff {text : String} :
    sectionEnds text = [] ↔
      ∀ name ∈ sectionNames, ¬ ("</" ++ name ++ ">").toList <:+: text.toList := by
  have tag : ∀ name : String, ("</" ++ name ++ ">").toList = '<' :: closingOf name := by
    intro name
    simp [closingOf]
  rw [sectionEnds, afterMarks_eq_nil_iff]
  simp only [closedSection?_eq_none_iff, tag]
  constructor
  · rintro nowhere name known ⟨front, back, same⟩
    refine nowhere front (closingOf name ++ back) ?_ name known (List.prefix_append _ _)
    rw [← same, List.append_assoc]
    rfl
  · rintro free front back same name known ⟨rest, rfl⟩
    refine free name known ⟨front, rest, ?_⟩
    rw [same, List.append_assoc]
    rfl

/-! ## Script literals -/

theorem scriptEscape_cases (c : Char) :
    scriptEscape c = [c] ∨ (c ∈ ['\\', '\'', '\n'] ∧ ∃ other, scriptEscape c = ['\\', other] ∧
      other ≠ '<') := by
  unfold scriptEscape
  split
  · next same => exact .inr ⟨by simp [same], _, rfl, by decide⟩
  · split
    · next same => exact .inr ⟨by simp [same], _, rfl, by decide⟩
    · split
      · next same => exact .inr ⟨by simp [same], _, rfl, by decide⟩
      · exact .inl rfl

theorem isPrefixOf_escaped {pattern : List Char}
    (plain : ∀ c ∈ ['\\', '\'', '\n'], c ∉ pattern) (text : List Char) :
    pattern.isPrefixOf (text.flatMap scriptEscape) = pattern.isPrefixOf text := by
  induction pattern generalizing text with
  | nil => simp
  | cons p pattern inductionHypothesis =>
      have restPlain : ∀ c ∈ ['\\', '\'', '\n'], c ∉ pattern :=
        fun c special member => plain c special (List.mem_cons_of_mem _ member)
      have different : ∀ c ∈ ['\\', '\'', '\n'], (p == c) = false := by
        intro c special
        refine beq_eq_false_iff_ne.mpr ?_
        rintro rfl
        exact plain p special (List.mem_cons_self ..)
      cases text with
      | nil => rfl
      | cons c text =>
          rcases scriptEscape_cases c with same | ⟨special, other, escaped, _⟩
          · rw [List.flatMap_cons, same, List.singleton_append, List.isPrefixOf_cons_cons,
              List.isPrefixOf_cons_cons, inductionHypothesis restPlain]
          · rw [List.flatMap_cons, escaped, List.cons_append, List.isPrefixOf_cons_cons,
              List.isPrefixOf_cons_cons, different c special, different '\\' (by simp),
              Bool.false_and, Bool.false_and]

theorem closedSection?_escaped (text : List Char) :
    closedSection? (text.flatMap scriptEscape) = closedSection? text := by
  have plain : ∀ name ∈ sectionNames, ∀ c ∈ ['\\', '\'', '\n'], c ∉ closingOf name := by
    simp [sectionNames, closingOf]
  exact closedSection?_congr fun name known => isPrefixOf_escaped (plain name known) text

/-- Escaping for a literal keeps the closing tags of sections as they are. -/
theorem afterMarks_escaped (text : List Char) :
    afterMarks closedSection? (text.flatMap scriptEscape) = afterMarks closedSection? text := by
  induction text with
  | nil => rfl
  | cons c rest inductionHypothesis =>
      rcases scriptEscape_cases c with same | ⟨special, other, escaped, unmarked⟩
      · rw [List.flatMap_cons, same, List.singleton_append, afterMarks, afterMarks,
          closedSection?_escaped, inductionHypothesis]
      -- neither the backslash nor what stands behind it is a sign, as the character is none
      · have plain : c ≠ '<' := by
          rintro rfl
          exact absurd special (by decide)
        rw [List.flatMap_cons, escaped, List.cons_append, List.singleton_append,
          afterMarks_plain (by decide), afterMarks_plain unmarked, afterMarks_plain plain,
          inductionHypothesis]

/-- A literal closes what its text closes. -/
theorem afterMarks_literal {front back : String} (frontUnmarked : '<' ∉ front.toList)
    (backUnmarked : '<' ∉ back.toList) (text : String) :
    afterMarks closedSection? (front ++ scriptString text ++ back).toList = sectionEnds text := by
  have quoteStops : StopsAt closedSection? '\'' := stopsAt_closedSection? (by decide)
  have chars : (front ++ scriptString text ++ back).toList =
      front.toList ++ '\'' :: (text.toList.flatMap scriptEscape ++ '\'' :: back.toList) := by
    simp [scriptString, scriptCharacters]
  rw [chars, afterMarks_unmarked_append frontUnmarked, afterMarks_plain (by decide),
    afterMarks_append_stop quoteStops (by decide), afterMarks_escaped,
    afterMarks_unmarked backUnmarked, List.append_nil]
  rfl

theorem LayoutStep.marks_literal {front back : String} (frontUnmarked : '<' ∉ front.toList)
    (backUnmarked : '<' ∉ back.toList) (text : String) :
    (LayoutStep.line (front ++ scriptString text ++ back)).marks closedSection? =
      sectionEnds text := by
  rw [LayoutStep.marks_line, afterMarks_literal frontUnmarked backUnmarked]

end SceneComponent.Text
