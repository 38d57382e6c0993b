import Mathlib
import SceneComponent.Text.Pattern

/-!
# Removed parts of a text

A suffix is taken off once, at the end, while the occurrences of a pattern are all taken
out.  `Stripped` says what is left by reading a text from left to right, one occurrence or
one character after the other.
-/

set_option autoImplicit false

namespace SceneComponent.Text

/-! ## Suffixes -/

theorem hasSuffix_append (stem suffix : String) : hasSuffix suffix (stem ++ suffix) = true := by
  rw [hasSuffix, String.toList_append]
  exact List.isSuffixOf_iff_suffix.mpr (List.suffix_append ..)

theorem withoutSuffix_append (stem suffix : String) :
    withoutSuffix suffix (stem ++ suffix) = stem := by
  rw [withoutSuffix, if_pos (hasSuffix_append stem suffix), String.toList_append,
    List.length_append, Nat.add_sub_cancel, List.take_left, String.ofList_toList]

theorem withoutSuffix_eq_self {suffix text : String} (missing : hasSuffix suffix text = false) :
    withoutSuffix suffix text = text := by
  rw [withoutSuffix, missing, if_neg Bool.false_ne_true]

/-- A stem is what a text leaves if the text is the stem with the suffix, or the stem itself. -/
theorem withoutSuffix_eq_iff {suffix text stem : String} (bare : hasSuffix suffix stem = false) :
    withoutSuffix suffix text = stem ↔ text = stem ∨ text = stem ++ suffix := by
  constructor
  · intro left
    by_cases ends : hasSuffix suffix text = true
    · obtain ⟨front, whole⟩ := List.isSuffixOf_iff_suffix.mp ends
      have joined : text = String.ofList front ++ suffix := by
        rw [← String.toList_inj, String.toList_append, String.toList_ofList, whole]
      rw [joined, withoutSuffix_append] at left
      exact .inr (by rw [joined, left])
    · rw [withoutSuffix_eq_self (by simpa using ends)] at left
      exact .inl left
  · rintro (rfl | rfl)
    · exact withoutSuffix_eq_self bare
    · exact withoutSuffix_append stem suffix

/-! ## Patterns -/

/-- What is left of a text whose occurrences of a pattern are taken out from left to right. -/
inductive Stripped (pattern : List Char) : (text left : List Char) → Prop where
  | nil : Stripped pattern [] []
  | occurrence {text left : List Char} (rest : Stripped pattern text left) :
      Stripped pattern (pattern ++ text) left
  | character {c : Char} {text left : List Char} (elsewhere : ¬ pattern <+: c :: text)
      (rest : Stripped pattern text left) : Stripped pattern (c :: text) (c :: left)

theorem removePattern_pending (pattern front text : List Char) :
    removePattern pattern front.length (front ++ text) = removePattern pattern 0 text := by
  induction front with
  | nil => rfl
  | cons c rest inductionHypothesis => exact inductionHypothesis

theorem removePattern_occurrence {pattern : List Char} (filled : pattern ≠ [])
    (text : List Char) :
    removePattern pattern 0 (pattern ++ text) = removePattern pattern 0 text := by
  obtain ⟨first, others, rfl⟩ := List.exists_cons_of_ne_nil filled
  have found : afterPattern? (first :: others) (first :: (others ++ text)) = some text :=
    afterPattern?_eq_some_iff.mpr rfl
  simp only [List.cons_append, removePattern, found]
  exact removePattern_pending (first :: others) others text

theorem removePattern_character {pattern : List Char} {c : Char} {text : List Char}
    (elsewhere : ¬ pattern <+: c :: text) :
    removePattern pattern 0 (c :: text) = c :: removePattern pattern 0 text := by
  have missed : afterPattern? pattern (c :: text) = none := by
    refine Option.eq_none_iff_forall_ne_some.mpr fun rest found => elsewhere ?_
    exact ⟨rest, (afterPattern?_eq_some_iff.mp found).symm⟩
  simp only [removePattern, missed]

theorem stripped_removePattern {pattern : List Char} (filled : pattern ≠ [])
    (text : List Char) : Stripped pattern text (removePattern pattern 0 text) := by
  induction length : text.length using Nat.strong_induction_on generalizing text with
  | _ size inductionHypothesis =>
      by_cases found : pattern <+: text
      · obtain ⟨rest, rfl⟩ := found
        have shorter : rest.length < size := by
          have := List.length_pos_iff.mpr filled
          rw [← length, List.length_append]
          omega
        rw [removePattern_occurrence filled]
        exact .occurrence (inductionHypothesis _ shorter rest rfl)
      · cases text with
        | nil => exact .nil
        | cons c rest =>
            rw [removePattern_character found]
            exact .character found
              (inductionHypothesis _ (by rw [← length, List.length_cons]; omega) rest rfl)

theorem removePattern_eq_iff {pattern : List Char} (filled : pattern ≠ [])
    {text left : List Char} :
    removePattern pattern 0 text = left ↔ Stripped pattern text left := by
  constructor
  · rintro rfl
    exact stripped_removePattern filled text
  · intro stripped
    induction stripped with
    | nil => rfl
    | occurrence rest inductionHypothesis =>
        rw [removePattern_occurrence filled, inductionHypothesis]
    | character elsewhere rest inductionHypothesis =>
        rw [removePattern_character elsewhere, inductionHypothesis]

theorem withoutPattern_eq_iff {pattern text left : String} (filled : pattern ≠ "") :
    withoutPattern pattern text = left ↔
      Stripped pattern.toList text.toList left.toList := by
  rw [← removePattern_eq_iff (by simpa using filled), withoutPattern, ← String.toList_inj,
    String.toList_ofList]

end SceneComponent.Text
