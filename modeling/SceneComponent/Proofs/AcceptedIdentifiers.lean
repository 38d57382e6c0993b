import Mathlib
import SceneComponent.Proofs.Names
import SceneComponent.Proofs.Text.Lines

/-!
# Accepted identifiers

What is accepted is a line of text that holds an identifier and nothing else, with or without
the line feed that ends it.  So acceptance decides the grammar of identifiers at every text but
the lines that an identifier and a line feed make.
-/

set_option autoImplicit false

namespace SceneComponent.Identifier

open Text

/-- A text by the grammar of identifiers: a letter of ASCII or an underscore comes first, and
what follows, up to the very end, are letters, digits and underscores of ASCII. -/
structure IsGrammatical (text : String) : Prop where
  nonempty : text ≠ ""
  opens : ∀ first, text.toList.head? = some first → isAsciiLetter first = true ∨ first = '_'
  follows : ∀ c ∈ text.toList.tail,
    isAsciiLetter c = true ∨ isAsciiDigit c = true ∨ c = '_'

/-- An identifier and the line feed that ends its line. -/
def IsEndedLine (text : String) : Prop := ∃ name, IsGrammatical name ∧ text = name ++ "\n"

theorem isStart_iff {c : Char} : isStart c = true ↔ isAsciiLetter c = true ∨ c = '_' := by
  rw [isStart, Bool.or_eq_true, decide_eq_true_eq]

theorem isRest_iff {c : Char} :
    isRest c = true ↔ isAsciiLetter c = true ∨ isAsciiDigit c = true ∨ c = '_' := by
  rw [isRest, isAsciiAlphanumeric, Bool.or_eq_true, Bool.or_eq_true, decide_eq_true_eq, or_assoc]

theorem isGrammatical_iff {text : String} :
    IsGrammatical text ↔ spells text.toList = true := by
  cases chars : text.toList with
  | nil =>
      have empty : text = "" := String.toList_eq_nil_iff.mp chars
      exact ⟨fun grammatical => absurd empty grammatical.nonempty, fun spelled => by cases spelled⟩
  | cons first rest =>
      rw [spells, Bool.and_eq_true, List.all_eq_true, isStart_iff]
      constructor
      · intro grammatical
        refine ⟨grammatical.opens first (by rw [chars, List.head?_cons]), fun c member => ?_⟩
        exact isRest_iff.mpr (grammatical.follows c (by rwa [chars, List.tail_cons]))
      · rintro ⟨start, others⟩
        refine ⟨?_, fun c head => ?_, fun c member => ?_⟩
        · rintro rfl
          cases chars
        · rw [chars, List.head?_cons] at head
          cases head
          exact start
        · rw [chars, List.tail_cons] at member
          exact isRest_iff.mp (others c member)

theorem feed_not_mem_of_spells {chars : List Char} (spelled : spells chars = true) :
    '\n' ∉ chars :=
  feed_not_mem (isRest_of_spells spelled) (by decide)

/-- Characters without a final line feed spell an identifier exactly when the characters
themselves do, or are an identifier and that line feed. -/
theorem spells_withoutFinalBreak {chars : List Char} :
    spells (withoutFinalBreak chars) = true ↔
      spells chars = true ∨ ∃ word, spells word = true ∧ chars = word ++ ['\n'] := by
  unfold withoutFinalBreak
  split
  · next feed =>
      -- the line feed is no part of an identifier, so the whole text spells none
      obtain ⟨front, rfl⟩ := List.getLast?_eq_some_iff.mp feed
      rw [List.dropLast_concat]
      constructor
      · intro spelled
        exact .inr ⟨front, spelled, rfl⟩
      · rintro (spelled | ⟨word, spelled, same⟩)
        · exact absurd (List.mem_of_getLast? feed) (feed_not_mem_of_spells spelled)
        · rwa [List.append_cancel_right same]
  · next noFeed =>
      constructor
      · exact .inl
      · rintro (spelled | ⟨word, _, rfl⟩)
        · exact spelled
        · exact absurd List.getLast?_concat noFeed

theorem isEndedLine_iff {text : String} :
    IsEndedLine text ↔ ∃ word, spells word = true ∧ text.toList = word ++ ['\n'] := by
  constructor
  · rintro ⟨name, grammatical, rfl⟩
    exact ⟨name.toList, isGrammatical_iff.mp grammatical, String.toList_append⟩
  · rintro ⟨word, spelled, cut⟩
    refine ⟨String.ofList word, ?_, ?_⟩
    · rw [isGrammatical_iff, String.toList_ofList]
      exact spelled
    · rw [← String.toList_inj, String.toList_append, String.toList_ofList]
      exact cut

/-- No line with its line feed is an identifier. -/
theorem IsEndedLine.not_isGrammatical {text : String} (line : IsEndedLine text) :
    ¬ IsGrammatical text := by
  obtain ⟨word, _, cut⟩ := isEndedLine_iff.mp line
  intro grammatical
  refine feed_not_mem_of_spells (isGrammatical_iff.mp grammatical) ?_
  rw [cut]
  exact List.mem_append_right _ (List.mem_singleton_self _)

/-- Identifiers are accepted, and the lines that they make with a line feed, and nothing else;
so acceptance decides the grammar at a text exactly unless the text is such a line. -/
theorem accepted_iff (text : String) :
    (accepts text = true ↔ IsGrammatical text ∨ IsEndedLine text) ∧
      ((accepts text = true ↔ IsGrammatical text) ↔ ¬ IsEndedLine text) := by
  have accepted : accepts text = true ↔ IsGrammatical text ∨ IsEndedLine text := by
    rw [accepts, spells_withoutFinalBreak, isGrammatical_iff, isEndedLine_iff]
  refine ⟨accepted, fun decides line => ?_, fun noLine => ?_⟩
  · exact line.not_isGrammatical (decides.mp (accepted.mpr (.inr line)))
  · rw [accepted, or_iff_left noLine]

/-- A name with a line feed behind it is accepted. -/
theorem endedCube_accepted : accepts "Cube\n" = true ∧ ¬ IsGrammatical "Cube\n" := by
  refine ⟨by decide, fun grammatical => ?_⟩
  exact absurd (isGrammatical_iff.mp grammatical) (by decide)

end SceneComponent.Identifier
