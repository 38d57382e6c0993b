import Mathlib
import SceneComponent.Text.Characters
import SceneComponent.Text.Escapes

/-!
# Reading string literals of the script

A literal opens with a single quote and closes with the next one that no backslash stands
before.  A backslash begins an escape, and neither a line feed nor a carriage return may stand
in a literal as it is.

What is written for a text is one literal of that text, wherever it stands and whatever
backslashes and quotes the text holds, unless there is a carriage return in the text: it is
written as it is, so that what is written is no literal at all.
-/

set_option autoImplicit false

namespace SceneComponent.Text

/-! ## The reader -/

/-- The letters that stand for control characters behind a backslash. -/
def controlLetters : List (Char × Char) :=
  [('n', '\n'), ('r', '\r'), ('t', '\t'), ('b', '\x08'), ('f', '\x0c'), ('v', '\x0b')]

/-- Whether a line of the script ends at a character. -/
def endsLine (c : Char) : Bool := c = '\n' || c = '\r'

/-- The character that an escape of one character stands for.  Escapes by number are left out,
and so are lines that are continued. -/
def escaped? (c : Char) : Option Char :=
  if isAsciiDigit c || c = 'x' || c = 'u' || endsLine c || c = '\u2028' || c = '\u2029' then none
  else some ((controlLetters.lookup c).getD c)

/-- Goes on within a literal: the text that is read, and what stands behind the quote that
closes it. -/
def readInside : List Char → Option (List Char × List Char)
  | [] => none
  | '\'' :: rest => some ([], rest)
  | ['\\'] => none
  | '\\' :: c :: rest =>
      (escaped? c).bind fun plain => (readInside rest).map (Prod.map (plain :: ·) id)
  | c :: rest => if endsLine c then none else (readInside rest).map (Prod.map (c :: ·) id)

def readLiteral? : List Char → Option (List Char × List Char)
  | '\'' :: rest => readInside rest
  | _ => none

/-- The text of a source that is a single literal. -/
def evaluated? (source : String) : Option String :=
  match readLiteral? source.toList with
  | some (chars, []) => some (String.ofList chars)
  | _ => none

/-! ## What is written -/

theorem readInside_scriptEscape (c : Char) (rest : List Char) :
    readInside (scriptEscape c ++ rest) =
      if c = '\r' then none else (readInside rest).map (Prod.map (c :: ·) id) := by
  unfold scriptEscape
  split
  · next backslash =>
    rw [backslash]
    rfl
  · next noBackslash =>
    split
    · next quote =>
      rw [quote]
      rfl
    · next noQuote =>
      split
      · next feed =>
        rw [feed]
        rfl
      · next noFeed =>
        have ends : endsLine c = decide (c = '\r') := by
          rw [endsLine, decide_eq_false noFeed, Bool.false_or]
        rw [List.singleton_append, readInside]
        · rw [ends]
          simp only [decide_eq_true_eq]
        · exact noQuote
        · exact fun same _ => noBackslash same
        · exact fun _ _ same _ => noBackslash same

theorem readInside_escaped (chars rest : List Char) :
    readInside (chars.flatMap scriptEscape ++ '\'' :: rest) =
      if '\r' ∈ chars then none else some (chars, rest) := by
  induction chars with
  | nil => rfl
  | cons c others inductionHypothesis =>
      rw [List.flatMap_cons, List.append_assoc, readInside_scriptEscape, inductionHypothesis]
      by_cases first : c = '\r'
      · rw [if_pos first, if_pos (by simp [first])]
      · rw [if_neg first]
        by_cases inOthers : '\r' ∈ others
        · rw [if_pos inOthers, if_pos (List.mem_cons_of_mem _ inOthers), Option.map_none]
        · rw [if_neg inOthers, if_neg (by simp [inOthers, Ne.symm first]), Option.map_some]
          rfl

/-- A written literal is read up to its last character, whatever stands behind it. -/
theorem readLiteral?_scriptString (text : String) (rest : List Char) :
    readLiteral? ((scriptString text).toList ++ rest) =
      if '\r' ∈ text.toList then none else some (text.toList, rest) := by
  have chars : (scriptString text).toList ++ rest =
      '\'' :: (text.toList.flatMap scriptEscape ++ '\'' :: rest) := by
    simp [scriptString, scriptCharacters]
  rw [chars, readLiteral?, readInside_escaped]

/-- What is written for a text is a single literal of that text, exactly when the text holds no
carriage return; else it is no literal. -/
theorem evaluated?_scriptString (text : String) :
    evaluated? (scriptString text) = if '\r' ∈ text.toList then none else some text := by
  have read := readLiteral?_scriptString text []
  rw [List.append_nil] at read
  rw [evaluated?, read]
  by_cases held : '\r' ∈ text.toList
  · rw [if_pos held, if_pos held]
  · simp only [if_neg held, String.ofList_toList]

/-- A carriage return is left as it is, and so ends the line within the quotes. -/
theorem carriageReturn_not_evaluated :
    scriptString "a\rb" = "'a\rb'" ∧ evaluated? (scriptString "a\rb") = none := by
  decide +kernel

end SceneComponent.Text
