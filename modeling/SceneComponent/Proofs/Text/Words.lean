import Mathlib
import SceneComponent.Identifier
import SceneComponent.Proofs.Text.Lines

/-!
# Words of code

What a script uses is read off its text: the words that stand in the code of its
lines, without the remarks.  A word is a longest run of letters, digits and
underscores, so that a name within a longer one does not count.
-/

set_option autoImplicit false

namespace SceneComponent.Text

open Identifier (isRest)

def codePart : List Char → List Char
  | [] => []
  | c :: rest => if c = '/' ∧ rest.head? = some '/' then [] else c :: codePart rest

def words (code : List Char) : List (List Char) := code.splitOnP fun c => !isRest c

def lineWords (line : List Char) : List (List Char) := words (codePart line)

def codeWords (text : String) : List (List Char) := (bareLines text).flatMap lineWords

/-- Whether a text uses a name in its code. -/
def Mentions (text name : String) : Prop := name.toList ∈ codeWords text

instance (text name : String) : Decidable (Mentions text name) :=
  inferInstanceAs (Decidable (name.toList ∈ codeWords text))

theorem codePart_remark {code : List Char} (plain : '/' ∉ code) (remark : List Char) :
    codePart (code ++ '/' :: '/' :: remark) = code := by
  induction code with
  | nil => simp [codePart]
  | cons c rest inductionHypothesis =>
      simp only [List.mem_cons, not_or] at plain
      have notSlash : ¬ (c = '/' ∧ (rest ++ '/' :: '/' :: remark).head? = some '/') :=
        fun both => plain.1 both.1.symm
      rw [List.cons_append, codePart, if_neg notSlash, inductionHypothesis plain.2]

/-- A character of no identifier separates words. -/
theorem words_separated (first rest : List Char) {separator : Char}
    (separates : isRest separator = false) :
    words (first ++ separator :: rest) = words first ++ words rest := by
  unfold words
  exact List.splitOnP_append_cons first rest (by simpa using separates)

theorem words_single {word : List Char} (whole : ∀ c ∈ word, isRest c = true) :
    words word = [word] := by
  unfold words
  refine List.splitOnP_eq_singleton ?_
  intro c member
  simp [whole c member]

namespace LayoutStep

def codeWords (step : LayoutStep) : List (List Char) := step.bare.flatMap lineWords

end LayoutStep

theorem codeWords_laidOut {level : Int} {steps : List LayoutStep}
    (single : ∀ step ∈ steps, step.IsSingle) (written : steps.flatMap LayoutStep.bare ≠ []) :
    codeWords (laidOut level steps) = steps.flatMap LayoutStep.codeWords := by
  rw [codeWords, bareLines_laidOut single written, List.flatMap_assoc]
  rfl

@[simp]
theorem flatMap_codeWords_deeper (steps : List LayoutStep) :
    (deeper steps).flatMap LayoutStep.codeWords = steps.flatMap LayoutStep.codeWords := by
  simp [deeper, LayoutStep.codeWords, LayoutStep.bare]

end SceneComponent.Text
