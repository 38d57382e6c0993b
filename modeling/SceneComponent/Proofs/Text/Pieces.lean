import Mathlib
import SceneComponent.Proofs.Text.Lines
import SceneComponent.Proofs.Text.Numerals
import SceneComponent.Proofs.Text.Trimming

/-!
# Pieces between separators

The nonempty pieces of a text do not depend on how many separators stand between them, in
front of them or behind them: a text joined of others by a separator has the pieces of all of
them, and so has a text from whose ends separators were trimmed.
-/

set_option autoImplicit false

namespace SceneComponent.Text

variable {separator : Char}

@[simp]
theorem piecesAt_nil (separator : Char) : piecesAt separator [] = [] := by
  simp [piecesAt]

theorem not_mem_of_mem_piecesAt {text piece : List Char}
    (member : piece ∈ piecesAt separator text) : separator ∉ piece :=
  not_mem_of_mem_splitOn (List.mem_filter.mp member).1

theorem ne_nil_of_mem_piecesAt {text piece : List Char}
    (member : piece ∈ piecesAt separator text) : piece ≠ [] := by
  simpa using (List.mem_filter.mp member).2

theorem piecesAt_append (front back : List Char) :
    piecesAt separator (front ++ separator :: back) =
      piecesAt separator front ++ piecesAt separator back := by
  rw [piecesAt, List.splitOn_append_cons_self, List.filter_append, piecesAt, piecesAt]

theorem piecesAt_cons (text : List Char) :
    piecesAt separator (separator :: text) = piecesAt separator text := by
  rw [← List.nil_append (separator :: text), piecesAt_append, piecesAt_nil, List.nil_append]

theorem piecesAt_word {word : List Char} (free : separator ∉ word) (filled : word ≠ []) :
    piecesAt separator word = [word] := by
  rw [piecesAt, List.splitOn_eq_singleton free]
  simp [filled]

theorem piecesAt_separators {text : List Char} (all : ∀ c ∈ text, c = separator) :
    piecesAt separator text = [] := by
  induction text with
  | nil => exact piecesAt_nil separator
  | cons c text inductionHypothesis =>
      obtain ⟨rfl, rest⟩ := List.forall_mem_cons.mp all
      rw [piecesAt_cons, inductionHypothesis rest]

/-- A text is a word, or a word and a text behind a separator. -/
theorem exists_cut (separator : Char) (text : List Char) : ∃ word, separator ∉ word ∧
    (text = word ∨ ∃ rest, text = word ++ separator :: rest) := by
  induction text with
  | nil => exact ⟨[], List.not_mem_nil, .inl rfl⟩
  | cons c text inductionHypothesis =>
      by_cases same : c = separator
      · exact ⟨[], List.not_mem_nil, .inr ⟨text, by rw [same, List.nil_append]⟩⟩
      · obtain ⟨word, free, cut⟩ := inductionHypothesis
        have freeWord : separator ∉ c :: word := by
          rw [List.mem_cons, not_or]
          exact ⟨Ne.symm same, free⟩
        refine ⟨c :: word, freeWord, ?_⟩
        rcases cut with rfl | ⟨rest, rfl⟩
        · exact .inl rfl
        · exact .inr ⟨rest, rfl⟩

/-- A text that holds anything but separators has a piece. -/
theorem piecesAt_ne_nil {text : List Char} {c : Char} (member : c ∈ text)
    (other : c ≠ separator) : piecesAt separator text ≠ [] := by
  intro none
  have whole : [separator].intercalate (text.splitOn separator) = text :=
    List.intercalate_splitOn separator
  rw [← whole] at member
  rcases mem_intercalate member with inSeparator | ⟨piece, inPieces, inPiece⟩
  · exact other (List.mem_singleton.mp inSeparator)
  · have kept : piece ∈ piecesAt separator text :=
      List.mem_filter.mpr ⟨inPieces, decide_eq_true (List.ne_nil_of_mem inPiece)⟩
    rw [none] at kept
    cases kept

theorem piecesAt_padded {front back : List Char} (text : List Char)
    (frontPadding : ∀ c ∈ front, c = separator) (backPadding : ∀ c ∈ back, c = separator) :
    piecesAt separator (front ++ (text ++ back)) = piecesAt separator text := by
  have behind : piecesAt separator (text ++ back) = piecesAt separator text := by
    cases back with
    | nil => rw [List.append_nil]
    | cons c back =>
        obtain ⟨rfl, rest⟩ := List.forall_mem_cons.mp backPadding
        rw [piecesAt_append, piecesAt_separators rest, List.append_nil]
  induction front with
  | nil => exact behind
  | cons c front inductionHypothesis =>
      obtain ⟨rfl, rest⟩ := List.forall_mem_cons.mp frontPadding
      rw [List.cons_append, piecesAt_cons, inductionHypothesis rest]

theorem piecesAt_trim (text : List Char) :
    piecesAt separator (trim (· == separator) text) = piecesAt separator text := by
  obtain ⟨front, back, frontPadding, backPadding, whole⟩ :=
    exists_padding (· == separator) text
  conv_rhs => rw [whole]
  exact (piecesAt_padded _ (fun c member => beq_iff_eq.mp (frontPadding c member))
    (fun c member => beq_iff_eq.mp (backPadding c member))).symm

/-- A joined text has the pieces of all its parts. -/
theorem piecesAt_joined (parts : List (List Char)) :
    piecesAt separator ([separator].intercalate parts) = parts.flatMap (piecesAt separator) := by
  induction parts with
  | nil => simp
  | cons part rest inductionHypothesis =>
      cases rest with
      | nil => simp
      | cons next others =>
          rw [List.intercalate_cons_cons, List.append_assoc, List.singleton_append,
            piecesAt_append, inductionHypothesis]
          rfl

theorem intercalate_ne_nil {part : List Char} (filled : part ≠ []) (rest : List (List Char)) :
    [separator].intercalate (part :: rest) ≠ [] := by
  cases rest with
  | nil => rwa [List.intercalate_singleton]
  | cons next others =>
      rw [List.intercalate_cons_cons]
      simp

/-- A joined text ends as one of its parts does. -/
theorem getLast?_intercalate (separator : Char) {parts : List (List Char)} (some : parts ≠ [])
    (filled : ∀ part ∈ parts, part ≠ []) :
    ∃ part ∈ parts, ([separator].intercalate parts).getLast? = part.getLast? := by
  induction parts with
  | nil => exact absurd rfl some
  | cons part rest inductionHypothesis =>
      cases rest with
      | nil => exact ⟨part, List.mem_cons_self .., by rw [List.intercalate_singleton]⟩
      | cons next others =>
          have restFilled := (List.forall_mem_cons.mp filled).2
          obtain ⟨last, member, ends⟩ := inductionHypothesis (List.cons_ne_nil _ _) restFilled
          refine ⟨last, List.mem_cons_of_mem _ member, ?_⟩
          rw [List.intercalate_cons_cons, List.getLast?_append_of_ne_nil _
            (intercalate_ne_nil (restFilled next (List.mem_cons_self ..)) others), ends]

end SceneComponent.Text
