import Mathlib
import SceneComponent.ModelPath
import SceneComponent.Proofs.Checked
import SceneComponent.Proofs.Text.Pieces

/-!
# Normal forms of model paths

The path of a model is settled by the segments of prefix and file name, the nonempty pieces
between their slashes: a slash, and the segments joined by single slashes.  Where the slashes
of the two stand and how many there are does not matter, so that a path is its own normal
form.
-/

set_option autoImplicit false

namespace SceneComponent.ModelPath

open Text

/-- The nonempty parts of a text between slashes. -/
def segments (text : String) : List (List Char) := piecesAt '/' text.toList

/-- A path that begins with a slash, repeats none and, the root apart, ends in none. -/
structure IsNormal (path : List Char) : Prop where
  absolute : path.head? = some '/'
  single : ¬ ['/', '/'] <:+: path
  closed : path.getLast? = some '/' → path = ['/']

/-! ## Runs of slashes -/

theorem collapse_run (rest : List Char) :
    collapse ('/' :: '/' :: rest) = collapse ('/' :: rest) := by
  rw [collapse]

theorem collapse_cons {c : Char} (notSlash : c ≠ '/') (rest : List Char) :
    collapse (c :: rest) = c :: collapse rest := by
  rw [collapse]
  intro others slash
  exact absurd slash notSlash

theorem collapse_word {word : List Char} (free : '/' ∉ word) (rest : List Char) :
    collapse (word ++ rest) = word ++ collapse rest := by
  induction word with
  | nil => rfl
  | cons c word inductionHypothesis =>
      rw [List.mem_cons, not_or] at free
      rw [List.cons_append, collapse_cons (Ne.symm free.1), inductionHypothesis free.2,
        List.cons_append]

theorem collapse_slash_word {word : List Char} (free : '/' ∉ word) (filled : word ≠ [])
    (rest : List Char) : collapse ('/' :: (word ++ rest)) = '/' :: (word ++ collapse rest) := by
  obtain ⟨c, others, rfl⟩ := List.exists_cons_of_ne_nil filled
  rw [← collapse_word free, List.cons_append, collapse]
  rintro more - same
  rw [(List.cons.inj same).1] at free
  exact free (List.mem_cons_self ..)

/-- Behind a slash, runs of slashes are collapsed to the ones between the segments. -/
theorem collapse_slash_text {text : List Char} (filled : text ≠ [])
    (ends : text.getLast? ≠ some '/') :
    collapse ('/' :: text) = '/' :: ['/'].intercalate (piecesAt '/' text) := by
  -- on the length: behind the first word of a text stands a shorter one
  induction length : text.length using Nat.strong_induction_on generalizing text with
  | _ n inductionHypothesis =>
  obtain ⟨word, free, rfl | ⟨rest, rfl⟩⟩ := exists_cut '/' text
  · have single := collapse_slash_word free filled []
    rw [List.append_nil] at single
    rw [single, piecesAt_word free filled, List.intercalate_singleton, collapse, List.append_nil]
  · have restFilled : rest ≠ [] := by
      rintro rfl
      simp at ends
    have restEnds : rest.getLast? ≠ some '/' := by
      rwa [List.getLast?_append_of_ne_nil _ (List.cons_ne_nil _ _),
        List.getLast?_cons_of_ne_nil restFilled] at ends
    have shorter : rest.length < n := by
      rw [List.length_append, List.length_cons] at length
      omega
    have collapsed := inductionHypothesis rest.length shorter restFilled restEnds rfl
    have pieces : piecesAt '/' rest ≠ [] := by
      refine piecesAt_ne_nil (List.getLast_mem restFilled) fun slash => restEnds ?_
      rw [List.getLast?_eq_some_getLast restFilled, slash]
    rw [piecesAt_append]
    by_cases empty : word = []
    · subst empty
      rw [List.nil_append, piecesAt_nil, List.nil_append, collapse_run, collapsed]
    · rw [collapse_slash_word free empty, piecesAt_word free empty, collapsed,
        List.singleton_append, List.intercalate_cons_of_ne_nil pieces]
      simp

theorem head?_collapse (text : List Char) : (collapse text).head? = text.head? := by
  fun_induction collapse text with
  | case1 rest inductionHypothesis => exact inductionHypothesis
  | case2 c rest apart inductionHypothesis => rfl
  | case3 => rfl

/-- A collapsed text has no two slashes in a row. -/
theorem isChain_collapse (text : List Char) :
    (collapse text).IsChain fun left right => ¬ (left = '/' ∧ right = '/') := by
  fun_induction collapse text with
  | case1 rest inductionHypothesis => exact inductionHypothesis
  | case2 c rest apart inductionHypothesis =>
      refine List.isChain_cons.mpr ⟨?_, inductionHypothesis⟩
      rintro next first ⟨rfl, rfl⟩
      rw [head?_collapse] at first
      obtain ⟨others, rfl⟩ := List.head?_eq_some_iff.mp first
      exact apart others rfl rfl
  | case3 => exact List.IsChain.nil

/-! ## Joined parts -/

theorem flatMap_trimmedParts (parts : List (List Char)) :
    (trimmedParts parts).flatMap (piecesAt '/') = parts.flatMap (piecesAt '/') := by
  induction parts with
  | nil => rfl
  | cons part rest inductionHypothesis =>
      have kept : piecesAt '/' (trim isSlash part) = piecesAt '/' part := piecesAt_trim part
      rw [trimmedParts, List.map_cons, List.filter_cons, List.flatMap_cons, ← kept]
      rw [trimmedParts] at inductionHypothesis
      split
      · rw [List.flatMap_cons, inductionHypothesis]
      · next empty =>
          have nothing : trim isSlash part = [] := by simpa using empty
          rw [nothing, piecesAt_nil, List.nil_append, inductionHypothesis]

theorem mem_trimmedParts {part : List Char} {parts : List (List Char)}
    (member : part ∈ trimmedParts parts) : part ≠ [] ∧ part.getLast? ≠ some '/' := by
  obtain ⟨inTrimmed, filled⟩ := List.mem_filter.mp member
  obtain ⟨given, _, rfl⟩ := List.mem_map.mp inTrimmed
  refine ⟨by simpa using filled, fun slash => ?_⟩
  have kept := getLast?_trim slash
  simp [isSlash] at kept

/-- Joined parts are the segments of all of them, joined by single slashes. -/
theorem join_eq (parts : List (List Char)) :
    join parts = '/' :: ['/'].intercalate (parts.flatMap (piecesAt '/')) := by
  rw [join, ← flatMap_trimmedParts]
  cases trimmed : trimmedParts parts with
  | nil => rfl
  | cons first rest =>
      have each : ∀ part ∈ first :: rest, part ≠ [] ∧ part.getLast? ≠ some '/' :=
        fun part member => mem_trimmedParts (trimmed ▸ member)
      obtain ⟨last, member, ends⟩ := getLast?_intercalate '/'
        (List.cons_ne_nil first rest) fun part inParts => (each part inParts).1
      rw [← piecesAt_joined]
      exact collapse_slash_text (intercalate_ne_nil (each first (List.mem_cons_self ..)).1 rest)
        (ends ▸ (each last member).2)

theorem isNormal_join (parts : List (List Char)) : IsNormal (join parts) where
  absolute := by rw [join_eq]; rfl
  single := by
    rintro ⟨front, back, whole⟩
    have chain : (front ++ ['/', '/'] ++ back).IsChain fun left right =>
        ¬ (left = '/' ∧ right = '/') := whole ▸ isChain_collapse _
    have slashes := (List.isChain_append.mp (List.isChain_append.mp chain).1).2.1
    simp at slashes
  closed := by
    rw [join_eq]
    intro slash
    cases pieces : parts.flatMap (piecesAt '/') with
    | nil => rfl
    | cons first rest =>
        have each : ∀ piece ∈ first :: rest, '/' ∉ piece ∧ piece ≠ [] := by
          intro piece member
          rw [← pieces] at member
          obtain ⟨part, _, inPart⟩ := List.mem_flatMap.mp member
          exact ⟨not_mem_of_mem_piecesAt inPart, ne_nil_of_mem_piecesAt inPart⟩
        obtain ⟨last, member, ends⟩ := getLast?_intercalate '/'
          (List.cons_ne_nil first rest) fun piece inPieces => (each piece inPieces).2
        rw [pieces, List.getLast?_cons_of_ne_nil
          (intercalate_ne_nil (each first (List.mem_cons_self ..)).2 rest), ends] at slash
        exact absurd (List.mem_of_getLast? slash) (each last member).1

/-! ## Paths of texts -/

theorem toOpenText_text (text : String) : (Value.text text).toOpenText = .ok text := by
  unfold Value.toOpenText
  split
  · rfl
  · next notGiven =>
      have empty : text = "" := by simpa [Value.isTruthy] using notGiven
      rw [empty]

theorem ofValues_text (fileName pathPrefix : String) :
    ofValues (.text fileName) (.text pathPrefix) = .ok (ofTexts fileName pathPrefix) := by
  rw [ofValues, toOpenText_text, toOpenText_text]
  rfl

theorem ofValues_null (fileName : String) :
    ofValues (.text fileName) .null = .ok (ofTexts fileName "") := by
  rw [ofValues, toOpenText_text]
  rfl

theorem toList_ofTexts (fileName pathPrefix : String) :
    (ofTexts fileName pathPrefix).toList =
      '/' :: ['/'].intercalate (segments pathPrefix ++ segments fileName) := by
  rw [ofTexts, String.toList_ofList, join_eq]
  simp [segments]

theorem segments_ofTexts (fileName pathPrefix : String) :
    segments (ofTexts fileName pathPrefix) = segments pathPrefix ++ segments fileName := by
  rw [segments, toList_ofTexts, piecesAt_cons]
  refine piecesAt_intercalate ?_ ?_
  · intro piece member
    rcases List.mem_append.mp member with inPrefix | inName
    · exact not_mem_of_mem_piecesAt inPrefix
    · exact not_mem_of_mem_piecesAt inName
  · intro piece member
    rcases List.mem_append.mp member with inPrefix | inName
    · exact ne_nil_of_mem_piecesAt inPrefix
    · exact ne_nil_of_mem_piecesAt inName

/-- Whatever texts are given, the path is the normal form of their segments.  Without a prefix
it is the path of itself. -/
theorem normal_form_of_segments (fileName pathPrefix : String) :
    ∃ path, ofValues (.text fileName) (.text pathPrefix) = .ok path ∧
      path.toList = '/' :: ['/'].intercalate (segments pathPrefix ++ segments fileName) ∧
      IsNormal path.toList ∧
      ofValues (.text path) (.text "") = .ok path ∧ ofValues (.text path) .null = .ok path := by
  have normal : IsNormal (ofTexts fileName pathPrefix).toList := by
    rw [ofTexts, String.toList_ofList]
    exact isNormal_join _
  have again : ofTexts (ofTexts fileName pathPrefix) "" = ofTexts fileName pathPrefix := by
    have none : segments "" = [] := piecesAt_nil '/'
    rw [← String.toList_inj, toList_ofTexts, toList_ofTexts, segments_ofTexts, none,
      List.nil_append]
  refine ⟨_, ofValues_text _ _, toList_ofTexts _ _, normal, ?_, ?_⟩
  · rw [ofValues_text, again]
  · rw [ofValues_null, again]

example : ofTexts "a//b.glb" "/x/" = "/x/a/b.glb" := by decide

end SceneComponent.ModelPath
