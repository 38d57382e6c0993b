import Mathlib
import SceneComponent.Text.Pattern

/-!
# Trimmed and cut texts

Trimming takes characters of a class off both ends and nothing else, so that what is left
neither begins nor ends with one, and padding around a word is taken off again.  A text is
cut where the characters of a class at its front end.
-/

set_option autoImplicit false

namespace SceneComponent.Text

theorem ne_of_holds {holds : Char → Bool} {c other : Char} (inside : holds c = true)
    (outside : holds other = false) : c ≠ other := by
  rintro rfl
  rw [inside] at outside
  cases outside

theorem mem_of_mem_trim {drops : Char → Bool} {chars : List Char} {c : Char}
    (member : c ∈ trim drops chars) : c ∈ chars := by
  rw [trim, List.mem_reverse] at member
  have inReverse := (List.dropWhile_sublist drops).subset member
  rw [List.mem_reverse] at inReverse
  exact (List.dropWhile_sublist drops).subset inReverse

theorem head?_trim {drops : Char → Bool} {chars : List Char} {first : Char}
    (leads : (trim drops chars).head? = some first) : drops first = false := by
  have atEnd := leads
  rw [trim, List.head?_reverse] at atEnd
  have suffix := List.dropWhile_suffix drops (l := (chars.dropWhile drops).reverse)
  obtain ⟨front, whole⟩ := suffix
  have notEmpty : ((chars.dropWhile drops).reverse.dropWhile drops) ≠ [] := by
    intro empty
    rw [empty] at atEnd
    cases atEnd
  have last : (chars.dropWhile drops).reverse.getLast? = some first := by
    rw [← whole, List.getLast?_append_of_ne_nil _ notEmpty, atEnd]
  rw [List.getLast?_reverse] at last
  have kept := List.head?_dropWhile_not drops chars
  rw [last] at kept
  exact kept

theorem getLast?_trim {drops : Char → Bool} {chars : List Char} {last : Char}
    (closes : (trim drops chars).getLast? = some last) : drops last = false := by
  rw [trim, List.getLast?_reverse] at closes
  have kept := List.head?_dropWhile_not drops (chars.dropWhile drops).reverse
  rw [closes] at kept
  exact kept

theorem dropWhile_padded {drops : Char → Bool} {padding word : List Char} (back : List Char)
    (padded : ∀ c ∈ padding, drops c = true) (kept : ∀ c ∈ word, drops c = false)
    (some : word ≠ []) : (padding ++ (word ++ back)).dropWhile drops = word ++ back := by
  obtain ⟨first, rest, rfl⟩ := List.exists_cons_of_ne_nil some
  have firstKept := kept first (List.mem_cons_self ..)
  rw [List.dropWhile_append_of_pos padded, List.cons_append, List.dropWhile_cons_of_neg]
  simp [firstKept]

theorem trim_padded {drops : Char → Bool} {front word back : List Char}
    (frontPadding : ∀ c ∈ front, drops c = true) (backPadding : ∀ c ∈ back, drops c = true)
    (kept : ∀ c ∈ word, drops c = false) : trim drops (front ++ (word ++ back)) = word := by
  unfold trim
  cases word with
  | nil =>
      have all : ∀ c ∈ front ++ ([] ++ back), drops c = true :=
        List.forall_mem_append.mpr ⟨frontPadding, backPadding⟩
      rw [List.dropWhile_eq_nil_iff.mpr all]
      rfl
  | cons first rest =>
      have backward : (first :: rest ++ back).reverse =
          back.reverse ++ ((first :: rest).reverse ++ []) := by simp
      rw [dropWhile_padded back frontPadding kept (List.cons_ne_nil _ _), backward,
        dropWhile_padded [] (by simpa using backPadding) (by simpa [or_comm] using kept) (by simp),
        List.append_nil, List.reverse_reverse]

theorem trim_eq_self {drops : Char → Bool} {chars : List Char}
    (kept : ∀ c ∈ chars, drops c = false) : trim drops chars = chars := by
  have padded := trim_padded (List.forall_mem_nil _) (List.forall_mem_nil _) kept
  rwa [List.nil_append, List.append_nil] at padded

/-- What trimming takes off stands in front of what is left and behind it. -/
theorem exists_padding (drops : Char → Bool) (chars : List Char) : ∃ front back,
    (∀ c ∈ front, drops c = true) ∧ (∀ c ∈ back, drops c = true) ∧
      chars = front ++ (trim drops chars ++ back) := by
  refine ⟨chars.takeWhile drops, ((chars.dropWhile drops).reverse.takeWhile drops).reverse,
    fun c => List.mem_takeWhile_imp, fun c member => ?_, ?_⟩
  · exact List.mem_takeWhile_imp (List.mem_reverse.mp member)
  · rw [trim, ← List.reverse_append, List.takeWhile_append_dropWhile, List.reverse_reverse,
      List.takeWhile_append_dropWhile]

theorem trim_eq_nil_iff {drops : Char → Bool} {chars : List Char} :
    trim drops chars = [] ↔ ∀ c ∈ chars, drops c = true := by
  constructor
  · intro empty
    obtain ⟨front, back, frontPadding, backPadding, whole⟩ := exists_padding drops chars
    rw [empty, List.nil_append] at whole
    rw [whole]
    exact List.forall_mem_append.mpr ⟨frontPadding, backPadding⟩
  · intro padding
    have padded := trim_padded padding (List.forall_mem_nil _) (List.forall_mem_nil _)
    rwa [List.append_nil, List.append_nil] at padded

theorem takeWhile_cut {inside : Char → Bool} {front rest : List Char}
    (all : ∀ c ∈ front, inside c = true) (stop : ∀ c, rest.head? = some c → inside c = false) :
    (front ++ rest).takeWhile inside = front := by
  rw [List.takeWhile_append_of_pos all]
  cases rest with
  | nil => exact List.append_nil front
  | cons c rest => rw [List.takeWhile_cons_of_neg (by simp [stop c rfl]), List.append_nil]

theorem dropWhile_cut {inside : Char → Bool} {front rest : List Char}
    (all : ∀ c ∈ front, inside c = true) (stop : ∀ c, rest.head? = some c → inside c = false) :
    (front ++ rest).dropWhile inside = rest := by
  rw [List.dropWhile_append_of_pos all]
  cases rest with
  | nil => rfl
  | cons c rest => rw [List.dropWhile_cons_of_neg (by simp [stop c rfl])]

/-- A word whose ends are kept is what trimming leaves, whatever stands inside it. -/
theorem trim_cut {drops : Char → Bool} {front word : List Char}
    (padding : ∀ c ∈ front, drops c = true) (opening : ∀ c, word.head? = some c → drops c = false)
    (closing : ∀ c, word.getLast? = some c → drops c = false) :
    trim drops (front ++ word) = word := by
  have backward : word.reverse.dropWhile drops = word.reverse := by
    refine dropWhile_cut (List.forall_mem_nil _) fun c first => closing c ?_
    rw [← List.head?_reverse]
    exact first
  rw [trim, dropWhile_cut padding opening, backward, List.reverse_reverse]

end SceneComponent.Text
