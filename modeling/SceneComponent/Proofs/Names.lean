import Mathlib
import SceneComponent.Identifier
import SceneComponent.Proofs.Text.Numerals
import SceneComponent.Proofs.Text.Trimming
import SceneComponent.Proofs.Value.Dictionaries

/-!
# Names that spell identifiers

Cleaning leaves letters, digits and underscores of ASCII, and what it leaves
begins with no digit.  So whatever the name and the fallback, the result spells
an identifier, and so does the name that a component takes from a file.
-/

set_option autoImplicit false

namespace SceneComponent

open Text

theorem Value.intText_natCast (n : Nat) : Value.intText (n : Int) = toString n := by
  unfold Value.intText
  rw [if_neg (by omega), Int.natAbs_natCast]

namespace Identifier

/-! ## Classes of characters -/

theorem isAsciiLetter_eq_isAlpha (c : Char) : isAsciiLetter c = c.isAlpha := by
  rw [isAsciiLetter, Char.isAlpha, Char.isUpper, Char.isLower, Bool.decide_and, Bool.or_comm]
  rfl

theorem isUpper_iff {c : Char} : c.isUpper = true ↔ 65 ≤ c.toNat ∧ c.toNat ≤ 90 := by
  simp [Char.isUpper, UInt32.le_iff_toNat_le, ← Char.toNat_val]

theorem isLower_iff {c : Char} : c.isLower = true ↔ 97 ≤ c.toNat ∧ c.toNat ≤ 122 := by
  simp [Char.isLower, UInt32.le_iff_toNat_le, ← Char.toNat_val]

theorem isDigit_iff {c : Char} : isAsciiDigit c = true ↔ 48 ≤ c.toNat ∧ c.toNat ≤ 57 := by
  simp [isAsciiDigit, Char.le_def, UInt32.le_iff_toNat_le, ← Char.toNat_val]

theorem isLetter_iff {c : Char} : isAsciiLetter c = true ↔ c.isUpper = true ∨ c.isLower = true := by
  rw [isAsciiLetter_eq_isAlpha, Char.isAlpha, Bool.or_eq_true]

/-! ## Identifiers of names -/

theorem isRest_of_isAlphanumeric {c : Char} (alphanumeric : isAsciiAlphanumeric c = true) :
    isRest c = true := by
  rw [isRest, alphanumeric, Bool.true_or]

theorem isRest_of_spells {chars : List Char} (spelled : spells chars = true) :
    ∀ c ∈ chars, isRest c = true := by
  cases chars with
  | nil => cases spelled
  | cons first rest =>
      rw [spells, Bool.and_eq_true, List.all_eq_true] at spelled
      refine List.forall_mem_cons.mpr ⟨?_, spelled.2⟩
      have start := spelled.1
      simp only [isStart, isRest, isAsciiAlphanumeric, Bool.or_eq_true] at start ⊢
      rcases start with letter | underscore
      · exact .inl (.inl letter)
      · exact .inr underscore

theorem spells_append {front back : List Char} (spelled : spells front = true)
    (rest : ∀ c ∈ back, isRest c = true) : spells (front ++ back) = true := by
  cases front with
  | nil => cases spelled
  | cons first others =>
      rw [spells, Bool.and_eq_true, List.all_eq_true] at spelled
      rw [List.cons_append, spells, Bool.and_eq_true, List.all_eq_true]
      exact ⟨spelled.1, List.forall_mem_append.mpr ⟨spelled.2, rest⟩⟩

/-- Characters of an identifier spell one once a leading digit is guarded, unless they begin
with an underscore. -/
theorem spells_guardDigit {first : Char} {rest : List Char}
    (plain : ∀ c ∈ first :: rest, isRest c = true) (leading : (first == '_') = false) :
    spells (guardDigit (first :: rest)) = true := by
  obtain ⟨firstRest, restRest⟩ := List.forall_mem_cons.mp plain
  rw [guardDigit]
  by_cases digit : isAsciiDigit first = true
  · rw [if_pos digit, spells, Bool.and_eq_true, List.all_eq_true]
    exact ⟨rfl, plain⟩
  · rw [if_neg digit, spells, Bool.and_eq_true, List.all_eq_true]
    refine ⟨?_, restRest⟩
    simp only [isRest, isAsciiAlphanumeric, Bool.or_eq_true, decide_eq_true_eq] at firstRest
    rw [isStart, Bool.or_eq_true]
    rcases firstRest with (letter | isDigit) | underscore
    · exact .inl letter
    · exact absurd isDigit digit
    · simp [underscore] at leading

/-- Cleaned characters spell an identifier, if any are left. -/
theorem spells_clean {chars : List Char} (left : clean chars ≠ []) :
    spells (clean chars) = true := by
  have replaced : ∀ c ∈ trim (· == '_')
      (chars.map fun c => if isAsciiAlphanumeric c then c else '_'), isRest c = true := by
    intro c member
    obtain ⟨given, _, rfl⟩ := List.mem_map.mp (mem_of_mem_trim member)
    split
    · exact isRest_of_isAlphanumeric ‹_›
    · rfl
  have leading : ∀ first, (trim (· == '_')
      (chars.map fun c => if isAsciiAlphanumeric c then c else '_')).head? = some first →
        (first == '_') = false := fun first => head?_trim
  unfold clean at left ⊢
  cases trimmed : trim (· == '_')
      (chars.map fun c => if isAsciiAlphanumeric c then c else '_') with
  | nil => rw [trimmed] at left; exact absurd rfl left
  | cons first rest =>
      rw [trimmed] at replaced leading
      exact spells_guardDigit replaced (leading first rfl)

theorem spells_cleanFallback (fallback : String) :
    spells (cleanFallback fallback).toList = true := by
  unfold cleanFallback
  dsimp only
  split
  · rfl
  · next left =>
      rw [String.toList_ofList]
      exact spells_clean (by simpa using left)

/-- The identifier of a name spells one, if its suffix may stand in one. -/
theorem spells_resolve {raw fallback suffix : String}
    (suffixRest : ∀ c ∈ suffix.toList, isRest c = true) :
    spells (resolve raw fallback suffix).toList = true := by
  unfold resolve
  dsimp only
  split
  · rw [String.toList_append]
    exact spells_append (spells_cleanFallback fallback) suffixRest
  · next left =>
      rw [String.toList_ofList]
      exact spells_clean (by simpa using left)

theorem isRest_of_mem_ordinalSuffix (index : Nat) :
    ∀ c ∈ (ordinalSuffix (some (index : Int))).toList, isRest c = true := by
  rw [ordinalSuffix, Value.intText_natCast, String.toList_append]
  refine List.forall_mem_append.mpr ⟨List.all_eq_true.mp rfl, fun c member => ?_⟩
  exact isRest_of_isAlphanumeric (isAlphanumeric_of_mem_toString member)

theorem spells_ofName (raw fallback : String) (index : Nat) :
    spells (ofName raw fallback (some (index : Int))).toList = true :=
  spells_resolve (isRest_of_mem_ordinalSuffix index)

theorem ofValue_eq_ofName {raw : Value} {name : String} (index : Nat)
    (text : raw.toName = .ok name) :
    ofValue raw (.text "Mesh") (.int index) = .ok (ofName name "Mesh" (some index)) := by
  unfold ofValue ofName resolve
  rw [text]
  cases cleaned : clean name.toList with
  | nil =>
      simp only [bind, Except.bind, cleaned, pure, Except.pure]
      rfl
  | cons first rest => simp [bind, Except.bind, cleaned, pure, Except.pure]

theorem spells_ofValue {raw : Value} {name : String} (index : Nat)
    (success : ofValue raw (.text "Mesh") (.int index) = .ok name) :
    spells name.toList = true := by
  have opened := success
  unfold ofValue at opened
  obtain ⟨given, text, _⟩ := Checked.bind_eq_ok.mp opened
  rw [ofValue_eq_ofName index text] at success
  rw [← Except.ok.inj success]
  exact spells_ofName given "Mesh" index

/-! ## Component names -/

theorem isAlphanumeric_toUpper {c : Char} (alphanumeric : isAsciiAlphanumeric c = true) :
    isAsciiAlphanumeric c.toUpper = true := by
  by_cases lower : c.isLower = true
  · have letter : c.toUpper.isAlpha = true := by
      rw [Char.isAlpha_toUpper_eq_isAlpha, Char.isAlpha, lower, Bool.or_true]
    rw [isAsciiAlphanumeric, isAsciiLetter_eq_isAlpha, letter, Bool.true_or]
  · rwa [Char.toUpper_eq_of_not_isLower lower]

/-- What holds of the capitals of letters and digits and of those that are listed holds of all
that a character is written as in capitals. -/
theorem forall_mem_capitals {holds : Char → Bool}
    (plain : ∀ c, isAsciiAlphanumeric c = true → holds c.toUpper = true)
    (listed : ∀ entry ∈ expandingCapitals, entry.2.all holds = true) (given : Char) :
    ∀ c ∈ capitals given, holds c = true := by
  intro c member
  unfold capitals at member
  split at member
  · next alphanumeric =>
      rw [List.mem_singleton.mp member]
      exact plain given alphanumeric
  · cases found : expandingCapitals.lookup given with
    | none => simp [found] at member
    | some letters =>
        rw [found, Option.getD_some] at member
        exact List.all_eq_true.mp (listed _ (mem_of_lookup found)) c member

theorem isAlphanumeric_of_mem_capitals {c given : Char} (member : c ∈ capitals given) :
    isAsciiAlphanumeric c = true := by
  have listed : ∀ entry ∈ expandingCapitals, entry.2.all isAsciiAlphanumeric = true := by
    decide
  exact forall_mem_capitals (fun _ => isAlphanumeric_toUpper) listed given c member

theorem isAlphanumeric_of_mem_capitalized {c : Char} {chars : List Char}
    (member : c ∈ capitalized chars) : isAsciiAlphanumeric c = true := by
  cases chars with
  | nil => cases member
  | cons first rest =>
      rcases List.mem_append.mp member with inCapitals | kept
      · exact isAlphanumeric_of_mem_capitals inCapitals
      · exact (List.mem_filter.mp kept).2

/-- The name of a component spells an identifier, whatever the file is called. -/
theorem spells_componentName (fileName : String) :
    spells (componentName fileName).toList = true := by
  unfold componentName
  dsimp only
  cases name : capitalized (baseName fileName.toList) with
  | nil => rfl
  | cons first rest =>
      have alphanumeric : ∀ c ∈ first :: rest, isAsciiAlphanumeric c = true := fun c member =>
        isAlphanumeric_of_mem_capitalized (name ▸ member)
      have leading : (first == '_') = false := by
        have letter := alphanumeric first (List.mem_cons_self ..)
        refine beq_eq_false_iff_ne.mpr ?_
        rintro rfl
        exact absurd letter (by decide)
      rw [if_neg (by simp), String.toList_ofList]
      exact spells_guardDigit
        (fun c member => isRest_of_isAlphanumeric (alphanumeric c member)) leading

end Identifier

end SceneComponent
