import Mathlib
import SceneComponent.Color
import SceneComponent.Proofs.Checked
import SceneComponent.Value.Literal

/-!
# Characters of numbers

The texts of numbers hold letters and digits of ASCII, points and signs only, and
lists of numbers add brackets and commas.  None of these characters ends a line,
a tag or a quoted text.
-/

set_option autoImplicit false

namespace SceneComponent

open Text

namespace Text

def isNumeral (c : Char) : Bool := isAsciiAlphanumeric c || c = '.' || c = '-' || c = '+'

def isListed (c : Char) : Bool := isNumeral c || c = '[' || c = ']' || c = ','

theorem isNumeral_of_isAlphanumeric {c : Char} (alphanumeric : isAsciiAlphanumeric c = true) :
    isNumeral c = true := by
  simp [isNumeral, alphanumeric]

theorem isListed_of_isNumeral {c : Char} (numeral : isNumeral c = true) : isListed c = true := by
  simp [isListed, numeral]

theorem mem_intercalate {separator : List Char} {pieces : List (List Char)} {c : Char}
    (member : c ∈ separator.intercalate pieces) : c ∈ separator ∨ ∃ piece ∈ pieces, c ∈ piece := by
  induction pieces with
  | nil => simp at member
  | cons piece rest inductionHypothesis =>
      cases rest with
      | nil =>
          rw [List.intercalate_singleton] at member
          exact .inr ⟨piece, List.mem_cons_self .., member⟩
      | cons next others =>
          simp only [List.intercalate_cons_cons, List.mem_append] at member
          rcases member with (inPiece | inSeparator) | inRest
          · exact .inr ⟨piece, List.mem_cons_self .., inPiece⟩
          · exact .inl inSeparator
          · rcases inductionHypothesis inRest with inSeparator | ⟨other, inOthers, inOther⟩
            · exact .inl inSeparator
            · exact .inr ⟨other, List.mem_cons_of_mem _ inOthers, inOther⟩

theorem isAlphanumeric_of_mem_toDigits {base n : Nat} {c : Char} (positive : 0 < base)
    (small : base ≤ 10) (member : c ∈ Nat.toDigits base n) : isAsciiAlphanumeric c = true := by
  have digit := Nat.isDigit_of_mem_toDigits positive small member
  simp only [Char.isDigit, Bool.and_eq_true, decide_eq_true_eq] at digit
  simp only [isAsciiAlphanumeric, isAsciiDigit, Bool.or_eq_true, Bool.and_eq_true,
    decide_eq_true_eq]
  exact .inr ⟨digit.1, digit.2⟩

theorem isDigit_of_mem_toString {n : Nat} {c : Char} (member : c ∈ (toString n).toList) :
    c.isDigit = true := by
  rw [Nat.toString_eq_ofList_toDigits, String.toList_ofList] at member
  exact Nat.isDigit_of_mem_toDigits (by decide) (by decide) member

theorem isAlphanumeric_of_mem_toString {n : Nat} {c : Char} (member : c ∈ (toString n).toList) :
    isAsciiAlphanumeric c = true := by
  have inDigits : c ∈ Nat.toDigits 10 n := by
    rwa [Nat.toString_eq_ofList_toDigits, String.toList_ofList] at member
  exact isAlphanumeric_of_mem_toDigits (by decide) (by decide) inDigits

theorem isAlphanumeric_digitChar {n : Nat} (small : n < 16) :
    isAsciiAlphanumeric (Nat.digitChar n) = true := by
  interval_cases n <;> decide

theorem isAlphanumeric_of_mem_fixedHex {width n : Nat} {c : Char}
    (member : c ∈ fixedHex width n) : isAsciiAlphanumeric c = true := by
  induction width generalizing n with
  | zero => cases member
  | succ width inductionHypothesis =>
      rw [fixedHex, List.mem_append, List.mem_singleton] at member
      rcases member with before | rfl
      · exact inductionHypothesis before
      · exact isAlphanumeric_digitChar (Nat.mod_lt _ (by decide))

end Text

namespace Decimal

theorem isNumeral_of_mem_digits {n : Nat} {c : Char} (member : c ∈ digits n) :
    isNumeral c = true :=
  isNumeral_of_isAlphanumeric
    (isAlphanumeric_of_mem_toDigits (by decide) (by decide) member)

theorem isNumeral_of_mem_positionalText {digits : List Char} {point : Int}
    (numerals : ∀ c ∈ digits, isNumeral c = true) :
    ∀ c ∈ positionalText digits point, isNumeral c = true := by
  have zero : isNumeral '0' = true := by decide
  have mark : isNumeral '.' = true := by decide
  intro c member
  unfold positionalText at member
  split at member
  · simp only [List.mem_append, List.mem_cons, List.mem_replicate] at member
    rcases member with (rfl | rfl | ⟨_, rfl⟩) | inDigits
    · exact zero
    · exact mark
    · exact zero
    · exact numerals c inDigits
  · split at member
    · simp only [List.mem_append, List.mem_cons, List.mem_replicate, List.not_mem_nil,
        or_false] at member
      rcases member with (inDigits | ⟨_, rfl⟩) | rfl | rfl
      · exact numerals c inDigits
      · exact zero
      · exact mark
      · exact zero
    · simp only [List.mem_append, List.mem_cons] at member
      rcases member with inFront | rfl | behind
      · exact numerals c (List.mem_of_mem_take inFront)
      · exact mark
      · exact numerals c (List.mem_of_mem_drop behind)

theorem isNumeral_of_mem_exponentText {exponent : Int} :
    ∀ c ∈ exponentText exponent, isNumeral c = true := by
  intro c member
  simp only [exponentText, List.cons_append, List.mem_cons, List.mem_append,
    List.mem_replicate] at member
  rcases member with rfl | ⟨_, rfl⟩ | inDigits
  · split <;> decide
  · decide
  · exact isNumeral_of_mem_digits inDigits

theorem isNumeral_of_mem_scientificText {digits : List Char} {leading : Int}
    (numerals : ∀ c ∈ digits, isNumeral c = true) :
    ∀ c ∈ scientificText digits leading, isNumeral c = true := by
  intro c member
  simp only [scientificText, List.append_assoc, List.mem_append, List.mem_cons] at member
  rcases member with inFront | inFraction | rfl | inExponent
  · exact numerals c (List.mem_of_mem_take inFront)
  · split at inFraction
    · cases inFraction
    · rcases List.mem_cons.mp inFraction with rfl | behind
      · decide
      · exact numerals c (List.mem_of_mem_drop behind)
  · decide
  · exact isNumeral_of_mem_exponentText c inExponent

theorem isNumeral_of_mem_text (decimal : Decimal) : ∀ c ∈ decimal.text, isNumeral c = true := by
  have numerals : ∀ c ∈ digits decimal.coefficient, isNumeral c = true := fun c =>
    isNumeral_of_mem_digits
  unfold text
  dsimp only
  split
  · exact isNumeral_of_mem_positionalText numerals
  · exact isNumeral_of_mem_scientificText numerals

end Decimal

theorem isNumeral_of_mem_doubleText (x : Float) :
    ∀ c ∈ (doubleText x).toList, isNumeral c = true := by
  unfold doubleText
  split
  · exact List.all_eq_true.mp rfl
  · have magnitude : ∀ c ∈ (if Binary64.isFinite x then
        (Decimal.shortest (Binary64.index x)).text else ['i', 'n', 'f']), isNumeral c = true := by
      split
      · exact Decimal.isNumeral_of_mem_text _
      · exact List.all_eq_true.mp rfl
    dsimp only
    rw [String.toList_ofList]
    split
    · exact List.forall_mem_cons.mpr ⟨by decide, magnitude⟩
    · exact magnitude

namespace Value

theorem isNumeral_of_mem_doubleLiteral (x : Float) :
    ∀ c ∈ (doubleLiteral x).toList, isNumeral c = true := by
  have sign : ∀ c ∈ (if Binary64.isNegative x then "-" else "").toList, isNumeral c = true := by
    split <;> exact List.all_eq_true.mp rfl
  unfold doubleLiteral
  dsimp only
  split
  · exact List.all_eq_true.mp rfl
  · split
    · rw [String.toList_append]
      exact List.forall_mem_append.mpr ⟨sign, List.all_eq_true.mp rfl⟩
    · split
      · exact List.all_eq_true.mp rfl
      · split
        · rw [String.toList_append]
          refine List.forall_mem_append.mpr ⟨sign, fun c member => ?_⟩
          exact isNumeral_of_isAlphanumeric (isAlphanumeric_of_mem_toString member)
        · exact isNumeral_of_mem_doubleText x

theorem isListed_of_mem_literals {numbers : List Float} :
    ∀ text ∈ literals (numbers.map .float), ∀ c ∈ text.toList, isListed c = true := by
  induction numbers with
  | nil => simp [literals]
  | cons number rest inductionHypothesis =>
      rw [List.map_cons, literals, literal]
      refine List.forall_mem_cons.mpr ⟨fun c member => ?_, inductionHypothesis⟩
      exact isListed_of_isNumeral (isNumeral_of_mem_doubleLiteral number c member)

theorem isListed_of_mem_list_literal (numbers : List Float) :
    ∀ c ∈ (literal (.list (numbers.map .float))).toList, isListed c = true := by
  have opening : ∀ c ∈ "[".toList, isListed c = true := List.all_eq_true.mp rfl
  have comma : ∀ c ∈ ",".toList, isListed c = true := List.all_eq_true.mp rfl
  have closing : ∀ c ∈ "]".toList, isListed c = true := List.all_eq_true.mp rfl
  rw [literal, String.toList_append, String.toList_append, String.toList_intercalate]
  refine List.forall_mem_append.mpr ⟨List.forall_mem_append.mpr ⟨opening, fun c member => ?_⟩, closing⟩
  rcases mem_intercalate member with inSeparator | ⟨piece, inPieces, inPiece⟩
  · exact comma c inSeparator
  · obtain ⟨text, inTexts, rfl⟩ := List.mem_map.mp inPieces
    exact isListed_of_mem_literals text inTexts c inPiece

end Value

namespace Color

theorem isAlphanumeric_of_channelDigits {channels : List Float} {digits : List Char}
    (written : channelDigits channels = .ok digits) :
    ∀ c ∈ digits, isAsciiAlphanumeric c = true := by
  induction channels generalizing digits with
  | nil => cases written; simp
  | cons channel rest inductionHypothesis =>
      rw [channelDigits] at written
      cases first : channelByte channel with
      | error failure => rw [first] at written; cases written
      | ok byte =>
          cases others : channelDigits rest with
          | error failure => rw [first, others] at written; cases written
          | ok restDigits =>
              rw [first, others] at written
              cases written
              refine List.forall_mem_append.mpr ⟨fun c => ?_, inductionHypothesis others⟩
              exact isAlphanumeric_of_mem_fixedHex

theorem isAlphanumeric_of_toHex {color : Value} {digits : String}
    (written : toHex color = .ok digits) :
    ∀ c ∈ digits.toList, isAsciiAlphanumeric c = true := by
  unfold toHex at written
  obtain ⟨array, _, written⟩ := Checked.bind_eq_ok.mp written
  split at written
  · cases written
  · obtain ⟨characters, channels, written⟩ := Checked.bind_eq_ok.mp written
    cases Checked.return_eq_ok.mp written
    rw [String.toList_ofList]
    exact isAlphanumeric_of_channelDigits channels
  · split at written
    · cases Checked.return_eq_ok.mp written
      simp
    · cases written

end Color

end SceneComponent
