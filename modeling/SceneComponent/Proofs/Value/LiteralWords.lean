import Mathlib
import SceneComponent.Proofs.Decimal.SignedText
import SceneComponent.Proofs.Value.Literals

/-!
# Literals of one word

Truth values and numbers are single words of the script.  A word of digits alone stands for
that integer, however long it is; a word with a point or an exponent is a decimal, of which
the script takes the nearest double.  Digits with a zero in front that they do not need are
refused.

Every integer is written as a word of digits, and a double is written as one only if that
integer is its exact value.
-/

set_option autoImplicit false

namespace SceneComponent

open Binary64 Text

/-! ## Literals -/

/-- Literals as the script reads them. -/
inductive Literal where
  | truth (value : Bool)
  | whole (number : Int)
  | decimal (number : SignedDecimal)
  | infinity (negative : Bool)
  | undefined
  | list (items : List Literal)

namespace Literal

/-- Whether digits begin with a zero that they do not need. -/
def hasIdleZero : List Char → Bool
  | '0' :: next :: _ => isAsciiDigit next
  | _ => false

def ofMagnitude (negative : Bool) (chars : List Char) (decimal : Decimal) : Option Literal :=
  if hasIdleZero chars then none
  else if chars.all isAsciiDigit then some (.whole (signed negative decimal.coefficient))
  else some (.decimal ⟨negative, decimal⟩)

/-- The literal of one word, which may have a sign. -/
def ofWord? (word : List Char) : Option Literal :=
  let (negative, magnitude) := Decimal.splitSign word
  if word = "true".toList then some (.truth true)
  else if word = "false".toList then some (.truth false)
  else if magnitude = "NaN".toList then some .undefined
  else if magnitude = "Infinity".toList then some (.infinity negative)
  else (Decimal.readMagnitude? magnitude).bind (ofMagnitude negative magnitude)

/-- What a literal stands for.  Zeros are not told apart by their signs. -/
inductive Denotes : Literal → Value → Prop
  | truth (value : Bool) : Denotes (.truth value) (.bool value)
  | integer (number : Int) : Denotes (.whole number) (.int number)
  | whole {x : Float} {integer : Int} (nearest : IsNearest integer x)
      (exact : number x = integer) : Denotes (.whole integer) (.float x)
  | decimal {x : Float} {written : SignedDecimal} (nearest : IsNearest written.value x) :
      Denotes (.decimal written) (.float x)
  | infinite {x : Float} (infinite : index x = infiniteIndex) :
      Denotes (.infinity (isNegative x)) (.float x)
  | undefined {x : Float} (unknown : isNaN x = true) : Denotes .undefined (.float x)
  | list {items : List Literal} {values : List Value} (each : List.Forall₂ Denotes items values) :
      Denotes (.list items) (.list values)

/-! ## Words with digits -/

theorem hasIdleZero_cons {first : Char} (rest : List Char) (nonzero : first ≠ '0') :
    hasIdleZero (first :: rest) = false := by
  unfold hasIdleZero
  split
  · next same =>
      cases same
      exact absurd rfl nonzero
  · rfl

theorem ofWord?_of_magnitude (negative : Bool) {chars : List Char} {decimal : Decimal}
    (read : Decimal.readMagnitude? chars = some decimal) :
    ofWord? (if negative then '-' :: chars else chars) = ofMagnitude negative chars decimal := by
  obtain ⟨first, rest, rfl, digitOrPoint⟩ := Decimal.head_of_readMagnitude? read
  have unnamed : ∀ (name : String) {c : Char}, name.toList.head? = some c →
      ¬ (isAsciiDigit c = true ∨ c = '.') → first :: rest ≠ name.toList := by
    intro name c head noDigit same
    rw [← same] at head
    exact noDigit (Option.some.inj head ▸ digitOrPoint)
  have unnamedWord : ∀ (name : String) {c : Char}, name.toList.head? = some c → c ≠ '-' →
      ¬ (isAsciiDigit c = true ∨ c = '.') →
        (if negative then '-' :: first :: rest else first :: rest) ≠ name.toList := by
    intro name c head noSign noDigit same
    cases negative with
    | true =>
        rw [← same] at head
        exact noSign (Option.some.inj head).symm
    | false => exact unnamed name head noDigit same
  rw [ofWord?, Decimal.splitSign_of_magnitude negative read]
  dsimp only
  rw [if_neg (unnamedWord "true" rfl (by decide) (by decide)),
    if_neg (unnamedWord "false" rfl (by decide) (by decide)),
    if_neg (unnamed "NaN" rfl (by decide)), if_neg (unnamed "Infinity" rfl (by decide)), read,
    Option.bind_some]

theorem digits_cases {n : Nat} (nonzero : n ≠ 0) :
    ∃ first rest, Decimal.digits n = first :: rest ∧ first ≠ '0' := by
  induction n using Nat.strong_induction_on with
  | _ n inductionHypothesis =>
      rcases Nat.lt_or_ge n 10 with small | large
      · exact ⟨_, _, Nat.toDigits_of_lt_base small, mt Nat.digitChar_eq_zero.mp nonzero⟩
      · obtain ⟨first, rest, same, notZero⟩ :=
          inductionHypothesis (n / 10) (by omega) (by omega)
        rw [Decimal.digits, Nat.toDigits_of_base_le (by decide) large]
        rw [Decimal.digits] at same
        rw [same, List.cons_append]
        exact ⟨first, _, rfl, notZero⟩

theorem ofWord?_digits (negative : Bool) (n : Nat) :
    ofWord? (if negative then '-' :: Decimal.digits n else Decimal.digits n) =
      some (.whole (signed negative n)) := by
  have needed : hasIdleZero (Decimal.digits n) = false := by
    by_cases zero : n = 0
    · rw [zero]
      rfl
    · obtain ⟨first, rest, same, notZero⟩ := digits_cases zero
      rw [same]
      exact hasIdleZero_cons rest notZero
  have digits : (Decimal.digits n).all isAsciiDigit = true :=
    List.all_eq_true.mpr fun _ => Decimal.isAsciiDigit_of_mem_digits
  rw [ofWord?_of_magnitude negative (Value.readMagnitude?_digits n), ofMagnitude, needed,
    if_neg Bool.false_ne_true, if_pos digits]

/-! ## Words with a point or an exponent -/

theorem hasIdleZero_text {decimal : Decimal} (nonzero : decimal.coefficient ≠ 0) :
    hasIdleZero decimal.text = false := by
  obtain ⟨first, rest, same, notZero⟩ := digits_cases nonzero
  unfold Decimal.text
  rw [same]
  dsimp only
  split
  · unfold Decimal.positionalText
    split
    · rfl
    · split
      · exact hasIdleZero_cons _ notZero
      · next behind _ =>
          obtain ⟨place, isPlace⟩ := Nat.exists_eq_add_one_of_ne_zero
            (n := ((first :: rest).length + decimal.exponent).toNat) (by omega)
          rw [isPlace, List.take_succ_cons]
          exact hasIdleZero_cons _ notZero
  · exact hasIdleZero_cons _ notZero

theorem not_all_digits_text (decimal : Decimal) :
    ¬ decimal.text.all isAsciiDigit = true := by
  have pointed : ∀ {chars : List Char}, '.' ∈ chars ∨ 'e' ∈ chars →
      ¬ chars.all isAsciiDigit = true := by
    rintro chars (point | mark) digits
    · exact absurd (List.all_eq_true.mp digits '.' point) (by decide)
    · exact absurd (List.all_eq_true.mp digits 'e' mark) (by decide)
  apply pointed
  unfold Decimal.text
  dsimp only
  split
  · unfold Decimal.positionalText
    split
    · exact .inl (by simp)
    · split <;> exact .inl (by simp)
  · exact .inr (by simp [Decimal.scientificText])

theorem ofWord?_doubleText {x : Float} (finite : isFinite x = true) (nonzero : index x ≠ 0) :
    ∃ written, ofWord? (doubleText x).toList = some (.decimal written) ∧
      IsNearest written.value x := by
  have coefficient := Decimal.coefficient_shortest_ne_zero nonzero
  obtain ⟨decimal, read, same⟩ := Decimal.readMagnitude?_text (Decimal.shortest (index x))
  refine ⟨⟨isNegative x, decimal⟩, ?_, ?_⟩
  · rw [toList_doubleText finite, ofWord?_of_magnitude _ read, ofMagnitude,
      hasIdleZero_text coefficient, if_neg Bool.false_ne_true, if_neg (not_all_digits_text _)]
  · refine isNearest_of_roundsTo decimal.value_nonneg finite ?_
      (same ▸ Decimal.roundsTo_shortest (index x))
    rw [bne_iff_ne.mpr nonzero, Bool.and_true]

/-! ## Words of values -/

theorem toList_intText (number : Int) : (Value.intText number).toList =
    if decide (number < 0) then '-' :: Decimal.digits number.natAbs
    else Decimal.digits number.natAbs := by
  have signedText := Value.toList_signed (decide (number < 0)) number.natAbs
  rw [← signedText, Value.intText]
  by_cases negative : number < 0
  · rw [if_pos negative, decide_eq_true negative, if_pos rfl]
  · rw [if_neg negative, decide_eq_false negative, if_neg Bool.false_ne_true, String.empty_append]

theorem ofWord?_intText (number : Int) :
    ofWord? (Value.intText number).toList = some (.whole number) := by
  have same : signed (decide (number < 0)) number.natAbs = number := by
    by_cases negative : number < 0
    · rw [decide_eq_true negative, signed]
      omega
    · rw [decide_eq_false negative, signed]
      omega
  rw [toList_intText, ofWord?_digits, same]

theorem number_of_isWhole {x : Float} (whole : isWhole (index x) = true) :
    number x = signed (isNegative x) (wholePart (index x)) := by
  have exact := Value.value_of_isWhole whole
  rw [Decimal.value, zpow_zero, mul_one] at exact
  rw [number, ← exact]
  cases isNegative x with
  | true => simp [signed]
  | false => simp [signed]

theorem ofWord?_doubleLiteral (x : Float) :
    ∃ literal, ofWord? (Value.doubleLiteral x).toList = some literal ∧
      literal.Denotes (.float x) := by
  have form := Value.literalForm x
  generalize Value.doubleLiteral x = text at form ⊢
  cases form with
  | undefined unknown => exact ⟨.undefined, rfl, .undefined unknown⟩
  | infinite infinite =>
      refine ⟨.infinity (isNegative x), ?_, .infinite infinite⟩
      cases isNegative x <;> rfl
  | zero zero =>
      have finite : isFinite x = true := by
        rw [isFinite, zero]
        rfl
      have nothing : number x = (0 : Int) := by
        rw [number, zero, value_zero, neg_zero, ite_self, Int.cast_zero]
      exact ⟨.whole 0, rfl, .whole (nothing ▸ isNearest_number finite) nothing⟩
  | whole finite _ isWhole =>
      have exact := number_of_isWhole isWhole
      rw [Value.toList_signed, ofWord?_digits]
      exact ⟨_, rfl, .whole (exact ▸ isNearest_number finite) exact⟩
  | decimal finite nonzero =>
      obtain ⟨written, read, nearest⟩ := ofWord?_doubleText finite nonzero
      exact ⟨_, read, .decimal nearest⟩

end Literal

end SceneComponent
