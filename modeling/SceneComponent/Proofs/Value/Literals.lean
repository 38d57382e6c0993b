import Mathlib
import SceneComponent.Proofs.Decimal.TextReading
import SceneComponent.Proofs.Text.Lines

/-!
# Reading literals

The literal of a double reads as that double, but that a zero loses its sign.  So numbers
and lists of numbers with unsigned zeros can be read from their literals, apart from each
other and from the names of constants.
-/

set_option autoImplicit false

namespace SceneComponent

open Binary64 Text

namespace Value

theorem readMagnitude?_digits (n : Nat) :
    Decimal.readMagnitude? (Decimal.digits n) = some ⟨n, 0⟩ := by
  have read := Decimal.readMagnitude?_whole (Decimal.digits n) []
    (fun _ => Decimal.isAsciiDigit_of_mem_digits) (Decimal.digits_ne_nil n) Decimal.endsNumber_nil
  rw [List.append_nil, Decimal.ofDigitChars_digits] at read
  exact read

theorem toList_signed (negative : Bool) (n : Nat) :
    ((if negative then "-" else "") ++ toString n).toList =
      if negative then '-' :: Decimal.digits n else Decimal.digits n := by
  rw [String.toList_append, Nat.toString_eq_ofList_toDigits, String.toList_ofList]
  cases negative with
  | true => rw [if_pos rfl, if_pos rfl]; rfl
  | false => rw [if_neg (by decide), if_neg (by decide)]; rfl

theorem value_of_isWhole {index : Nat} (whole : isWhole index = true) :
    Decimal.value ⟨wholePart index, 0⟩ = Binary64.value index := by
  have divides : unitsPerOne ∣ units index := Nat.dvd_of_mod_eq_zero (of_decide_eq_true whole)
  rw [Decimal.value, zpow_zero, mul_one, Binary64.value, wholePart,
    Nat.cast_div divides unitsPerOne_pos.ne']

/-- The forms that the literal of a double can have. -/
inductive LiteralForm (x : Float) : String → Prop
  | undefined (unknown : isNaN x = true) : LiteralForm x "NaN"
  | infinite (infinite : Binary64.index x = infiniteIndex) :
      LiteralForm x ((if isNegative x then "-" else "") ++ "Infinity")
  | zero (zero : Binary64.index x = 0) : LiteralForm x "0"
  | whole (finite : isFinite x = true) (nonzero : Binary64.index x ≠ 0)
      (whole : isWhole (Binary64.index x) = true) :
      LiteralForm x
        ((if isNegative x then "-" else "") ++ toString (wholePart (Binary64.index x)))
  | decimal (finite : isFinite x = true) (nonzero : Binary64.index x ≠ 0) :
      LiteralForm x (doubleText x)

theorem literalForm (x : Float) : LiteralForm x (doubleLiteral x) := by
  unfold doubleLiteral
  dsimp only
  by_cases unknown : isNaN x = true
  · rw [if_pos unknown]
    exact .undefined unknown
  · rw [if_neg unknown]
    by_cases infinite : Binary64.index x = infiniteIndex
    · rw [if_pos infinite]
      exact .infinite infinite
    · have finite : isFinite x = true := by
        by_contra notFinite
        exact infinite (index_of_infinite unknown notFinite)
      rw [if_neg infinite]
      by_cases zero : Binary64.index x = 0
      · rw [if_pos zero]
        exact .zero zero
      · rw [if_neg zero]
        split
        · next short => exact .whole finite zero (Bool.and_eq_true_iff.mp short).1
        · exact .decimal finite zero

/-- The literal of a double reads as that double, when it is no zero with a sign. -/
theorem readDouble?_doubleLiteral {x : Float} (unsigned : ¬ IsNegativeZero x) :
    Decimal.readDouble? (doubleLiteral x) = some x := by
  have numerals := isNumeral_of_mem_doubleLiteral x
  have form := literalForm x
  generalize doubleLiteral x = text at numerals form ⊢
  cases form with
  | undefined unknown =>
      rw [eq_of_isNaN unknown isNaN_undefined]
      rfl
  | infinite infinite =>
      refine Eq.trans ?_ (congrArg some (ofIndex_index infinite (Nat.le_refl _)))
      cases isNegative x <;> rfl
  | zero zero =>
      have positive : isNegative x = false :=
        Bool.eq_false_iff.mpr fun negative => unsigned ⟨negative, zero⟩
      have same := ofIndex_index zero (Nat.zero_le _)
      rw [positive] at same
      exact congrArg some same
  | whole finite _ isWhole =>
      have bounded : Binary64.index x ≤ infiniteIndex := (of_decide_eq_true finite).le
      have success := readMagnitude?_digits (wholePart (Binary64.index x))
      have rounds : RoundsTo (Decimal.value ⟨wholePart (Binary64.index x), 0⟩)
          (Binary64.index x) := (value_of_isWhole isWhole) ▸ RoundsTo.self _
      rw [Decimal.readDouble?_of_magnitude (isNegative x) numerals (toList_signed _ _) success,
        Decimal.nearestIndex_eq_of_roundsTo rounds, Nat.min_eq_left bounded,
        ofIndex_index rfl bounded]
  | decimal => exact readDouble?_doubleText x

/-- A literal is no empty text, since that one reads as nothing. -/
theorem doubleLiteral_ne_empty {x : Float} (unsigned : ¬ IsNegativeZero x) :
    doubleLiteral x ≠ "" := by
  intro empty
  have read := readDouble?_doubleLiteral unsigned
  rw [empty] at read
  cases read

/-! ## Lists of numbers -/

def AreUnsigned (numbers : List Float) : Prop := ∀ x ∈ numbers, ¬ IsNegativeZero x

theorem literals_eq_map (items : List Value) : literals items = items.map literal := by
  induction items with
  | nil => rfl
  | cons item rest inductionHypothesis => rw [literals, inductionHypothesis, List.map_cons]

theorem toList_list_literal (items : List Value) :
    (literal (.list items)).toList =
      '[' :: ([','].intercalate (items.map fun item => (literal item).toList) ++ [']']) := by
  simp only [literal, literals_eq_map, String.toList_append, String.toList_intercalate,
    List.map_map]
  rfl

theorem comma_not_mem_doubleLiteral (x : Float) : ',' ∉ (doubleLiteral x).toList := by
  intro member
  exact absurd (isNumeral_of_mem_doubleLiteral x _ member) (by decide)

/-! ## Sources of values -/

/-- The numbers of a list from the characters between its brackets. -/
def numbersBetween (source : List Char) : List Float :=
  (piecesAt ',' source).filterMap fun piece => Decimal.readDouble? (String.ofList piece)

/-- The value that a source stands for: a list in brackets, a number or a constant. -/
def ofSource (source : List Char) : Value :=
  if source.head? = some '[' then .list ((numbersBetween source.tail.dropLast).map .float)
  else
    match Decimal.readDouble? (String.ofList source) with
    | some x => .float x
    | none => .constant (String.ofList source)

theorem ofSource_number {x : Float} (unsigned : ¬ IsNegativeZero x) :
    ofSource (doubleLiteral x).toList = .float x := by
  have noList : (doubleLiteral x).toList.head? ≠ some '[' := fun head =>
    absurd (isNumeral_of_mem_doubleLiteral x _ (List.mem_of_mem_head? head)) (by decide)
  rw [ofSource, if_neg noList, String.ofList_toList, readDouble?_doubleLiteral unsigned]

theorem numbersBetween_literals {numbers : List Float} (unsigned : AreUnsigned numbers) :
    numbersBetween ([','].intercalate (numbers.map fun x => (doubleLiteral x).toList)) =
      numbers := by
  have free : ∀ piece ∈ numbers.map fun x => (doubleLiteral x).toList, ',' ∉ piece :=
    List.forall_mem_map.mpr fun x _ => comma_not_mem_doubleLiteral x
  have filled : ∀ piece ∈ numbers.map fun x => (doubleLiteral x).toList, piece ≠ [] :=
    List.forall_mem_map.mpr fun x member empty =>
      doubleLiteral_ne_empty (unsigned x member) (String.toList_eq_nil_iff.mp empty)
  rw [numbersBetween, piecesAt_intercalate free filled, List.filterMap_map]
  have reads : ∀ x ∈ numbers, ((fun piece => Decimal.readDouble? (String.ofList piece)) ∘
      fun x => (doubleLiteral x).toList) x = some x := by
    intro x member
    rw [Function.comp_apply, String.ofList_toList, readDouble?_doubleLiteral (unsigned x member)]
  rw [List.filterMap_congr reads, List.filterMap_some]

theorem ofSource_numbers {numbers : List Float} (unsigned : AreUnsigned numbers) :
    ofSource (literal (.list (numbers.map .float))).toList = .list (numbers.map .float) := by
  have source : (literal (.list (numbers.map .float))).toList =
      '[' :: ([','].intercalate (numbers.map fun x => (doubleLiteral x).toList) ++ [']']) := by
    rw [toList_list_literal, List.map_map]
    rfl
  rw [source, ofSource, List.head?_cons, if_pos rfl, List.tail_cons, List.dropLast_concat,
    numbersBetween_literals unsigned]

end Value

end SceneComponent
