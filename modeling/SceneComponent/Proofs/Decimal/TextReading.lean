import Mathlib
import SceneComponent.Proofs.Binary64.Bits
import SceneComponent.Proofs.Decimal.ReadBack
import SceneComponent.Proofs.Text.Numerals
import SceneComponent.Proofs.Text.Trimming

/-!
# Reading the texts of doubles

The text of a decimal, positional or with an exponent, reads as a decimal of the same
value.  So the text of a double reads as that double, infinite and undefined ones
included, and the sign of zero is kept.
-/

set_option autoImplicit false

namespace SceneComponent

open Text

namespace Decimal

/-! ## Digits -/

theorem isAsciiDigit_of_mem_digits {n : Nat} {c : Char} (member : c ∈ digits n) :
    isAsciiDigit c = true := by
  have digit := Nat.isDigit_of_mem_toDigits (by decide) (by decide) member
  simp only [Char.isDigit, Bool.and_eq_true, decide_eq_true_eq] at digit
  simp only [isAsciiDigit, Bool.and_eq_true, decide_eq_true_eq]
  exact ⟨digit.1, digit.2⟩

theorem ofDigitChars_digits (n : Nat) : Nat.ofDigitChars 10 (digits n) 0 = n :=
  Nat.ofDigitChars_toDigits (by decide) (by decide)

theorem ofDigitChars_padded (count : Nat) (digits : List Char) :
    Nat.ofDigitChars 10 (List.replicate count '0' ++ digits) 0 = Nat.ofDigitChars 10 digits 0 := by
  rw [Nat.ofDigitChars_append, Nat.ofDigitChars_replicate_zero, Nat.mul_zero]

theorem ofDigitChars_filled (count : Nat) (digits : List Char) :
    Nat.ofDigitChars 10 (digits ++ List.replicate count '0') 0 =
      10 ^ count * Nat.ofDigitChars 10 digits 0 := by
  rw [Nat.ofDigitChars_append, Nat.ofDigitChars_replicate_zero]

theorem digits_ne_nil (n : Nat) : digits n ≠ [] := Nat.toDigits_ne_nil

/-! ## Parts of a number text -/

/-- Whether a text goes on with something that is neither a digit nor a point. -/
def EndsNumber (rest : List Char) : Prop :=
  ∀ c, rest.head? = some c → isAsciiDigit c = false ∧ c ≠ '.'

theorem readMagnitude?_whole (whole rest : List Char)
    (wholeDigits : ∀ c ∈ whole, isAsciiDigit c = true) (nonempty : whole ≠ [])
    (ends : EndsNumber rest) :
    readMagnitude? (whole ++ rest) =
      (readExponent? rest).map fun exponent => ⟨Nat.ofDigitChars 10 whole 0, exponent⟩ := by
  have stop : ∀ c, rest.head? = some c → isAsciiDigit c = false := fun c head => (ends c head).1
  unfold readMagnitude?
  rw [takeWhile_cut wholeDigits stop, dropWhile_cut wholeDigits stop]
  dsimp only
  split
  · exact absurd rfl (ends '.' rfl).2
  · simp [nonempty]

theorem readMagnitude?_fraction (whole fraction rest : List Char)
    (wholeDigits : ∀ c ∈ whole, isAsciiDigit c = true) (nonempty : whole ≠ [])
    (fractionDigits : ∀ c ∈ fraction, isAsciiDigit c = true) (ends : EndsNumber rest) :
    readMagnitude? (whole ++ '.' :: (fraction ++ rest)) =
      (readExponent? rest).map fun exponent =>
        ⟨Nat.ofDigitChars 10 (whole ++ fraction) 0, exponent - fraction.length⟩ := by
  have point : ∀ c, ('.' :: (fraction ++ rest)).head? = some c → isAsciiDigit c = false := by
    intro c head
    cases head
    decide
  have stop : ∀ c, rest.head? = some c → isAsciiDigit c = false := fun c head => (ends c head).1
  unfold readMagnitude?
  rw [takeWhile_cut wholeDigits point, dropWhile_cut wholeDigits point]
  dsimp only
  split
  · next more same =>
      cases same
      rw [takeWhile_cut fractionDigits stop, dropWhile_cut fractionDigits stop]
      simp [nonempty]
  · next other => exact absurd rfl (other _)

theorem readExponent?_exponentText (exponent : Int) :
    readExponent? ('e' :: exponentText exponent) = some exponent := by
  have someDigits : List.replicate (2 - (digits exponent.natAbs).length) '0' ++
      digits exponent.natAbs ≠ [] := by simp [digits_ne_nil]
  have allDigits : (List.replicate (2 - (digits exponent.natAbs).length) '0' ++
      digits exponent.natAbs).all isAsciiDigit = true := by
    rw [List.all_eq_true]
    intro c member
    rcases List.mem_append.mp member with zero | digit
    · rw [List.eq_of_mem_replicate zero]
      decide
    · exact isAsciiDigit_of_mem_digits digit
  have read := ofDigitChars_padded (2 - (digits exponent.natAbs).length) (digits exponent.natAbs)
  rw [ofDigitChars_digits] at read
  unfold exponentText
  dsimp only [List.cons_append]
  generalize List.replicate (2 - (digits exponent.natAbs).length) '0' ++
    digits exponent.natAbs = padded at *
  by_cases negative : exponent < 0
  · rw [if_pos negative, readExponent?, splitSign]
    simp [someDigits, allDigits, read, abs_of_neg negative]
  · rw [if_neg negative, readExponent?, splitSign]
    simp [someDigits, allDigits, read, abs_of_nonneg (Int.not_lt.mp negative)]

/-! ## Texts of decimals -/

theorem endsNumber_nil : EndsNumber [] := by
  intro c head
  cases head

theorem endsNumber_exponent (rest : List Char) : EndsNumber ('e' :: rest) := by
  intro c head
  cases head
  decide

theorem isAsciiDigit_of_mem_zeros {count : Nat} :
    ∀ c ∈ List.replicate count '0', isAsciiDigit c = true := by
  intro c member
  rw [List.eq_of_mem_replicate member]
  decide

/-- Digits that all stand behind the point. -/
theorem readMagnitude?_behindPoint (digits : List Char)
    (allDigits : ∀ c ∈ digits, isAsciiDigit c = true) (count : Nat) :
    readMagnitude? ('0' :: '.' :: (List.replicate count '0' ++ digits)) =
      some ⟨Nat.ofDigitChars 10 digits 0, -((count + digits.length : Nat) : Int)⟩ := by
  have read := readMagnitude?_fraction ['0'] (List.replicate count '0' ++ digits) []
    (by simp [isAsciiDigit]) (by simp)
    (List.forall_mem_append.mpr ⟨isAsciiDigit_of_mem_zeros, allDigits⟩) endsNumber_nil
  have coefficient := ofDigitChars_padded (count + 1) digits
  rw [List.replicate_succ] at coefficient
  simp only [List.append_nil, readExponent?, Option.map_some, List.length_append,
    List.length_replicate, Int.zero_sub] at read
  rw [← coefficient]
  exact read

/-- Digits that zeros stand behind, up to the point, and one zero behind it. -/
theorem readMagnitude?_beforePoint {digits : List Char} (nonempty : digits ≠ [])
    (allDigits : ∀ c ∈ digits, isAsciiDigit c = true) (count : Nat) :
    ∃ read, readMagnitude? (digits ++ List.replicate count '0' ++ ['.', '0']) = some read ∧
      read.value = value ⟨Nat.ofDigitChars 10 digits 0, count⟩ := by
  have read := readMagnitude?_fraction (digits ++ List.replicate count '0') ['0'] []
    (List.forall_mem_append.mpr ⟨allDigits, isAsciiDigit_of_mem_zeros⟩) (by simp [nonempty])
    (by simp [isAsciiDigit]) endsNumber_nil
  have coefficient := ofDigitChars_filled (count + 1) digits
  rw [List.replicate_succ', ← List.append_assoc] at coefficient
  simp only [List.append_nil, readExponent?, Option.map_some, coefficient] at read
  refine ⟨_, read, ?_⟩
  rw [value, value, zpow_natCast]
  push_cast
  rw [pow_succ]
  norm_num
  ring

/-- Digits with the point between two of them. -/
theorem readMagnitude?_aroundPoint {digits : List Char}
    (allDigits : ∀ c ∈ digits, isAsciiDigit c = true) {place : Nat} (front : 0 < place)
    (inside : place ≤ digits.length) :
    readMagnitude? (digits.take place ++ '.' :: digits.drop place) =
      some ⟨Nat.ofDigitChars 10 digits 0, -((digits.length - place : Nat) : Int)⟩ := by
  have nonempty : digits.take place ≠ [] := by
    intro empty
    have length := congrArg List.length empty
    rw [List.length_take, List.length_nil] at length
    omega
  have read := readMagnitude?_fraction (digits.take place) (digits.drop place) []
    (fun c member => allDigits c (List.mem_of_mem_take member)) nonempty
    (fun c member => allDigits c (List.mem_of_mem_drop member)) endsNumber_nil
  simp only [List.append_nil, readExponent?, Option.map_some, List.take_append_drop,
    List.length_drop, Int.zero_sub] at read
  exact read

/-- Positional digits read as themselves, but for the zeros that fill a whole number up. -/
theorem readMagnitude?_positionalText {digits : List Char} (nonempty : digits ≠ [])
    (allDigits : ∀ c ∈ digits, isAsciiDigit c = true) (exponent : Int) :
    ∃ read, readMagnitude? (positionalText digits (digits.length + exponent)) = some read ∧
      read.value = value ⟨Nat.ofDigitChars 10 digits 0, exponent⟩ := by
  unfold positionalText
  split
  · have place : exponent =
        -(((-(digits.length + exponent)).toNat + digits.length : Nat) : Int) := by omega
    refine ⟨_, readMagnitude?_behindPoint digits allDigits _, ?_⟩
    rw [← place]
  · split
    · have filled : exponent =
          (((digits.length + exponent).toNat - digits.length : Nat) : Int) := by omega
      obtain ⟨read, success, same⟩ := readMagnitude?_beforePoint nonempty allDigits
        ((digits.length + exponent).toNat - digits.length)
      rw [← filled] at same
      exact ⟨read, success, same⟩
    · have place : exponent =
          -((digits.length - (digits.length + exponent).toNat : Nat) : Int) := by omega
      refine ⟨_, readMagnitude?_aroundPoint allDigits (by omega) (by omega), ?_⟩
      rw [← place]

theorem readMagnitude?_scientificText {digits : List Char} (nonempty : digits ≠ [])
    (allDigits : ∀ c ∈ digits, isAsciiDigit c = true) (exponent : Int) :
    readMagnitude? (scientificText digits (digits.length + exponent - 1)) =
      some ⟨Nat.ofDigitChars 10 digits 0, exponent⟩ := by
  obtain ⟨first, rest, rfl⟩ := List.exists_cons_of_ne_nil nonempty
  obtain ⟨firstDigit, restDigits⟩ := List.forall_mem_cons.mp allDigits
  have front : ∀ c ∈ [first], isAsciiDigit c = true := by simpa using firstDigit
  unfold scientificText
  cases rest with
  | nil =>
      have read := readMagnitude?_whole [first]
        ('e' :: exponentText (([first].length : Int) + exponent - 1)) front (by simp)
        (endsNumber_exponent _)
      rw [readExponent?_exponentText] at read
      refine read.trans (congrArg (fun place => some (Decimal.mk _ place)) ?_)
      simp
  | cons second rest =>
      have read := readMagnitude?_fraction [first] (second :: rest)
        ('e' :: exponentText (((first :: second :: rest).length : Int) + exponent - 1)) front
        (by simp) restDigits (endsNumber_exponent _)
      rw [readExponent?_exponentText] at read
      refine Eq.trans ?_ (read.trans (congrArg (fun place => some (Decimal.mk _ place)) ?_))
      · rw [if_neg (by simp)]
        simp
      · simp only [List.length_cons]
        push_cast
        omega

/-- The text of a decimal reads as a decimal of the same value. -/
theorem readMagnitude?_text (decimal : Decimal) :
    ∃ read, readMagnitude? decimal.text = some read ∧ read.value = decimal.value := by
  have nonempty := digits_ne_nil decimal.coefficient
  have allDigits : ∀ c ∈ digits decimal.coefficient, isAsciiDigit c = true := fun _ =>
    isAsciiDigit_of_mem_digits
  have number := ofDigitChars_digits decimal.coefficient
  unfold text
  dsimp only
  split
  · obtain ⟨read, success, same⟩ :=
      readMagnitude?_positionalText nonempty allDigits decimal.exponent
    rw [number] at same
    exact ⟨read, success, same⟩
  · have success := readMagnitude?_scientificText nonempty allDigits decimal.exponent
    rw [number] at success
    exact ⟨_, success, rfl⟩

/-! ## Texts of doubles -/

theorem toNat_lt_of_isNumeral {c : Char} (numeral : isNumeral c = true) : c.toNat < 128 := by
  simp only [isNumeral, isAsciiAlphanumeric, isAsciiLetter, isAsciiDigit, Bool.or_eq_true,
    Bool.and_eq_true, decide_eq_true_eq, Char.le_def, UInt32.le_iff_toNat_le] at numeral
  rcases numeral with ((((⟨_, high⟩ | ⟨_, high⟩) | ⟨_, high⟩) | rfl) | rfl) | rfl
  · exact Nat.lt_of_le_of_lt high (by decide)
  · exact Nat.lt_of_le_of_lt high (by decide)
  · exact Nat.lt_of_le_of_lt high (by decide)
  · decide
  · decide
  · decide

/-- What the characters of numbers are not: blanks, digits of other scripts, underscores. -/
theorem plain_of_isNumeral {c : Char} (numeral : isNumeral c = true) :
    isBlank c = false ∧ westernDigit c = c ∧ c ≠ '_' := by
  have ascii : ∀ n : Fin 128, isNumeral (Char.ofNat n) = true →
      isBlank (Char.ofNat n) = false ∧ westernDigit (Char.ofNat n) = Char.ofNat n ∧
        Char.ofNat n ≠ '_' := by decide
  have same := ascii ⟨c.toNat, toNat_lt_of_isNumeral numeral⟩
  rw [Char.ofNat_toNat] at same
  exact same numeral

/-- The first characters of magnitudes begin no sign and no name. -/
theorem unsigned_of_isAsciiDigit {c : Char} (starts : isAsciiDigit c = true ∨ c = '.') :
    c ≠ '-' ∧ c ≠ '+' ∧ c.toLower ≠ 'i' ∧ c.toLower ≠ 'n' := by
  have ascii : ∀ n : Fin 128, isAsciiDigit (Char.ofNat n) = true ∨ Char.ofNat n = '.' →
      Char.ofNat n ≠ '-' ∧ Char.ofNat n ≠ '+' ∧ (Char.ofNat n).toLower ≠ 'i' ∧
        (Char.ofNat n).toLower ≠ 'n' := by decide
  have numeral : isNumeral c = true := by
    rcases starts with digit | rfl
    · simp [isNumeral, isAsciiAlphanumeric, digit]
    · decide
  have same := ascii ⟨c.toNat, toNat_lt_of_isNumeral numeral⟩
  rw [Char.ofNat_toNat] at same
  exact same starts

theorem withoutUnderscores_eq_self {isDigit : Char → Bool} {chars : List Char}
    (absent : '_' ∉ chars) (afterDigit : Bool) :
    withoutUnderscores isDigit afterDigit chars = some chars := by
  induction chars generalizing afterDigit with
  | nil => rfl
  | cons c rest inductionHypothesis =>
      obtain ⟨notFirst, notRest⟩ := not_or.mp (List.mem_cons.not.mp absent)
      rw [withoutUnderscores]
      · rw [inductionHypothesis notRest]
        rfl
      · rintro rfl
        exact notFirst rfl

/-- A text of the characters of numbers is read as it stands. -/
theorem numberCharacters_eq {text : String} (numerals : ∀ c ∈ text.toList, isNumeral c = true) :
    withoutUnderscores isAsciiDigit false (numberCharacters text) = some text.toList := by
  have kept : numberCharacters text = text.toList := by
    unfold numberCharacters
    rw [trim_eq_self]
    · exact (List.map_congr_left fun c member =>
        (plain_of_isNumeral (numerals c member)).2.1).trans (List.map_id _)
    · intro c member
      rw [(plain_of_isNumeral (numerals c member)).1, Bool.false_and]
  rw [kept]
  exact withoutUnderscores_eq_self (fun member => (plain_of_isNumeral (numerals _ member)).2.2 rfl) _

/-- A magnitude begins with a digit or a point, and with no sign or name. -/
theorem head_of_readMagnitude? {chars : List Char} {decimal : Decimal}
    (read : readMagnitude? chars = some decimal) :
    ∃ first rest, chars = first :: rest ∧ (isAsciiDigit first = true ∨ first = '.') := by
  cases chars with
  | nil => cases read
  | cons first rest =>
      refine ⟨first, rest, rfl, ?_⟩
      by_contra neither
      obtain ⟨noDigit, noPoint⟩ := not_or.mp neither
      unfold readMagnitude? at read
      rw [List.takeWhile_cons_of_neg noDigit, List.dropWhile_cons_of_neg noDigit] at read
      dsimp only at read
      split at read
      · next more same =>
          cases same
          exact noPoint rfl
      · simp at read

theorem splitSign_of_magnitude (negative : Bool) {chars : List Char} {decimal : Decimal}
    (read : readMagnitude? chars = some decimal) :
    splitSign (if negative then '-' :: chars else chars) = (negative, chars) := by
  obtain ⟨first, rest, rfl, digitOrPoint⟩ := head_of_readMagnitude? read
  obtain ⟨noMinus, noPlus, _⟩ := unsigned_of_isAsciiDigit digitOrPoint
  cases negative with
  | true => rfl
  | false =>
      rw [if_neg (by decide), splitSign]
      · rintro _ same
        exact noMinus (List.cons.inj same).1
      · rintro _ same
        exact noPlus (List.cons.inj same).1

theorem readDouble?_of_magnitude {text : String} (negative : Bool) {chars : List Char}
    {decimal : Decimal} (numerals : ∀ c ∈ text.toList, isNumeral c = true)
    (parts : text.toList = if negative then '-' :: chars else chars)
    (read : readMagnitude? chars = some decimal) :
    readDouble? text = some (Binary64.ofIndex negative decimal.nearestIndex) := by
  have unsigned := splitSign_of_magnitude negative read
  rw [← parts] at unsigned
  obtain ⟨first, rest, rfl, digitOrPoint⟩ := head_of_readMagnitude? read
  obtain ⟨_, _, noInfinity, noUndefined⟩ := unsigned_of_isAsciiDigit digitOrPoint
  have named : ∀ name : String, (name.toList.head? = some 'i' ∨ name.toList.head? = some 'n') →
      String.ofList ((first :: rest).map Char.toLower) ≠ name := by
    rintro name head rfl
    rw [String.toList_ofList] at head
    rcases head with letter | letter
    · exact noInfinity (Option.some.inj letter)
    · exact noUndefined (Option.some.inj letter)
  unfold readDouble?
  rw [numberCharacters_eq numerals]
  simp only [Option.bind_eq_bind, Option.bind_some, unsigned, Bool.or_eq_true, decide_eq_true_eq]
  rw [if_neg (not_or.mpr ⟨named _ (.inl rfl), named _ (.inl rfl)⟩), if_neg (named _ (.inr rfl)), read]
  rfl

end Decimal

open Binary64

theorem Binary64.ofIndex_index {x : Float} {magnitude : Nat} (same : index x = magnitude)
    (bounded : magnitude ≤ infiniteIndex) : ofIndex (isNegative x) magnitude = x :=
  eq_of_index_eq (isNegative_ofIndex _ bounded) ((index_ofIndex _ bounded).trans same.symm)

theorem Binary64.isNaN_undefined : isNaN undefined = true := by decide

theorem Binary64.index_of_infinite {x : Float} (defined : isNaN x ≠ true)
    (infinite : isFinite x ≠ true) : index x = infiniteIndex := by
  have notAbove := decide_eq_true_iff.not.mp defined
  have notBelow := decide_eq_true_iff.not.mp infinite
  omega

/-- The text of a double reads as that double. -/
theorem readDouble?_doubleText (x : Float) : Decimal.readDouble? (doubleText x) = some x := by
  have numerals := isNumeral_of_mem_doubleText x
  unfold doubleText at *
  by_cases unknown : isNaN x = true
  · rw [if_pos unknown, eq_of_isNaN unknown isNaN_undefined]
    rfl
  · rw [if_neg unknown] at *
    by_cases finite : isFinite x = true
    · rw [if_pos finite] at *
      obtain ⟨read, success, same⟩ := Decimal.readMagnitude?_text (Decimal.shortest (index x))
      have bounded : index x ≤ infiniteIndex := (of_decide_eq_true finite).le
      have whole := Decimal.readDouble?_of_magnitude (isNegative x) numerals
        String.toList_ofList success
      rw [whole, Decimal.nearestIndex_congr same, Decimal.nearestIndex_shortest bounded,
        ofIndex_index rfl bounded]
    · rw [if_neg finite]
      have same := ofIndex_index (index_of_infinite unknown finite) (Nat.le_refl _)
      refine Eq.trans ?_ (congrArg some same)
      cases isNegative x <;> rfl

end SceneComponent
