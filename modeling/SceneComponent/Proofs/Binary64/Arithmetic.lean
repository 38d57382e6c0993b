import Mathlib
import SceneComponent.Proofs.Binary64.Signed

/-!
# Products, quotients and sums of doubles

An operation on doubles shortens its exact result to the digits that a double has, and keeps
with it whether what was cut off is nothing, less than a half, a half or more.  The magnitude
that is made from this is the one that the exact result rounds to (`exists_roundWithAccuracy`).
So a product, a quotient, and a sum of doubles without signs, is the double nearest to the
exact one, as long as it is finite (`exists_mul`, `exists_div`, `exists_add`).

Numbers with few digits are doubles themselves, and bound what is rounded next to them.
-/

set_option autoImplicit false

namespace SceneComponent.Binary64

open Float.Model UnpackedFloat

/-! ## Shortened mantissas -/

/-- The number that a mantissa stands for, with what is known of the digits behind it. -/
inductive StandsFor : ExtendedMantissa → ℚ → Prop
  | exact {place : Nat} {number : ℚ} (same : number = place) :
      StandsFor ⟨place, false, false⟩ number
  | below {place : Nat} {number : ℚ} (above : place < number) (under : number < place + 1 / 2) :
      StandsFor ⟨place, false, true⟩ number
  | half {place : Nat} {number : ℚ} (same : number = place + 1 / 2) :
      StandsFor ⟨place, true, false⟩ number
  | beyond {place : Nat} {number : ℚ} (above : place + 1 / 2 < number)
      (under : number < place + 1) : StandsFor ⟨place, true, true⟩ number

namespace StandsFor

variable {shortened : ExtendedMantissa} {number : ℚ}

/-- The number is the mantissa where no digit behind it is known of, and else it lies between
the mantissa and the next. -/
theorem between (stands : StandsFor shortened number) :
    (shortened.roundBit || shortened.stickyBit) = false ∧ number = shortened.mantissa ∨
      (shortened.roundBit || shortened.stickyBit) = true ∧ shortened.mantissa < number ∧
        number < shortened.mantissa + 1 := by
  cases stands with
  | exact same => exact .inl ⟨rfl, same⟩
  | below above under => exact .inr ⟨rfl, above, by linarith⟩
  | half same => exact .inr ⟨rfl, by linarith, by linarith⟩
  | beyond above under => exact .inr ⟨rfl, by linarith, under⟩

theorem shiftRightOne (stands : StandsFor shortened number) :
    StandsFor shortened.shiftRightOne (number / 2) := by
  obtain ⟨half, isHalf⟩ := Nat.even_or_odd' shortened.mantissa
  have shifted : shortened.shiftRightOne = ⟨shortened.mantissa / 2,
      shortened.mantissa % 2 != 0, shortened.roundBit || shortened.stickyBit⟩ := rfl
  rcases isHalf with even | odd
  · have remainder : (2 * half % 2 != 0) = false := by simp
    rw [shifted, even, Nat.mul_div_cancel_left half (by decide), remainder]
    rcases stands.between with ⟨clear, same⟩ | ⟨cut, above, under⟩
    · rw [even] at same
      rw [clear]
      exact .exact (by push_cast at same; linarith)
    · rw [even] at above under
      push_cast at above under
      rw [cut]
      exact .below (by linarith) (by linarith)
  · have remainder : ((2 * half + 1) % 2 != 0) = true := by simp
    have quotient : (2 * half + 1) / 2 = half := by omega
    rw [shifted, odd, quotient, remainder]
    rcases stands.between with ⟨clear, same⟩ | ⟨cut, above, under⟩
    · rw [odd] at same
      rw [clear]
      exact .half (by push_cast at same; linarith)
    · rw [odd] at above under
      push_cast at above under
      rw [cut]
      exact .beyond (by linarith) (by linarith)

theorem shiftRight (stands : StandsFor shortened number) (count : Nat) :
    StandsFor (shortened >>> count) (number / 2 ^ count) := by
  induction count with
  | zero =>
      rw [pow_zero, div_one]
      exact stands
  | succ count inductionHypothesis =>
      rw [pow_succ, ← div_div]
      exact inductionHypothesis.shiftRightOne

theorem of_exact (mantissa : Nat) :
    StandsFor (.ofMantissaAndAccuracy mantissa .exact) mantissa := .exact rfl

/-- A quotient without its remainder stands for the fraction when the remainder is compared with
half of the divisor. -/
theorem of_fraction (numerator : Nat) {divisor : Nat} (positive : 0 < divisor) :
    StandsFor (.ofMantissaAndAccuracy (numerator / divisor)
      (accuracyOfFraction (numerator % divisor) divisor)) (numerator / divisor : ℚ) := by
  have scale : (0 : ℚ) < divisor := Nat.cast_pos.mpr positive
  have whole : (numerator : ℚ) =
      divisor * (numerator / divisor : Nat) + (numerator % divisor : Nat) := by
    exact_mod_cast (Nat.div_add_mod numerator divisor).symm
  have ratio : (numerator / divisor : ℚ) =
      (numerator / divisor : Nat) + (numerator % divisor : Nat) / (divisor : ℚ) := by
    rw [whole, add_div, mul_div_cancel_left₀ _ scale.ne']
  have rest : ((numerator % divisor : Nat) : ℚ) / divisor < 1 :=
    (div_lt_one scale).mpr (Nat.cast_lt.mpr (Nat.mod_lt numerator positive))
  rw [ratio]
  generalize numerator % divisor = remainder at rest
  by_cases none : remainder = 0
  · rw [accuracyOfFraction, if_pos none, none, Nat.cast_zero, zero_div, add_zero]
    exact of_exact _
  · have some : (0 : ℚ) < remainder / divisor :=
      div_pos (Nat.cast_pos.mpr (Nat.pos_of_ne_zero none)) scale
    rw [accuracyOfFraction, if_neg none]
    rcases lt_trichotomy (2 * remainder) divisor with less | same | more
    · have twice : (2 * remainder : ℚ) < divisor := by exact_mod_cast less
      have under : (remainder : ℚ) / divisor < 1 / 2 := (div_lt_iff₀ scale).mpr (by linarith)
      rw [Nat.compare_eq_lt.mpr less]
      exact .below (by linarith) (by linarith)
    · have twice : (2 * remainder : ℚ) = divisor := by exact_mod_cast same
      have middle : (remainder : ℚ) / divisor = 1 / 2 := (div_eq_iff scale.ne').mpr (by linarith)
      rw [Nat.compare_eq_eq.mpr same]
      exact .half (by linarith)
    · have twice : (divisor : ℚ) < 2 * remainder := by exact_mod_cast more
      have above : 1 / 2 < (remainder : ℚ) / divisor := (lt_div_iff₀ scale).mpr (by linarith)
      rw [Nat.compare_eq_gt.mpr more]
      exact .beyond (by linarith) (by linarith)

end StandsFor

theorem mantissa_shiftRight (shortened : ExtendedMantissa) (count : Nat) :
    (shortened >>> count).mantissa = shortened.mantissa / 2 ^ count := by
  induction count with
  | zero => simp; rfl
  | succ count inductionHypothesis =>
      change (shortened >>> count).mantissa / 2 = _
      rw [inductionHypothesis, Nat.div_div_eq_div_mul, Nat.pow_succ]

theorem mantissa_ofMantissaAndAccuracy (mantissa : Nat) (accuracy : Accuracy) :
    (ExtendedMantissa.ofMantissaAndAccuracy mantissa accuracy).mantissa = mantissa := by
  unfold ExtendedMantissa.ofMantissaAndAccuracy
  split <;> rfl

/-! ## Places of rows -/

theorem cast_twoTo (exponent : Nat) : ((twoTo exponent : Nat) : ℚ) = 2 ^ exponent := by
  rw [twoTo, Nat.pow_eq, Nat.cast_pow, Nat.cast_ofNat]

theorem value_of_row {row place : Nat} (below : place < 2 * rowLength)
    (above : row = 0 ∨ rowLength ≤ place) :
    value (row * rowLength + place) = place * (2 : ℚ) ^ ((row : Int) - 1074) := by
  rw [value, (units_of_row below above).2, Nat.cast_mul, cast_twoTo, unitsPerOne, cast_twoTo,
    zpow_sub₀ two_ne_zero, zpow_natCast, zpow_ofNat, mul_div_assoc]

/-- A number of few binary digits behind the point, by its place in the row of its size. -/
theorem value_of_place (number digits places : Nat) {index : Nat} (few : digits + places ≤ 1074)
    (inRow : rowLength ≤ number * twoTo digits ∧ number * twoTo digits < 2 * rowLength)
    (place : index = (1074 - (digits + places)) * rowLength + number * twoTo digits) :
    value index = number / 2 ^ places := by
  have exponent : ((1074 - (digits + places) : Nat) : Int) - 1074 = -(digits : Int) - places := by
    omega
  rw [place, value_of_row inRow.2 (.inr inRow.1), exponent, zpow_sub₀ two_ne_zero, zpow_neg,
    zpow_natCast, zpow_natCast, Nat.cast_mul, cast_twoTo]
  field_simp

/-- The next value behind a place of a row, and the middle before it. -/
theorem next_of_row {row place : Nat} (below : place < 2 * rowLength)
    (above : row = 0 ∨ rowLength ≤ place) :
    value (row * rowLength + place + 1) = (place + 1) * (2 : ℚ) ^ ((row : Int) - 1074) ∧
      middle (row * rowLength + place) = (place + 1 / 2) * (2 : ℚ) ^ ((row : Int) - 1074) := by
  have step : (twoTo row : ℚ) / unitsPerOne = (2 : ℚ) ^ ((row : Int) - 1074) := by
    rw [cast_twoTo, unitsPerOne, cast_twoTo, zpow_sub₀ two_ne_zero, zpow_natCast, zpow_ofNat]
  have next : value (row * rowLength + place + 1) =
      (place + 1) * (2 : ℚ) ^ ((row : Int) - 1074) := by
    rw [value, units_succ, Nat.cast_add, add_div, ← value, value_of_row below above,
      (units_of_row below above).1, step]
    ring
  refine ⟨next, ?_⟩
  rw [middle, next, value_of_row below above]
  ring

/-- What a shortened mantissa is rounded to is what its number rounds to. -/
theorem StandsFor.roundsTo {shortened : ExtendedMantissa} {number : ℚ}
    (stands : StandsFor shortened number) {row : Nat}
    (below : shortened.mantissa < 2 * rowLength)
    (above : row = 0 ∨ rowLength ≤ shortened.mantissa) :
    RoundsTo (number * (2 : ℚ) ^ ((row : Int) - 1074))
      (row * rowLength + shortened.roundedMantissa) := by
  have scale : (0 : ℚ) < (2 : ℚ) ^ ((row : Int) - 1074) := zpow_pos two_pos _
  have floor := value_of_row below above
  obtain ⟨next, middle⟩ := next_of_row below above
  have parity : (row * rowLength + shortened.mantissa) % 2 = shortened.mantissa % 2 := by
    rw [rowLength_eq]
    omega
  cases stands with
  | @exact place _ same =>
      rw [same, ← floor]
      exact .self _
  | @below place _ above under =>
      exact .of_floor (floor.trans_le (mul_le_mul_of_nonneg_right above.le scale.le))
        (.inl ((mul_lt_mul_of_pos_right under scale).trans_eq middle.symm))
  | @half place _ same =>
      rcases Nat.mod_two_eq_zero_or_one place with even | odd
      · have kept : (⟨place, true, false⟩ : ExtendedMantissa).roundedMantissa = place := by
          change place + place % 2 = place
          rw [even, Nat.add_zero]
        rw [kept, same, ← middle]
        exact .of_floor (value_lt_middle _).le (.inr ⟨rfl, parity.trans even⟩)
      · have raised : (⟨place, true, false⟩ : ExtendedMantissa).roundedMantissa = place + 1 := by
          change place + place % 2 = place + 1
          rw [odd]
        rw [raised, same, ← middle, ← Nat.add_assoc]
        exact .of_ceiling (middle_lt_value _) (.inr ⟨rfl, by omega⟩)
  | @beyond place _ above under =>
      have raised : (⟨place, true, true⟩ : ExtendedMantissa).roundedMantissa = place + 1 := rfl
      rw [raised, ← Nat.add_assoc]
      exact .of_ceiling ((mul_lt_mul_of_pos_right under scale).trans_eq next.symm)
        (.inl (middle.trans_lt (mul_lt_mul_of_pos_right above scale)))

/-! ## Exact results -/

theorem targetExponent_eq (mantissa : Nat) (exponent : Int) :
    Format.binary64.targetExponent (totalExponent mantissa exponent) =
      max ((mantissa.log2 : Int) + exponent - 52) (-1074) := by
  have bits : (Format.binary64.mantissaBits : Int) = 53 := rfl
  have least : Format.binary64.minExponent = -1074 := rfl
  rw [Format.targetExponent, totalExponent, bits, least]
  congr 1
  omega

/-- A place of a row is short enough for a double. -/
theorem shiftToTargetExponent_of_row {row place : Nat} (below : place < 2 * rowLength) :
    shiftToTargetExponent Format.binary64 place ((row : Int) - 1074) .exact =
      (⟨place, false, false⟩, (row : Int) - 1074) := by
  have size : place.log2 ≤ 52 := by
    by_cases zero : place = 0
    · rw [zero]
      decide
    · exact Nat.lt_succ_iff.mp ((Nat.log2_lt zero).mpr below)
  have short : (max ((place.log2 : Int) + ((row : Int) - 1074) - 52) (-1074) -
      ((row : Int) - 1074)).toNat = 0 := by omega
  rw [shiftToTargetExponent, targetExponent_eq, shiftToExponent, short]
  exact Prod.ext rfl (Int.add_zero _)

/-- Behind the last place of a row stands the first place of the next one. -/
theorem shiftToTargetExponent_full (row : Nat) :
    shiftToTargetExponent Format.binary64 (2 * rowLength) ((row : Int) - 1074) .exact =
      (⟨rowLength, false, false⟩, ((row + 1 : Nat) : Int) - 1074) := by
  have size : (2 * rowLength).log2 = 53 := by decide
  have long : (max ((53 : Nat) + ((row : Int) - 1074) - 52) (-1074) -
      ((row : Int) - 1074)).toNat = 1 := by omega
  rw [shiftToTargetExponent, targetExponent_eq, shiftToExponent, size, long]
  refine Prod.ext rfl ?_
  push_cast
  ring

theorem le_roundedMantissa (shortened : ExtendedMantissa) :
    shortened.mantissa ≤ shortened.roundedMantissa ∧
      shortened.roundedMantissa ≤ shortened.mantissa + 1 := by
  obtain ⟨place, round, sticky⟩ := shortened
  have remainder : place % 2 ≤ 1 := Nat.le_of_lt_succ (Nat.mod_lt place two_pos)
  cases round with
  | false => cases sticky <;> exact ⟨Nat.le_refl _, Nat.le_succ _⟩
  | true =>
      cases sticky with
      | false => exact ⟨Nat.le_add_right _ _, Nat.add_le_add_left remainder _⟩
      | true => exact ⟨Nat.le_succ _, Nat.le_refl _⟩

/-- A result that has all the digits of a double, or more, becomes the magnitude that the number
it stands for rounds to. -/
theorem exists_roundWithAccuracy (sign : Sign) {mantissa : Nat} {exponent : Int}
    {accuracy : Accuracy} {number : ℚ}
    (starts : StandsFor (.ofMantissaAndAccuracy mantissa accuracy) number)
    (long : exponent ≤ max ((mantissa.log2 : Int) + exponent - 52) (-1074)) :
    ∃ index, roundWithAccuracy Format.binary64 sign mantissa exponent accuracy =
        unpacked sign index ∧
      RoundsTo (number * (2 : ℚ) ^ exponent) index := by
  obtain ⟨row, isRow⟩ := Int.eq_ofNat_of_zero_le
    (a := max ((mantissa.log2 : Int) + exponent - 52) (-1074) + 1074) (by omega)
  obtain ⟨count, isCount⟩ := Int.eq_ofNat_of_zero_le
    (a := max ((mantissa.log2 : Int) + exponent - 52) (-1074) - exponent) (by omega)
  have moved : exponent + count = (row : Int) - 1074 := by omega
  have stands := starts.shiftRight count
  have isMantissa := mantissa_shiftRight (.ofMantissaAndAccuracy mantissa accuracy) count
  rw [mantissa_ofMantissaAndAccuracy] at isMantissa
  generalize isShortened :
    ExtendedMantissa.ofMantissaAndAccuracy mantissa accuracy >>> count = shortened
    at stands isMantissa
  have below : shortened.mantissa < 2 * rowLength := by
    rw [isMantissa]
    refine Nat.div_lt_of_lt_mul ?_
    calc mantissa < 2 ^ (mantissa.log2 + 1) := Nat.lt_log2_self
      _ ≤ 2 ^ (count + 53) := Nat.pow_le_pow_right two_pos (by omega)
      _ = 2 ^ count * (2 * rowLength) := by rw [pow_add]; rfl
  have above : row = 0 ∨ rowLength ≤ shortened.mantissa := by
    by_cases lowest : row = 0
    · exact .inl lowest
    · refine .inr ?_
      have nonzero : mantissa ≠ 0 := by
        rintro rfl
        have none : (0 : Nat).log2 = 0 := rfl
        omega
      rw [isMantissa]
      refine (Nat.le_div_iff_mul_le (Nat.two_pow_pos count)).mpr ?_
      calc rowLength * 2 ^ count = 2 ^ (52 + count) := by rw [pow_add]; rfl
        _ = 2 ^ mantissa.log2 := by congr 1; omega
        _ ≤ mantissa := Nat.log2_self_le nonzero
  have rounds := stands.roundsTo below above
  have exact : number / 2 ^ count * (2 : ℚ) ^ ((row : Int) - 1074) =
      number * (2 : ℚ) ^ exponent := by
    rw [← moved, zpow_add₀ two_ne_zero, zpow_natCast]
    field_simp
  have first : shiftToTargetExponent Format.binary64 mantissa exponent accuracy =
      (shortened, (row : Int) - 1074) := by
    rw [shiftToTargetExponent, targetExponent_eq, shiftToExponent, isCount, ← moved]
    exact congrArg (·, exponent + (count : Int)) isShortened
  obtain ⟨grown, bounded⟩ := le_roundedMantissa shortened
  refine ⟨row * rowLength + shortened.roundedMantissa, ?_, exact ▸ rounds⟩
  rw [roundWithAccuracy, first]
  dsimp only
  rcases Nat.lt_or_eq_of_le (Nat.le_trans bounded below) with inRow | full
  · rw [shiftToTargetExponent_of_row inRow,
      unpacked_of_row sign inRow (above.imp_right fun high => high.trans grown)]
    dsimp only
    by_cases zero : shortened.roundedMantissa = 0
    · rw [dif_pos zero, dif_neg (by omega)]
    · rw [dif_neg zero, dif_pos (Nat.pos_of_ne_zero zero)]
  · have next : row * rowLength + 2 * rowLength = (row + 1) * rowLength + rowLength := by ring
    have positive := rowLength_pos
    rw [full, shiftToTargetExponent_full, next,
      unpacked_of_row sign (by omega) (.inr (Nat.le_refl _))]
    dsimp only
    rw [dif_neg positive.ne', dif_pos positive]

/-- An exact result of any length becomes the magnitude that it rounds to. -/
theorem exists_round (sign : Sign) (mantissa : Nat) (exponent : Int) (positive : mantissa ≠ 0) :
    ∃ index, UnpackedFloat.round Format.binary64 sign mantissa exponent = unpacked sign index ∧
      RoundsTo (mantissa * (2 : ℚ) ^ exponent) index := by
  obtain ⟨count, isCount⟩ := Int.eq_ofNat_of_zero_le
    (a := max (exponent - max ((mantissa.log2 : Int) + exponent - 52) (-1074)) 0) (by omega)
  have padded : decreaseExponent mantissa exponent
      (max ((mantissa.log2 : Int) + exponent - 52) (-1074)) =
        (mantissa * 2 ^ count, exponent - count) := by
    have amount : (exponent - max ((mantissa.log2 : Int) + exponent - 52) (-1074)).toNat =
        count := by omega
    rw [decreaseExponent, amount, Nat.shiftLeft_eq]
  have size : (mantissa * 2 ^ count).log2 = mantissa.log2 + count := by
    have nonzero : mantissa * 2 ^ count ≠ 0 :=
      Nat.mul_ne_zero positive (Nat.two_pow_pos count).ne'
    refine (Nat.log2_eq_iff nonzero).mpr ⟨?_, ?_⟩
    · rw [pow_add]
      exact Nat.mul_le_mul_right _ (Nat.log2_self_le positive)
    · rw [Nat.add_right_comm, pow_add]
      exact Nat.mul_lt_mul_of_pos_right Nat.lt_log2_self (Nat.two_pow_pos count)
  have long : exponent - count ≤
      max (((mantissa * 2 ^ count).log2 : Int) + (exponent - count) - 52) (-1074) := by
    rw [size]
    omega
  obtain ⟨index, result, rounds⟩ := exists_roundWithAccuracy sign (.of_exact _) long
  have exact : ((mantissa * 2 ^ count : Nat) : ℚ) * (2 : ℚ) ^ (exponent - count) =
      mantissa * (2 : ℚ) ^ exponent := by
    rw [zpow_sub₀ two_ne_zero, zpow_natCast]
    push_cast
    field_simp
  refine ⟨index, ?_, exact ▸ rounds⟩
  rw [UnpackedFloat.round, targetExponent_eq, padded]
  exact result

/-! ## Doubles of results -/

theorem isFinite_ofIndex (negative : Bool) {index : Nat} (finite : index < infiniteIndex) :
    isFinite (ofIndex negative index) = true := by
  rw [isFinite, index_ofIndex negative finite.le]
  exact decide_eq_true finite

theorem pack_unpacked (negative : Bool) {index : Nat} (finite : index < infiniteIndex) :
    (⟨Float.Model.pack (unpacked (signOf negative) index)⟩ : Float) = ofIndex negative index := by
  have unpack := unpack_eq (isFinite_ofIndex negative finite)
  rw [isNegative_ofIndex _ finite.le, index_ofIndex _ finite.le] at unpack
  rw [← unpack, pack_unpack_toModel]

theorem signOf_mul (negative other : Bool) :
    signOf negative * signOf other = signOf (negative != other) := by
  cases negative <;> cases other <;> rfl

theorem exists_mul_unpacked (negative otherNegative : Bool) (index other : Nat) :
    ∃ result, UnpackedFloat.mul Format.binary64 (unpacked (signOf negative) index)
        (unpacked (signOf otherNegative) other) =
          unpacked (signOf (negative != otherNegative)) result ∧
      RoundsTo (value index * value other) result := by
  obtain ⟨row, place, rfl, below, above⟩ := exists_row index
  obtain ⟨otherRow, otherPlace, rfl, otherBelow, otherAbove⟩ := exists_row other
  rw [unpacked_of_row _ below above, unpacked_of_row _ otherBelow otherAbove,
    value_of_row below above, value_of_row otherBelow otherAbove, ← signOf_mul]
  by_cases positive : 0 < place
  · rw [dif_pos positive]
    by_cases otherPositive : 0 < otherPlace
    · rw [dif_pos otherPositive]
      have nonzero : place * otherPlace ≠ 0 := (Nat.mul_pos positive otherPositive).ne'
      -- two factors of the lowest row make a result that is below all digits of a double
      have long : ((row : Int) - 1074 + ((otherRow : Int) - 1074)) ≤
          max (((place * otherPlace).log2 : Int) + ((row : Int) - 1074 + ((otherRow : Int) - 1074))
            - 52) (-1074) := by
        have digits : row = 0 ∧ otherRow = 0 ∨ 52 ≤ (place * otherPlace).log2 := by
          rcases above with lowest | high
          · rcases otherAbove with otherLowest | otherHigh
            · exact .inl ⟨lowest, otherLowest⟩
            · exact .inr ((Nat.le_log2 nonzero).mpr
                (otherHigh.trans (Nat.le_mul_of_pos_left _ positive)))
          · exact .inr ((Nat.le_log2 nonzero).mpr
              (high.trans (Nat.le_mul_of_pos_right _ otherPositive)))
        omega
      obtain ⟨result, isResult, rounds⟩ :=
        exists_roundWithAccuracy (signOf negative * signOf otherNegative) (.of_exact _) long
      refine ⟨result, isResult, ?_⟩
      rw [zpow_add₀ two_ne_zero] at rounds
      push_cast at rounds
      rwa [mul_mul_mul_comm]
    · rw [dif_neg otherPositive, Nat.eq_zero_of_not_pos otherPositive, Nat.cast_zero, zero_mul,
        mul_zero, ← value_zero]
      exact ⟨0, rfl, .self 0⟩
  · rw [dif_neg positive, Nat.eq_zero_of_not_pos positive, Nat.cast_zero, zero_mul, zero_mul,
      ← value_zero]
    refine ⟨0, ?_, .self 0⟩
    split <;> rfl

/-- The product of two doubles is the double that the product of their magnitudes rounds to,
with the sign that the two give. -/
theorem exists_mul {x y : Float} (finite : isFinite x = true) (otherFinite : isFinite y = true) :
    ∃ result, RoundsTo (value (index x) * value (index y)) result ∧
      (result < infiniteIndex → x * y = ofIndex (isNegative x != isNegative y) result) := by
  obtain ⟨result, isResult, rounds⟩ :=
    exists_mul_unpacked (isNegative x) (isNegative y) (index x) (index y)
  refine ⟨result, rounds, fun bounded => ?_⟩
  rw [← unpack_eq finite, ← unpack_eq otherFinite] at isResult
  rw [← pack_unpacked _ bounded, ← isResult]
  rfl

/-- The quotient of mantissas is taken with all the digits of a double, or more. -/
theorem exists_divCore {mantissa divisor : Nat} (positive : mantissa ≠ 0) (nonzero : divisor ≠ 0)
    (exponent divisorExponent : Int) :
    ∃ (count : Nat) (lowered : Int), lowered + count = exponent - divisorExponent ∧
      divCore Format.binary64 mantissa exponent divisor divisorExponent =
        (mantissa * 2 ^ count / divisor, lowered,
          accuracyOfFraction (mantissa * 2 ^ count % divisor) divisor) ∧
      lowered ≤ max (((mantissa * 2 ^ count / divisor).log2 : Int) + lowered - 52) (-1074) := by
  have bits : (Format.binary64.mantissaBits : Int) = 53 := rfl
  have least : Format.binary64.minExponent = -1074 := rfl
  unfold divCore
  rw [Format.targetExponent, totalExponent, totalExponent, bits, least]
  dsimp only
  generalize isLowered : min (exponent - divisorExponent) (max ((mantissa.log2 : Int) + 1 +
    exponent - (divisor.log2 + 1 + divisorExponent) - 53) (-1074)) = lowered
  refine ⟨(exponent - divisorExponent - lowered).toNat, lowered, by omega, ?_, ?_⟩
  · rw [Nat.shiftLeft_eq]
  · generalize isCount : (exponent - divisorExponent - lowered).toNat = count
    by_cases lowest : lowered ≤ -1074
    · omega
    · have long : divisor.log2 + 1 + 52 ≤ mantissa.log2 + count := by omega
      have digits : 2 ^ 52 ≤ mantissa * 2 ^ count / divisor := by
        refine (Nat.le_div_iff_mul_le (Nat.pos_of_ne_zero nonzero)).mpr ?_
        calc 2 ^ 52 * divisor ≤ 2 ^ 52 * 2 ^ (divisor.log2 + 1) :=
              Nat.mul_le_mul_left _ Nat.lt_log2_self.le
          _ = 2 ^ (divisor.log2 + 1 + 52) := by rw [← pow_add, Nat.add_comm 52]
          _ ≤ 2 ^ (mantissa.log2 + count) := Nat.pow_le_pow_right two_pos long
          _ = 2 ^ mantissa.log2 * 2 ^ count := pow_add _ _ _
          _ ≤ mantissa * 2 ^ count := Nat.mul_le_mul_right _ (Nat.log2_self_le positive)
      have quotientNonzero : mantissa * 2 ^ count / divisor ≠ 0 := by omega
      have size := (Nat.le_log2 quotientNonzero).mpr digits
      omega

theorem exists_div_unpacked (negative otherNegative : Bool) (index : Nat) {other : Nat}
    (nonzero : 0 < other) :
    ∃ result, UnpackedFloat.div Format.binary64 (unpacked (signOf negative) index)
        (unpacked (signOf otherNegative) other) =
          unpacked (signOf (negative != otherNegative)) result ∧
      RoundsTo (value index / value other) result := by
  obtain ⟨row, place, rfl, below, above⟩ := exists_row index
  obtain ⟨otherRow, otherPlace, rfl, otherBelow, otherAbove⟩ := exists_row other
  have otherPositive : 0 < otherPlace := by
    have positive := rowLength_pos
    rcases otherAbove with lowest | high
    · rw [lowest] at nonzero
      omega
    · omega
  rw [unpacked_of_row _ below above, unpacked_of_row _ otherBelow otherAbove,
    value_of_row below above, value_of_row otherBelow otherAbove, ← signOf_mul,
    dif_pos otherPositive]
  by_cases positive : 0 < place
  · rw [dif_pos positive]
    obtain ⟨count, lowered, isLowered, quotient, long⟩ := exists_divCore positive.ne'
      otherPositive.ne' ((row : Int) - 1074) ((otherRow : Int) - 1074)
    obtain ⟨result, isResult, rounds⟩ := exists_roundWithAccuracy
      (signOf negative * signOf otherNegative) (.of_fraction _ otherPositive) long
    refine ⟨result, ?_, ?_⟩
    · rw [← isResult]
      change roundWithAccuracy Format.binary64 _ (divCore _ _ _ _ _).1 (divCore _ _ _ _ _).2.1
        (divCore _ _ _ _ _).2.2 = _
      rw [quotient]
      rfl
    · have powers : (2 : ℚ) ^ ((row : Int) - 1074) =
          2 ^ count * 2 ^ lowered * 2 ^ ((otherRow : Int) - 1074) := by
        rw [← zpow_natCast, ← zpow_add₀ two_ne_zero, ← zpow_add₀ two_ne_zero]
        congr 1
        omega
      have same : ((place * 2 ^ count : Nat) : ℚ) / otherPlace * 2 ^ lowered =
          place * 2 ^ ((row : Int) - 1074) / (otherPlace * 2 ^ ((otherRow : Int) - 1074)) := by
        rw [powers]
        push_cast
        field_simp
      rw [← same]
      exact rounds
  · rw [dif_neg positive, Nat.eq_zero_of_not_pos positive, Nat.cast_zero, zero_mul, zero_div,
      ← value_zero]
    exact ⟨0, rfl, .self 0⟩

/-- The quotient of two doubles is the double that the quotient of their magnitudes rounds to,
with the sign that the two give. -/
theorem exists_div {x y : Float} (finite : isFinite x = true) (otherFinite : isFinite y = true)
    (nonzero : 0 < index y) :
    ∃ result, RoundsTo (value (index x) / value (index y)) result ∧
      (result < infiniteIndex → x / y = ofIndex (isNegative x != isNegative y) result) := by
  obtain ⟨result, isResult, rounds⟩ :=
    exists_div_unpacked (isNegative x) (isNegative y) (index x) nonzero
  refine ⟨result, rounds, fun bounded => ?_⟩
  rw [← unpack_eq finite, ← unpack_eq otherFinite] at isResult
  rw [← pack_unpacked _ bounded, ← isResult]
  rfl

/-- A mantissa that is padded to a lower exponent stands for the same number. -/
theorem padded_eq {exponent lower : Int} (order : lower ≤ exponent) (mantissa : Nat) :
    ((decreaseExponent mantissa exponent lower).1 : ℚ) * (2 : ℚ) ^ lower =
      mantissa * (2 : ℚ) ^ exponent := by
  have moved : exponent = (exponent - lower).toNat + lower := by omega
  rw [decreaseExponent, Nat.shiftLeft_eq, Nat.cast_mul, Nat.cast_pow, Nat.cast_ofNat, mul_assoc,
    ← zpow_natCast, ← zpow_add₀ two_ne_zero, ← moved]

theorem add_finite (mantissa other : Nat) (exponent otherExponent : Int)
    (positive : 0 < mantissa) (otherPositive : 0 < other) :
    ∃ result, UnpackedFloat.add Format.binary64 (.finite .positive mantissa exponent positive)
        (.finite .positive other otherExponent otherPositive) = unpacked .positive result ∧
      RoundsTo (mantissa * (2 : ℚ) ^ exponent + other * (2 : ℚ) ^ otherExponent) result := by
  have first := padded_eq (min_le_left exponent otherExponent) mantissa
  have second := padded_eq (min_le_right exponent otherExponent) other
  have nonzero : (decreaseExponent mantissa exponent (min exponent otherExponent)).1 ≠ 0 := by
    rw [decreaseExponent, Nat.shiftLeft_eq]
    exact (Nat.mul_pos positive (Nat.two_pow_pos _)).ne'
  have sum : UnpackedFloat.add Format.binary64 (.finite .positive mantissa exponent positive)
      (.finite .positive other otherExponent otherPositive) =
        normalize Format.binary64
          (((decreaseExponent mantissa exponent (min exponent otherExponent)).1 : Int) +
            (decreaseExponent other otherExponent (min exponent otherExponent)).1)
          (min exponent otherExponent) .positive := rfl
  generalize (decreaseExponent mantissa exponent (min exponent otherExponent)).1 = padded at *
  generalize (decreaseExponent other otherExponent (min exponent otherExponent)).1 = otherPadded
    at *
  obtain ⟨result, isResult, rounds⟩ := exists_round .positive (padded + otherPadded)
    (min exponent otherExponent) (by omega)
  have above : compare ((padded : Int) + otherPadded) 0 = .gt :=
    compare_gt_iff_gt.mpr (by omega)
  refine ⟨result, ?_, ?_⟩
  · rw [sum, UnpackedFloat.normalize, above]
    exact isResult
  · rw [← first, ← second, ← add_mul]
    exact_mod_cast rounds

theorem exists_add_unpacked (index other : Nat) :
    ∃ result, UnpackedFloat.add Format.binary64 (unpacked .positive index)
        (unpacked .positive other) = unpacked .positive result ∧
      RoundsTo (value index + value other) result := by
  obtain ⟨row, place, isPlace, below, above⟩ := exists_row index
  obtain ⟨otherRow, otherPlace, isOtherPlace, otherBelow, otherAbove⟩ := exists_row other
  have zero := eq_zero_of_place isPlace above
  have otherZero := eq_zero_of_place isOtherPlace otherAbove
  by_cases positive : 0 < place
  · by_cases otherPositive : 0 < otherPlace
    · rw [isPlace, isOtherPlace, unpacked_of_row _ below above,
        unpacked_of_row _ otherBelow otherAbove, value_of_row below above,
        value_of_row otherBelow otherAbove, dif_pos positive, dif_pos otherPositive]
      exact add_finite place otherPlace _ _ positive otherPositive
    · rw [otherZero.mpr otherPositive, value_zero, add_zero, isPlace, unpacked_of_row _ below above,
        dif_pos positive]
      refine ⟨row * rowLength + place, ?_, .self _⟩
      rw [unpacked_of_row _ below above, dif_pos positive]
      rfl
  · rw [zero.mpr positive, value_zero, zero_add]
    refine ⟨other, ?_, .self other⟩
    rw [isOtherPlace, unpacked_of_row _ otherBelow otherAbove]
    split <;> rfl

/-- The sum of two doubles without signs is the double that the sum of their magnitudes rounds
to. -/
theorem exists_add {x y : Float} (finite : isFinite x = true) (otherFinite : isFinite y = true)
    (unsigned : isNegative x = false) (otherUnsigned : isNegative y = false) :
    ∃ result, RoundsTo (value (index x) + value (index y)) result ∧
      (result < infiniteIndex → x + y = ofIndex false result) := by
  obtain ⟨result, isResult, rounds⟩ := exists_add_unpacked (index x) (index y)
  have first := unpack_eq finite
  have second := unpack_eq otherFinite
  rw [unsigned] at first
  rw [otherUnsigned] at second
  refine ⟨result, rounds, fun bounded => ?_⟩
  rw [← pack_unpacked false bounded]
  change _ = (⟨Float.Model.pack (unpacked .positive result)⟩ : Float)
  rw [← isResult]
  change (⟨Float.Model.pack (UnpackedFloat.add Format.binary64 x.toModel.unpack
    y.toModel.unpack)⟩ : Float) = _
  rw [first, second]
  rfl

/-! ## Numbers with few digits -/

/-- A number with at most as many digits as a double, some of them behind the point, is the value
of a double. -/
theorem exists_value_eq {n : Nat} (short : n < 2 * rowLength) {places : Nat}
    (few : places ≤ 1022) : ∃ index < infiniteIndex, value index = n / 2 ^ places := by
  by_cases none : n = 0
  · exact ⟨0, by decide, by rw [value_zero, none, Nat.cast_zero, zero_div]⟩
  · have size : n.log2 ≤ 52 := Nat.lt_succ_iff.mp ((Nat.log2_lt none).mpr short)
    have low : rowLength ≤ n * 2 ^ (52 - n.log2) := by
      calc rowLength = 2 ^ n.log2 * 2 ^ (52 - n.log2) := by
            rw [← pow_add, Nat.add_sub_cancel' size]; rfl
        _ ≤ n * 2 ^ (52 - n.log2) := Nat.mul_le_mul_right _ (Nat.log2_self_le none)
    have high : n * 2 ^ (52 - n.log2) < 2 * rowLength := by
      calc n * 2 ^ (52 - n.log2) < 2 ^ (n.log2 + 1) * 2 ^ (52 - n.log2) :=
            Nat.mul_lt_mul_of_pos_right Nat.lt_log2_self (Nat.two_pow_pos _)
        _ = 2 ^ 53 := by rw [← pow_add]; congr 1; omega
        _ = 2 * rowLength := rfl
    refine ⟨(1022 + n.log2 - places) * rowLength + n * 2 ^ (52 - n.log2), ?_, ?_⟩
    · rw [infiniteIndex]
      rw [rowLength_eq] at *
      omega
    · have exponent : ((1022 + n.log2 - places : Nat) : Int) - 1074 =
          -((52 - n.log2 : Nat) : Int) - places := by omega
      rw [value_of_row high (.inr low), exponent, zpow_sub₀ two_ne_zero, zpow_neg, zpow_natCast,
        zpow_natCast]
      push_cast
      field_simp

theorem toFloat_toUInt64 {n : Nat} (short : n < 2 * rowLength) {index : Nat}
    (finite : index < infiniteIndex) (same : value index = n) :
    n.toUInt64.toFloat = ofIndex false index := by
  have bounded : n.toUInt64.toNat = n := by
    rw [rowLength_eq] at short
    exact Nat.mod_eq_of_lt (by omega)
  rw [← pack_unpacked false finite]
  change (⟨Float.Model.pack (UnpackedFloat.ofNat Format.binary64 n.toUInt64.toNat)⟩ : Float) = _
  congr 2
  rw [bounded]
  change normalize Format.binary64 (n : Int) 0 .positive = unpacked .positive index
  by_cases none : n = 0
  · have zero : index = 0 := value_strictMono.injective (by rw [same, none, value_zero]; rfl)
    rw [none, zero]
    rfl
  · obtain ⟨result, isResult, rounds⟩ := exists_round .positive n 0 none
    rw [zpow_zero, mul_one, ← same] at rounds
    rw [← rounds.unique (.self index), ← isResult]
    obtain ⟨before, rfl⟩ := Nat.exists_eq_succ_of_ne_zero none
    rfl

theorem exists_toFloat {n : Nat} (short : n < 2 * rowLength) :
    ∃ index < infiniteIndex, value index = n ∧ Nat.toFloat n = ofIndex false index := by
  have one : value (index (Float.ofBits 4607182418800017408)) = 1 := by
    rw [value_of_place 1 52 0 (by decide) (by decide) (by decide), pow_zero, Nat.cast_one, div_one]
  obtain ⟨result, finite, same⟩ := exists_value_eq short (Nat.zero_le 1022)
  rw [pow_zero, div_one] at same
  refine ⟨result, finite, same, ?_⟩
  have resultIndex := index_ofIndex false finite.le
  have whole := toFloat_toUInt64 short finite same
  obtain ⟨product, rounds, isProduct⟩ := exists_mul (isFinite_ofIndex false finite)
    (y := Float.ofBits 4607182418800017408) (by decide)
  rw [resultIndex, one, mul_one] at rounds
  obtain rfl := rounds.unique (.self result)
  have scientific : Nat.toFloat n = n.toUInt64.toFloat * Float.ofBits 4607182418800017408 := by
    change Float.ofScientific n false 0 = _
    rw [Float.ofScientific, dif_pos ⟨short, Nat.zero_le 22⟩]
    rfl
  have plus : isNegative (Float.ofBits 4607182418800017408) = false := by decide
  rw [scientific, whole, isProduct finite, isNegative_ofIndex _ finite.le, plus]
  rfl

/-! ## Bounds of what is rounded -/

namespace RoundsTo

variable {number : ℚ} {index : Nat}

/-- Rounding does not go beyond a number with few digits. -/
theorem value_le (rounds : RoundsTo number index) {n : Nat} (short : n < 2 * rowLength)
    {places : Nat} (few : places ≤ 1022) (bound : number ≤ n / 2 ^ places) :
    value index ≤ n / 2 ^ places := by
  obtain ⟨other, _, same⟩ := exists_value_eq short few
  rw [← same] at bound ⊢
  exact value_strictMono.monotone (rounds.mono bound (.self other))

theorem le_value (rounds : RoundsTo number index) {n : Nat} (short : n < 2 * rowLength)
    {places : Nat} (few : places ≤ 1022) (bound : n / 2 ^ places ≤ number) :
    n / 2 ^ places ≤ value index := by
  obtain ⟨other, _, same⟩ := exists_value_eq short few
  rw [← same] at bound ⊢
  exact value_strictMono.monotone (mono bound (.self other) rounds)

end RoundsTo

theorem value_rowOfOne : value (1023 * rowLength) = 1 := by
  rw [value_of_place 1 52 0 (by decide) (by decide) (by decide), pow_zero, Nat.cast_one, div_one]

/-- Doubles in the unit interval stand close together. -/
theorem value_succ_le {index : Nat} (inside : index < 1023 * rowLength) :
    value (index + 1) ≤ value index + 1 / 2 ^ 53 := by
  have row : binade index ≤ 1021 := by
    have quotient : index / rowLength < 1023 :=
      Nat.div_lt_of_lt_mul (Nat.mul_comm 1023 rowLength ▸ inside)
    rw [binade]
    omega
  have step : twoTo (binade index) * twoTo 53 ≤ unitsPerOne := by
    rw [← twoTo_add]
    exact twoTo_mono (by omega)
  have scaled : (twoTo (binade index) : ℚ) * 2 ^ 53 ≤ 1 * unitsPerOne := by
    rw [one_mul, ← cast_twoTo 53]
    exact_mod_cast step
  rw [value, units_succ, Nat.cast_add, add_div, ← value]
  exact add_le_add le_rfl ((div_le_div_iff₀ unitsPerOne_pos (by positivity)).mpr scaled)

/-- What a number of the unit interval is rounded to is close to it. -/
theorem RoundsTo.close {number : ℚ} {index : Nat} (rounds : RoundsTo number index)
    (nonnegative : 0 ≤ number) (unit : number ≤ 1) :
    value index - 1 / 2 ^ 53 ≤ number ∧ number ≤ value index + 1 / 2 ^ 53 := by
  have tiny : (0 : ℚ) < 1 / 2 ^ 53 := by positivity
  have inside : index ≤ 1023 * rowLength :=
    rounds.mono (unit.trans_eq value_rowOfOne.symm) (.self _)
  constructor
  · cases index with
    | zero =>
        rw [value_zero]
        linarith
    | succ lower =>
        have step := value_succ_le inside
        have between := value_lt_middle lower
        rcases rounds.above lower rfl with above | ⟨same, _⟩ <;> linarith
  · by_cases last : index = 1023 * rowLength
    · rw [last, value_rowOfOne]
      linarith
    · have step := value_succ_le (Nat.lt_of_le_of_ne inside last)
      have between := middle_lt_value index
      rcases rounds.below with below | ⟨same, _⟩ <;> linarith

/-! ## Whole parts -/

theorem wholePart_eq {index n : Nat} (low : n ≤ value index) (high : value index < n + 1) :
    wholePart index = n := by
  rw [value, le_div_iff₀ unitsPerOne_pos] at low
  rw [value, div_lt_iff₀ unitsPerOne_pos] at high
  rw [wholePart]
  exact Nat.div_eq_of_lt_le (by exact_mod_cast low) (by exact_mod_cast high)

theorem shifted_div_eq {left right row low : Nat} (place : Nat)
    (balanced : left + low = row + right) :
    place * 2 ^ left / 2 ^ right = place * twoTo row / twoTo low := by
  calc place * 2 ^ left / 2 ^ right = place * 2 ^ left * 2 ^ low / (2 ^ right * 2 ^ low) :=
        (Nat.mul_div_mul_right _ _ (Nat.two_pow_pos low)).symm
    _ = place * 2 ^ row * 2 ^ right / (2 ^ low * 2 ^ right) := by
        rw [mul_assoc, ← pow_add, balanced, pow_add, ← mul_assoc, mul_comm (2 ^ right)]
    _ = place * twoTo row / twoTo low := Nat.mul_div_mul_right _ _ (Nat.two_pow_pos right)

/-- What is left of a place in front of the point. -/
theorem roundToInt_of_row (row place : Nat) :
    roundToInt .positive place ((row : Int) - 1074) = (place * twoTo row / unitsPerOne : Nat) := by
  have padded : decreaseExponent place ((row : Int) - 1074) 0 =
      (place * 2 ^ (row - 1074), (row : Int) - 1074 - (row - 1074 : Nat)) := by
    have amount : ((row : Int) - 1074 - 0).toNat = row - 1074 := by omega
    rw [decreaseExponent, amount, Nat.shiftLeft_eq]
  have dropped : (0 - ((row : Int) - 1074 - (row - 1074 : Nat))).toNat = 1074 - row := by omega
  have balanced : row - 1074 + 1074 = row + (1074 - row) := by omega
  have whole : place * twoTo row / unitsPerOne = place * 2 ^ (row - 1074) / 2 ^ (1074 - row) :=
    (shifted_div_eq place balanced).symm
  have shortened := mantissa_shiftRight ⟨place * 2 ^ (row - 1074), false, false⟩ (1074 - row)
  rw [roundToInt, padded]
  dsimp only
  rw [shiftToExponent, dropped, whole, ← shortened]
  rfl

/-- A byte of a double without a sign is its whole part, as far as a byte can hold it. -/
theorem toNat_toUInt8 {x : Float} (finite : isFinite x = true) (unsigned : isNegative x = false)
    (small : wholePart (index x) < 256) : x.toUInt8.toNat = wholePart (index x) := by
  obtain ⟨row, place, isPlace, below, above⟩ := exists_row (index x)
  have unpack := unpack_eq finite
  rw [unsigned, isPlace, unpacked_of_row _ below above] at unpack
  have whole : (x.toModel.unpack.toInt 0 (UInt8.size - 1)).toNat = wholePart (index x) := by
    rw [unpack, isPlace, wholePart, (units_of_row below above).2]
    by_cases positive : 0 < place
    · rw [dif_pos positive]
      exact congrArg Int.toNat (roundToInt_of_row row place)
    · rw [dif_neg positive, Nat.eq_zero_of_not_pos positive, Nat.zero_mul, Nat.zero_div]
      rfl
  change (UInt8.ofNatClamp (x.toModel.unpack.toInt 0 (UInt8.size - 1)).toNat).toNat = _
  rw [whole, UInt8.toNat_ofNatClamp_of_lt small]

end SceneComponent.Binary64
