import Mathlib
import SceneComponent.Proofs.Decimal.CoarsestGrid
import SceneComponent.Proofs.Value.WholeNumbers

/-!
# Rounding half up

Rounded to places, a decimal becomes a multiple of a power of ten: the floor of how often the
power goes into it, and a half.  So larger doubles are not rounded to smaller ones, the
rounded double of a finite one is finite, and a second rounding to as many places or more
changes nothing: the decimal that was rounded to lies on the grid of those places, and no
decimal that reads back as the rounded double lies on a coarser grid than its shortest one.

A decimal context bounds the digits and the exponents of what it quantizes.  With the digits
that rounding asks for, the digit of a carry included, it refuses the places that rounding
refuses and no others.
-/

set_option autoImplicit false

namespace SceneComponent.Decimal

open Binary64

/-! ## Multiples of a power of ten -/

/-- How often `10 ^ exponent` goes into a decimal, a half going up. -/
def halfUpMultiple (decimal : Decimal) (exponent : Int) : Nat :=
  ⌊decimal.value / 10 ^ exponent + 1 / 2⌋₊

theorem zpow_ten_pos (exponent : Int) : (0 : ℚ) < 10 ^ exponent := by positivity

theorem floor_add_half (n : Nat) : ⌊(n : ℚ) + 1 / 2⌋₊ = n :=
  (Nat.floor_eq_iff (by positivity)).mpr ⟨by linarith, by linarith⟩

theorem halfUpMultiple_of_multiple {decimal : Decimal} {exponent : Int} {multiple : Nat}
    (exact : decimal.value = multiple * 10 ^ exponent) :
    decimal.halfUpMultiple exponent = multiple := by
  rw [halfUpMultiple, exact, mul_div_cancel_right₀ _ (zpow_ten_pos exponent).ne', floor_add_half]

theorem halfUpMultiple_congr {first second : Decimal} (same : first.value = second.value)
    (exponent : Int) : first.halfUpMultiple exponent = second.halfUpMultiple exponent := by
  rw [halfUpMultiple, halfUpMultiple, same]

theorem halfUpMultiple_mono {first second : Decimal} (ordered : first.value ≤ second.value)
    (exponent : Int) : first.halfUpMultiple exponent ≤ second.halfUpMultiple exponent := by
  unfold halfUpMultiple
  have power := zpow_ten_pos exponent
  gcongr

theorem multiple_of_le_exponent {decimal : Decimal} {exponent : Int}
    (coarse : exponent ≤ decimal.exponent) :
    decimal.value =
      ((decimal.coefficient * tenTo (decimal.exponent - exponent).toNat : Nat) : ℚ) *
        10 ^ exponent := by
  rw [Nat.cast_mul, cast_tenTo, Int.toNat_of_nonneg (by omega), mul_assoc,
    ← zpow_add₀ (by norm_num), Int.sub_add_cancel, value]

/-- When the first digit stands below the first place, less than a half is left. -/
theorem halfUpMultiple_of_small {decimal : Decimal} {places : Int}
    (small : decimal.leadingExponent + 1 < places) : decimal.halfUpMultiple places = 0 := by
  have bound : decimal.value < 10 ^ (places - 1) :=
    (value_lt_of_leadingExponent decimal).trans_le
      (zpow_le_zpow_right₀ (by norm_num) (by omega))
  rw [zpow_sub_one₀ (by norm_num)] at bound
  have tenth := (div_lt_iff₀' (zpow_ten_pos places)).mpr bound
  exact Nat.floor_eq_zero.mpr (by linarith)

theorem halfUpMultiple_of_fine {decimal : Decimal} {places : Int}
    (fine : decimal.exponent < places) :
    decimal.halfUpMultiple places =
      (2 * decimal.coefficient + tenTo (places - decimal.exponent).toNat) /
        (2 * tenTo (places - decimal.exponent).toNat) := by
  have step : ((tenTo (places - decimal.exponent).toNat : Nat) : ℚ) * 10 ^ decimal.exponent =
      10 ^ places := by
    rw [cast_tenTo, Int.toNat_of_nonneg (by omega), ← zpow_add₀ (by norm_num),
      Int.sub_add_cancel]
  have stepPositive : (0 : ℚ) < (tenTo (places - decimal.exponent).toNat : Nat) :=
    Nat.cast_pos.mpr (tenTo_pos _)
  generalize tenTo (places - decimal.exponent).toNat = count at *
  rw [halfUpMultiple, ← Nat.floor_div_eq_div (K := ℚ), ← step, value,
    mul_div_mul_right _ _ (zpow_ten_pos _).ne']
  push_cast
  field_simp

theorem value_roundHalfUp (decimal : Decimal) (places : Int) :
    (decimal.roundHalfUp places).value = decimal.halfUpMultiple places * 10 ^ places := by
  unfold roundHalfUp
  split
  · next coarse =>
      have exact := multiple_of_le_exponent coarse
      rw [halfUpMultiple_of_multiple exact, ← exact]
  · next fine =>
      split
      · next small => rw [halfUpMultiple_of_small small, value]
      · rw [halfUpMultiple_of_fine (Int.not_le.mp fine), value]

theorem le_exponent_roundHalfUp (decimal : Decimal) (places : Int) :
    places ≤ (decimal.roundHalfUp places).exponent := by
  unfold roundHalfUp
  split
  · assumption
  · split <;> exact Int.le_refl places

/-! ## Rounded doubles -/

theorem roundIndex_mono {low high : Nat} (ordered : low ≤ high) (places : Int) :
    roundIndex low places ≤ roundIndex high places := by
  apply nearestIndex_mono
  rw [value_roundHalfUp, value_roundHalfUp]
  exact mul_le_mul_of_nonneg_right
    (Nat.cast_le.mpr (halfUpMultiple_mono (value_shortest_mono ordered) _)) (zpow_ten_pos _).le

variable {index : Nat} {places : Int}

/-- The double nearest to a multiple is the same for all decimals of one value. -/
theorem nearestIndex_halfUpMultiple {decimal : Decimal}
    (same : decimal.value = (shortest index).value) (places : Int) :
    (Decimal.mk (decimal.halfUpMultiple (-places)) (-places)).nearestIndex =
      roundIndex index places := by
  apply nearestIndex_congr
  rw [value_roundHalfUp, value, halfUpMultiple_congr same]

/-- A finite double is not rounded to infinity: the largest one is whole. -/
theorem roundIndex_lt_infinite (nonnegative : 0 ≤ places) (finite : index < infiniteIndex) :
    roundIndex index places < infiniteIndex := by
  have largest : infiniteIndex - 1 < infiniteIndex := by decide
  have whole : isWhole (infiniteIndex - 1) = true := by decide +kernel
  have kept := roundIndex_of_isWhole nonnegative largest whole
  have ordered := roundIndex_mono (Nat.le_sub_one_of_lt finite) places
  omega

theorem roundsTo_roundIndex (nonnegative : 0 ≤ places) (finite : index < infiniteIndex) :
    RoundsTo ((shortest index).roundHalfUp (-places)).value (roundIndex index places) := by
  have bounded := roundIndex_lt_infinite nonnegative finite
  obtain ⟨rounded, rounds⟩ := ((shortest index).roundHalfUp (-places)).exists_roundsTo
  have reads := nearestIndex_eq_of_roundsTo rounds
  rw [roundIndex] at *
  have same : ((shortest index).roundHalfUp (-places)).nearestIndex = rounded := by omega
  rwa [same]

/-- A double whose shortest decimal has no more digits after the point than are kept is not
changed. -/
theorem roundIndex_of_multiple {multiple : Nat} (finite : index < infiniteIndex)
    (exact : (shortest index).value = multiple * 10 ^ (-places)) :
    roundIndex index places = index := by
  have same : ((shortest index).roundHalfUp (-places)).value = (shortest index).value := by
    rw [value_roundHalfUp, halfUpMultiple_of_multiple exact, exact]
  rw [roundIndex, nearestIndex_congr same, nearestIndex_shortest finite.le]

/-- Rounding again, to as many places or more, changes nothing. -/
theorem roundIndex_roundIndex {finer : Int} (nonnegative : 0 ≤ places) (ordered : places ≤ finer)
    (finite : index < infiniteIndex) :
    roundIndex (roundIndex index places) finer = roundIndex index places := by
  have bounded := roundIndex_lt_infinite nonnegative finite
  have rounds := roundsTo_roundIndex nonnegative finite
  have onGrid := le_exponent_roundHalfUp (shortest index) (-places)
  generalize (shortest index).roundHalfUp (-places) = decimal at *
  generalize roundIndex index places = rounded at *
  have coarse : -finer ≤ (shortest rounded).exponent := by
    by_cases zero : rounded = 0
    · rw [zero, shortest, if_pos rfl]
      dsimp only
      omega
    · have shortestCoarse := exponent_le_shortest zero rounds
      omega
  exact roundIndex_of_multiple bounded (multiple_of_le_exponent coarse)

/-! ## Decimal contexts -/

/-- The largest exponent of a first digit in a decimal context; the least is its negative. -/
def largestExponent : Int := 999999

/-- The decimal quantized half up to `10 ^ exponent`, in a context that keeps a number of
digits: refused when the result has more digits, or when an exponent is out of the limits. -/
def quantized? (kept : Int) (decimal : Decimal) (exponent : Int) : Option Decimal :=
  let result : Decimal := ⟨decimal.halfUpMultiple exponent, exponent⟩
  if exponent < -largestExponent - (kept - 1) ∨ largestExponent < exponent then none
  else if largestExponent < decimal.leadingExponent then none
  else if largestExponent < result.leadingExponent then none
  else if kept < digitCount result.coefficient then none
  else some result

theorem eq_of_quantized? {kept exponent : Int} {decimal quantized : Decimal}
    (success : quantized? kept decimal exponent = some quantized) :
    quantized = ⟨decimal.halfUpMultiple exponent, exponent⟩ := by
  simp only [quantized?, Option.ite_none_left_eq_some] at success
  obtain ⟨-, -, -, -, same⟩ := success
  exact (Option.some.inj same).symm

/-- The digits that rounding to places after the point asks a context for. -/
def keptDigits (decimal : Decimal) (places : Int) : Int :=
  max 28 (decimal.leadingExponent + places + 2)

/-- The most digits that a context can keep. -/
def mostDigits : Int := 999999999999999999

/-- A carry takes one digit more than stand before the place of the last one. -/
theorem digitCount_halfUpMultiple_le (decimal : Decimal) (places : Int) :
    digitCount (decimal.halfUpMultiple (-places)) ≤
      max 1 (decimal.leadingExponent + places + 2) := by
  have below : decimal.value / 10 ^ (-places) < 10 ^ (decimal.leadingExponent + 1 + places) := by
    rw [div_lt_iff₀ (zpow_ten_pos _), ← zpow_add₀ (by norm_num)]
    have sum : decimal.leadingExponent + 1 + places + -places = decimal.leadingExponent + 1 := by
      omega
    rw [sum]
    exact value_lt_of_leadingExponent decimal
  have positive : 0 ≤ decimal.value / 10 ^ (-places) :=
    div_nonneg decimal.value_nonneg (zpow_ten_pos _).le
  rcases Int.lt_or_le (decimal.leadingExponent + 1 + places) 0 with small | large
  · have one : decimal.halfUpMultiple (-places) < 2 := by
      have power : (10 : ℚ) ^ (decimal.leadingExponent + 1 + places) ≤ 1 :=
        zpow_le_one_of_nonpos₀ (by norm_num) small.le
      refine (Nat.floor_lt (by linarith)).mpr ?_
      push_cast
      linarith
    have single : digitCount (decimal.halfUpMultiple (-places)) ≤ 1 :=
      digitCount_le (by decide) (one.trans (by decide))
    omega
  · obtain ⟨count, isCount⟩ := Int.eq_ofNat_of_zero_le large
    rw [isCount, ← cast_tenTo] at below
    have bounded : decimal.halfUpMultiple (-places) < tenTo count + 1 := by
      refine (Nat.floor_lt (by linarith)).mpr ?_
      push_cast
      linarith
    have more := tenTo_succ count
    have atLeastOne := tenTo_pos count
    have digits : digitCount (decimal.halfUpMultiple (-places)) ≤ count + 1 :=
      digitCount_le (Nat.succ_pos count) (by omega)
    omega

theorem digitCount_halfUpMultiple_le_keptDigits (decimal : Decimal) (places : Int) :
    digitCount (decimal.halfUpMultiple (-places)) ≤ decimal.keptDigits places :=
  (digitCount_halfUpMultiple_le decimal places).trans (max_le_max_right _ (by decide))

/-- With the digits that rounding asks for, a decimal whose first digit is within the limits is
refused only for a power of ten above them. -/
theorem quantized?_keptDigits {decimal : Decimal} (places : Int)
    (least : -largestExponent ≤ decimal.leadingExponent)
    (most : decimal.leadingExponent < largestExponent) :
    quantized? (decimal.keptDigits places) decimal (-places) =
      if largestExponent < -places then none
      else some ⟨decimal.halfUpMultiple (-places), -places⟩ := by
  have digits := digitCount_halfUpMultiple_le decimal places
  have limit : largestExponent = 999999 := rfl
  have leading : (Decimal.mk (decimal.halfUpMultiple (-places)) (-places)).leadingExponent =
      digitCount (decimal.halfUpMultiple (-places)) - places - 1 := by
    rw [leadingExponent]
    dsimp only
    omega
  have kept : decimal.keptDigits places = max 28 (decimal.leadingExponent + places + 2) := rfl
  unfold quantized?
  dsimp only
  split
  · next high => rw [if_pos (by omega)]
  · next low =>
      rw [if_neg (by omega), if_neg (by omega), if_neg (by omega), if_neg (by omega)]

theorem placesFault?_eq_none_iff (index : Nat) (places : Int) :
    placesFault? index places = none ↔
      firstDigitExponent index + places + 2 ≤ mostDigits ∧ -places ≤ largestExponent := by
  have digits : mostDigits = 999999999999999999 := rfl
  have limit : largestExponent = 999999 := rfl
  unfold placesFault?
  dsimp only
  split
  · next high => exact iff_of_false nofun (by omega)
  · split
    · next high => exact iff_of_false nofun (by omega)
    · split
      · next low => exact iff_of_false nofun (by omega)
      · split
        · next low => exact iff_of_false nofun (by omega)
        · exact iff_of_true rfl (by omega)

/-- The first digit of a double is not below the limits of a context. -/
theorem le_firstDigitExponent (index : Nat) : -largestExponent ≤ firstDigitExponent index := by
  have limit : largestExponent = 999999 := rfl
  unfold firstDigitExponent
  split
  · omega
  · next positive =>
      have finest : finestGrid = 340 := rfl
      have coarse := le_exponent_shortest positive
      have digits := digitCount_pos (shortest index).coefficient
      rw [leadingExponent]
      omega

/-- The places that are refused are those for which a context cannot keep the digits or refuses
to quantize. -/
theorem placesFault?_eq_none_iff_quantized {index : Nat} {decimal : Decimal}
    (finite : index < infiniteIndex)
    (leading : decimal.leadingExponent = firstDigitExponent index) (places : Int) :
    placesFault? index places = none ↔ decimal.keptDigits places ≤ mostDigits ∧
      quantized? (decimal.keptDigits places) decimal (-places) =
        some ⟨decimal.halfUpMultiple (-places), -places⟩ := by
  have least := le_firstDigitExponent index
  have most := firstDigitExponent_le finite
  have limit : largestExponent = 999999 := rfl
  have digits : mostDigits = 999999999999999999 := rfl
  have kept : decimal.keptDigits places = max 28 (decimal.leadingExponent + places + 2) := rfl
  rw [placesFault?_eq_none_iff, quantized?_keptDigits places (by omega) (by omega), ← leading]
  split
  · next high => exact iff_of_false (by omega) (fun both => nomatch both.2)
  · next low =>
      rw [and_iff_left rfl]
      omega

end SceneComponent.Decimal
