import Mathlib
import SceneComponent.Proofs.Binary64.Nearest

/-!
# Decimals that read back

The double that a decimal reads as depends on the value of the decimal alone: it is the one
that the value rounds to.  The shortest decimal of a double lies between the middles to its
neighbours, so that it reads back as that double.
-/

set_option autoImplicit false

namespace SceneComponent.Decimal

open Binary64

/-! ## The value of a decimal -/

def value (decimal : Decimal) : ℚ := decimal.coefficient * 10 ^ decimal.exponent

theorem digitCount_le_iff {n count : Nat} (positive : 0 < count) :
    digitCount n ≤ count ↔ n < tenTo count :=
  Nat.length_toDigits_le_iff (by decide) positive

theorem digitCount_pos (n : Nat) : 0 < digitCount n := Nat.length_toDigits_pos

/-- The first digit of a decimal tells its order of magnitude. -/
theorem value_lt_of_leadingExponent (decimal : Decimal) :
    decimal.value < 10 ^ (decimal.leadingExponent + 1) := by
  have below : decimal.coefficient < tenTo (digitCount decimal.coefficient) :=
    (digitCount_le_iff (digitCount_pos _)).mp (Nat.le_refl _)
  have belowCast : (decimal.coefficient : ℚ) < 10 ^ (digitCount decimal.coefficient : ℤ) := by
    rw [zpow_natCast]
    exact_mod_cast below
  have split : decimal.leadingExponent + 1 =
      (digitCount decimal.coefficient : ℤ) + decimal.exponent := by
    unfold leadingExponent
    omega
  rw [split, zpow_add₀ (by norm_num), value]
  exact mul_lt_mul_of_pos_right belowCast (by positivity)

theorem le_value_of_leadingExponent {decimal : Decimal} (nonzero : decimal.coefficient ≠ 0) :
    10 ^ decimal.leadingExponent ≤ decimal.value := by
  have split : decimal.leadingExponent =
      ((digitCount decimal.coefficient - 1 : Nat) : ℤ) + decimal.exponent := by
    have positive := digitCount_pos decimal.coefficient
    unfold leadingExponent
    omega
  have above : tenTo (digitCount decimal.coefficient - 1) ≤ decimal.coefficient := by
    by_cases single : digitCount decimal.coefficient - 1 = 0
    · rw [single]
      exact Nat.one_le_iff_ne_zero.mpr nonzero
    · apply Nat.le_of_not_lt
      intro below
      have fewer := (digitCount_le_iff (Nat.pos_of_ne_zero single)).mpr below
      omega
  have aboveCast : (10 : ℚ) ^ ((digitCount decimal.coefficient - 1 : Nat) : ℤ) ≤
      decimal.coefficient := by
    rw [zpow_natCast]
    exact_mod_cast above
  rw [split, zpow_add₀ (by norm_num), value]
  exact mul_le_mul_of_nonneg_right aboveCast (by positivity)

theorem cast_tenTo (count : Nat) : ((tenTo count : Nat) : ℚ) = 10 ^ (count : ℤ) := by
  rw [zpow_natCast]
  exact Nat.cast_pow 10 count

theorem tenTo_le_value {decimal : Decimal} (nonzero : decimal.coefficient ≠ 0) {count : Nat}
    (high : (count : ℤ) < decimal.leadingExponent) : (tenTo count : ℚ) ≤ decimal.value := by
  rw [cast_tenTo]
  exact (zpow_le_zpow_right₀ (by norm_num) high.le).trans (le_value_of_leadingExponent nonzero)

theorem value_lt_inv_tenTo {decimal : Decimal} {count : Nat}
    (low : decimal.leadingExponent < -(count : ℤ)) : decimal.value < 1 / (tenTo count : ℚ) := by
  rw [cast_tenTo, one_div, ← zpow_neg]
  exact (value_lt_of_leadingExponent decimal).trans_le
    (zpow_le_zpow_right₀ (by norm_num) (by omega))

/-! ## The double that a decimal reads as -/

theorem ratio_of_value (decimal : Decimal) :
    decimal.value =
      if 0 ≤ decimal.exponent then
        ((decimal.coefficient * tenTo decimal.exponent.toNat : Nat) : ℚ) / (1 : Nat)
      else (decimal.coefficient : ℚ) / (tenTo (-decimal.exponent).toNat : Nat) := by
  unfold value
  split
  · next whole =>
      rw [Nat.cast_mul, cast_tenTo, Int.toNat_of_nonneg whole, Nat.cast_one, div_one]
  · next fractional =>
      rw [cast_tenTo, Int.toNat_of_nonneg (by omega), zpow_neg, div_inv_eq_mul]

/-- Infinity stands in the place of two to the power of 1024. -/
theorem value_infiniteIndex : Binary64.value infiniteIndex = (twoTo 1024 : Nat) := by
  have row : infiniteIndex = 2046 * rowLength + rowLength := Nat.succ_mul 2046 rowLength
  have units : units infiniteIndex = twoTo 1024 * unitsPerOne := by
    rw [row, (units_of_row (by decide) (.inr (Nat.le_refl _))).2, rowLength, unitsPerOne,
      ← twoTo_add, ← twoTo_add]
  rw [Binary64.value, units, Nat.cast_mul, mul_div_cancel_right₀ _ unitsPerOne_pos.ne']

theorem twice_unitsPerOne : 2 * unitsPerOne = twoTo 1075 := by
  rw [unitsPerOne, Nat.mul_comm]
  exact (twoTo_succ 1074).symm

theorem middle_zero : middle 0 = 1 / (twoTo 1075 : Nat) := by
  have first : units 0 + units (0 + 1) = 1 := by decide
  rw [middle_eq, first, twice_unitsPerOne, Nat.cast_one]

/-- The finest grid is finer than the middle between zero and the smallest double. -/
theorem twoTo_lt_finest : twoTo 1075 < tenTo finestGrid :=
  (twoTo_mono (by decide)).trans_lt (twoTo_lt_tenTo (by decide : 0 < 85))

theorem twoTo_lt_high {exponent : Nat} (low : exponent ≤ 1075) :
    (twoTo exponent : ℚ) < (tenTo 400 : ℚ) :=
  Nat.cast_lt.mpr ((twoTo_mono low).trans_lt
    (twoTo_lt_finest.trans_le (tenTo_mono (by decide))))

/-- Powers of ten far beyond the doubles, as `nearestIndex` takes them. -/
theorem roundsTo_high {number : ℚ} {index : Nat} (rounds : RoundsTo number index)
    (high : (tenTo 400 : ℚ) ≤ number) : infiniteIndex ≤ index := by
  have limit : (twoTo 1024 : ℚ) < (tenTo 400 : ℚ) := twoTo_lt_high (by decide)
  apply Nat.le_of_not_lt
  intro finite
  have top : middle index < Binary64.value infiniteIndex :=
    (middle_lt_value index).trans_le (value_strictMono.monotone finite)
  rw [value_infiniteIndex] at top
  rcases rounds.below with below | ⟨same, _⟩
  · linarith
  · linarith

theorem roundsTo_low {number : ℚ} (nonnegative : 0 ≤ number)
    (low : number < 1 / (tenTo 400 : ℚ)) : RoundsTo number 0 := by
  have limit : 1 / (tenTo 400 : ℚ) < 1 / (twoTo 1075 : Nat) :=
    one_div_lt_one_div_of_lt (Nat.cast_pos.mpr (twoTo_pos _)) (twoTo_lt_high (Nat.le_refl _))
  refine .of_floor ?_ (.inl ?_)
  · rw [Binary64.value, units_zero, Nat.cast_zero, zero_div]
    exact nonnegative
  · rw [middle_zero]
    exact low.trans limit

theorem value_nonneg (decimal : Decimal) : 0 ≤ decimal.value := by
  unfold value
  positivity

theorem nearestIndex_eq_of_roundsTo {decimal : Decimal} {index : Nat}
    (rounds : RoundsTo decimal.value index) :
    decimal.nearestIndex = min index infiniteIndex := by
  unfold nearestIndex
  split
  · next zero =>
      have nothing : RoundsTo decimal.value 0 := by
        refine roundsTo_low decimal.value_nonneg ?_
        rw [value, zero, Nat.cast_zero, zero_mul]
        exact one_div_pos.mpr (Nat.cast_pos.mpr (tenTo_pos _))
      rw [rounds.unique nothing, Nat.zero_min]
  · next nonzero =>
      split
      · next high =>
          rw [Nat.min_eq_right (roundsTo_high rounds (tenTo_le_value nonzero high))]
      · split
        · next low =>
            rw [rounds.unique (roundsTo_low decimal.value_nonneg (value_lt_inv_tenTo low)),
              Nat.zero_min]
        · rw [ratio_of_value] at rounds
          split
          · next whole =>
              rw [if_pos whole] at rounds
              exact nearest_eq_of_roundsTo (by decide) rounds
          · next fractional =>
              rw [if_neg fractional] at rounds
              exact nearest_eq_of_roundsTo (tenTo_pos _) rounds

theorem exists_roundsTo (decimal : Decimal) : ∃ index, RoundsTo decimal.value index := by
  rw [ratio_of_value]
  split
  · exact (exists_roundsTo_nearest _ (by decide)).imp fun _ found => found.1
  · exact (exists_roundsTo_nearest _ (tenTo_pos _)).imp fun _ found => found.1

/-- Decimals of one value read as one double. -/
theorem nearestIndex_congr {first second : Decimal} (same : first.value = second.value) :
    first.nearestIndex = second.nearestIndex := by
  obtain ⟨index, rounds⟩ := first.exists_roundsTo
  rw [nearestIndex_eq_of_roundsTo rounds, nearestIndex_eq_of_roundsTo (same ▸ rounds)]

/-! ## Shortest decimals -/

theorem scale_pos : (0 : ℚ) < (2 * unitsPerOne * tenTo finestGrid : Nat) :=
  Nat.cast_pos.mpr (Nat.mul_pos twice_unitsPerOne_pos (tenTo_pos _))

theorem middle_eq_scaled (index : Nat) :
    middle index = (scaledMiddle index : ℚ) / (2 * unitsPerOne * tenTo finestGrid : Nat) := by
  have nonzero : ((tenTo finestGrid : Nat) : ℚ) ≠ 0 :=
    (Nat.cast_pos.mpr (tenTo_pos finestGrid)).ne'
  rw [middle_eq, scaledMiddle, Nat.cast_mul (units index + units (index + 1)),
    Nat.cast_mul (2 * unitsPerOne), mul_div_mul_right _ _ nonzero]

/-- Reading back is rounding, on the common scale. -/
theorem roundsTo_of_readsBack {index point : Nat} (positive : index ≠ 0)
    (back : readsBack index point = true) :
    RoundsTo ((point : ℚ) / (2 * unitsPerOne * tenTo finestGrid : Nat)) index := by
  obtain ⟨lower, rfl⟩ := Nat.exists_eq_add_one_of_ne_zero positive
  have scaled : ∀ {left right : Nat}, left < right →
      (left : ℚ) / (2 * unitsPerOne * tenTo finestGrid : Nat) <
        (right : ℚ) / (2 * unitsPerOne * tenTo finestGrid : Nat) := fun ordered =>
    div_lt_div_of_pos_right (Nat.cast_lt.mpr ordered) scale_pos
  unfold readsBack at back
  rw [Nat.add_sub_cancel] at back
  split at back
  · next even =>
      simp only [Bool.and_eq_true, decide_eq_true_eq] at back
      refine ⟨?_, ?_⟩
      · intro before next
        cases next
        rw [middle_eq_scaled]
        exact (Nat.lt_or_eq_of_le back.1).imp scaled fun same => ⟨by rw [same], even⟩
      · rw [middle_eq_scaled]
        exact (Nat.lt_or_eq_of_le back.2).imp scaled fun same => ⟨by rw [same], even⟩
  · simp only [Bool.and_eq_true, decide_eq_true_eq] at back
    refine ⟨?_, ?_⟩
    · intro before next
      cases next
      rw [middle_eq_scaled]
      exact .inl (scaled back.1)
    · rw [middle_eq_scaled]
      exact .inl (scaled back.2)

theorem readsBack_of_gridPoint? {index grid point : Nat}
    (found : gridPoint? index grid = some point) :
    readsBack index (point * gridStep grid) = true := by
  unfold gridPoint? at found
  dsimp only at found
  split at found
  · next lower upper =>
      split at found
      · cases found
        exact lower
      · split at found
        · cases found
          exact upper
        · cases found
          -- the even one of two neighbours is one of them
          rcases Nat.mod_two_eq_zero_or_one (scaledTwice index / gridStep grid) with even | odd
          · rw [even]
            exact lower
          · rw [odd]
            exact upper
  · next lower _ =>
      cases found
      exact lower
  · next _ upper =>
      cases found
      exact upper
  · cases found

/-- A double stands between the middles to its neighbours, further from the lower one than
the finest grid is wide. -/
theorem scaledMiddle_add_le (lower : Nat) :
    scaledMiddle lower + tenTo finestGrid ≤ scaledTwice (lower + 1) := by
  have before : units lower + 1 ≤ units (lower + 1) := units_strictMono (Nat.lt_succ_self lower)
  unfold scaledMiddle scaledTwice
  rw [← Nat.succ_mul]
  exact Nat.mul_le_mul_right _ (by omega)

theorem scaledTwice_lt_scaledMiddle (index : Nat) : scaledTwice index < scaledMiddle index := by
  have after : units index < units (index + 1) := units_strictMono (Nat.lt_succ_self _)
  unfold scaledMiddle scaledTwice
  exact Nat.mul_lt_mul_of_pos_right (by omega) (tenTo_pos _)

/-- A point not above a double that is nearer to it than the finest grid is wide reads back. -/
theorem readsBack_below {index point : Nat} (positive : index ≠ 0)
    (above : scaledTwice index < point + tenTo finestGrid) (below : point ≤ scaledTwice index) :
    readsBack index point = true := by
  obtain ⟨lower, rfl⟩ := Nat.exists_eq_add_one_of_ne_zero positive
  have lowerMiddle := scaledMiddle_add_le lower
  have upperMiddle := scaledTwice_lt_scaledMiddle (lower + 1)
  unfold readsBack
  rw [Nat.add_sub_cancel]
  split
  · simp only [Bool.and_eq_true, decide_eq_true_eq]
    omega
  · simp only [Bool.and_eq_true, decide_eq_true_eq]
    omega

theorem gridStep_pos (grid : Nat) : 0 < gridStep grid :=
  Nat.mul_pos twice_unitsPerOne_pos (tenTo_pos grid)

/-- A grid is settled on when one of its points next to the double reads back. -/
theorem isSome_gridPoint?_of_readsBack {index grid : Nat}
    (back : readsBack index (scaledTwice index / gridStep grid * gridStep grid) = true ∨
      readsBack index ((scaledTwice index / gridStep grid + 1) * gridStep grid) = true) :
    (gridPoint? index grid).isSome = true := by
  unfold gridPoint?
  dsimp only
  cases lower : readsBack index (scaledTwice index / gridStep grid * gridStep grid) with
  | true =>
      cases readsBack index ((scaledTwice index / gridStep grid + 1) * gridStep grid) with
      | true =>
          dsimp only
          split
          · rfl
          · split <;> rfl
      | false => rfl
  | false =>
      rw [lower] at back
      rw [back.resolve_left Bool.false_ne_true]
      rfl

/-- The finest grid is finer than half the distance between two doubles. -/
theorem isSome_gridPoint?_finest {index : Nat} (positive : index ≠ 0) :
    (gridPoint? index 0).isSome = true := by
  have step : gridStep 0 < tenTo finestGrid := by
    have unit : tenTo 0 = 1 := rfl
    rw [gridStep, twice_unitsPerOne, unit, Nat.mul_one]
    exact twoTo_lt_finest
  have floor := Nat.div_mul_le_self (scaledTwice index) (gridStep 0)
  have next := Nat.lt_mul_div_succ (scaledTwice index) (gridStep_pos 0)
  rw [Nat.mul_comm, Nat.succ_mul] at next
  exact isSome_gridPoint?_of_readsBack (.inl (readsBack_below positive (by omega) floor))

theorem value_gridPoint (point grid : Nat) :
    value ⟨point, (grid : ℤ) - (finestGrid : ℤ)⟩ =
      ((point * gridStep grid : Nat) : ℚ) / (2 * unitsPerOne * tenTo finestGrid : Nat) := by
  have nonzero : ((2 * unitsPerOne : Nat) : ℚ) ≠ 0 := (Nat.cast_pos.mpr twice_unitsPerOne_pos).ne'
  unfold value gridStep
  generalize 2 * unitsPerOne = scale at *
  rw [zpow_sub₀ (by norm_num), ← cast_tenTo, ← cast_tenTo, Nat.mul_left_comm, Nat.cast_mul scale,
    Nat.cast_mul scale, mul_div_mul_left _ _ nonzero, Nat.cast_mul, mul_div_assoc]

theorem roundsTo_coarsestPoint {index : Nat} (positive : index ≠ 0) (grid : Nat) :
    RoundsTo (coarsestPoint index grid).value index := by
  induction grid with
  | zero =>
      obtain ⟨point, found⟩ := Option.isSome_iff_exists.mp (isSome_gridPoint?_finest positive)
      have back := roundsTo_of_readsBack positive (readsBack_of_gridPoint? found)
      rw [coarsestPoint, found, Option.getD_some, ← Int.zero_sub]
      exact (value_gridPoint point 0) ▸ back
  | succ grid inductionHypothesis =>
      rw [coarsestPoint]
      cases found : gridPoint? index (grid + 1) with
      | none => exact inductionHypothesis
      | some point =>
          have back := roundsTo_of_readsBack positive (readsBack_of_gridPoint? found)
          exact (value_gridPoint point (grid + 1)) ▸ back

theorem roundsTo_shortest (index : Nat) : RoundsTo (shortest index).value index := by
  unfold shortest
  split
  · next zero =>
      subst zero
      refine roundsTo_low (value_nonneg _) ?_
      rw [value, Nat.cast_zero, zero_mul]
      exact one_div_pos.mpr (Nat.cast_pos.mpr (tenTo_pos _))
  · next positive => exact roundsTo_coarsestPoint positive _

/-- The shortest decimal of a double reads back as the double. -/
theorem nearestIndex_shortest {index : Nat} (bounded : index ≤ infiniteIndex) :
    (shortest index).nearestIndex = index := by
  rw [nearestIndex_eq_of_roundsTo (roundsTo_shortest index), Nat.min_eq_left bounded]

end SceneComponent.Decimal
