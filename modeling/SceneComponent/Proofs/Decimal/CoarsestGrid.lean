import Mathlib
import SceneComponent.Proofs.Decimal.ReadBack

/-!
# The coarsest grid of a double

Of all the decimals that read back as a double, the shortest one lies on the coarsest grid:
no decimal with a higher exponent reads back.  And the shortest decimals of doubles are ordered
as the doubles are, since each lies between the middles to the neighbours.
-/

set_option autoImplicit false

namespace SceneComponent.Decimal

open Binary64

variable {index : Nat}

/-! ## Points that read back -/

theorem readsBack_iff_roundsTo (positive : index ≠ 0) (point : Nat) :
    readsBack index point = true ↔
      RoundsTo ((point : ℚ) / (2 * unitsPerOne * tenTo finestGrid : Nat)) index := by
  refine ⟨roundsTo_of_readsBack positive, fun rounds => ?_⟩
  obtain ⟨lower, rfl⟩ := Nat.exists_eq_add_one_of_ne_zero positive
  have scaled : ∀ {left right : Nat},
      (left : ℚ) / (2 * unitsPerOne * tenTo finestGrid : Nat) <
        (right : ℚ) / (2 * unitsPerOne * tenTo finestGrid : Nat) ↔ left < right :=
    (div_lt_div_iff_of_pos_right scale_pos).trans Nat.cast_lt
  have same : ∀ {left right : Nat},
      (left : ℚ) / (2 * unitsPerOne * tenTo finestGrid : Nat) =
        (right : ℚ) / (2 * unitsPerOne * tenTo finestGrid : Nat) ↔ left = right :=
    (div_left_inj' scale_pos.ne').trans Nat.cast_inj
  have above := rounds.above lower rfl
  have below := rounds.below
  rw [middle_eq_scaled, scaled, same] at above below
  unfold readsBack
  rw [Nat.add_sub_cancel]
  split
  · simp only [Bool.and_eq_true, decide_eq_true_eq]
    omega
  · simp only [Bool.and_eq_true, decide_eq_true_eq]
    omega

/-- Between a double and a point that reads back, every point does. -/
theorem readsBack_between (positive : index ≠ 0) {near far : Nat}
    (back : readsBack index far = true)
    (between : scaledTwice index ≤ near ∧ near ≤ far ∨ far ≤ near ∧ near ≤ scaledTwice index) :
    readsBack index near = true := by
  obtain ⟨lower, rfl⟩ := Nat.exists_eq_add_one_of_ne_zero positive
  have lowerMiddle := scaledMiddle_add_le lower
  have step := tenTo_pos finestGrid
  have upperMiddle := scaledTwice_lt_scaledMiddle (lower + 1)
  unfold readsBack at *
  rw [Nat.add_sub_cancel] at *
  split at back
  · next even =>
      rw [if_pos even]
      simp only [Bool.and_eq_true, decide_eq_true_eq] at *
      omega
  · next odd =>
      rw [if_neg odd]
      simp only [Bool.and_eq_true, decide_eq_true_eq] at *
      omega

/-- A grid that holds a point which reads back holds one next to the double. -/
theorem isSome_gridPoint?_of_multiple (positive : index ≠ 0) {grid multiple : Nat}
    (back : readsBack index (multiple * gridStep grid) = true) :
    (gridPoint? index grid).isSome = true := by
  have stepPositive := gridStep_pos grid
  have floor := Nat.div_mul_le_self (scaledTwice index) (gridStep grid)
  have next := Nat.lt_mul_div_succ (scaledTwice index) stepPositive
  rw [Nat.mul_comm] at next
  apply isSome_gridPoint?_of_readsBack
  rcases Nat.lt_or_ge (scaledTwice index / gridStep grid) multiple with above | below
  · refine .inr (readsBack_between positive back (.inl ⟨next.le, Nat.mul_le_mul_right _ above⟩))
  · exact .inl (readsBack_between positive back (.inr ⟨Nat.mul_le_mul_right _ below, floor⟩))

/-! ## The search -/

/-- A search from a grid or a coarser one does not get below it, if it holds a point. -/
theorem le_exponent_coarsestPoint {grid : Nat} (holds : (gridPoint? index grid).isSome = true)
    {start : Nat} (coarser : grid ≤ start) :
    (grid : ℤ) - finestGrid ≤ (coarsestPoint index start).exponent := by
  induction start, coarser using Nat.le_induction with
  | base =>
      cases grid with
      | zero => rw [coarsestPoint]; simp
      | succ grid =>
          obtain ⟨point, found⟩ := Option.isSome_iff_exists.mp holds
          rw [coarsestPoint, found]
  | succ start coarser inductionHypothesis =>
      rw [coarsestPoint]
      cases gridPoint? index (start + 1) with
      | none => exact inductionHypothesis
      | some point =>
          dsimp only
          omega

theorem units_succ_le (positive : index ≠ 0) : units (index + 1) ≤ 2 * units index := by
  obtain ⟨row, place, rfl, below, above⟩ := exists_row index
  have length := rowLength_pos
  obtain ⟨sameBinade, value⟩ := units_of_row below above
  have atLeastOne : 1 ≤ place := by
    rcases above with rfl | high
    · omega
    · omega
  rw [units_succ, sameBinade, value, Nat.two_mul]
  exact Nat.add_le_add_left (Nat.le_mul_of_pos_left _ atLeastOne) _

/-- A point that reads back is not zero, and not far beyond the double. -/
theorem bounds_of_readsBack (positive : index ≠ 0) {point : Nat}
    (back : readsBack index point = true) : 0 < point ∧ point ≤ 2 * scaledTwice index := by
  obtain ⟨lower, rfl⟩ := Nat.exists_eq_add_one_of_ne_zero positive
  have lowerMiddle : 0 < scaledMiddle lower := by
    have order : units lower < units (lower + 1) := units_strictMono (Nat.lt_succ_self lower)
    exact Nat.mul_pos (by omega) (tenTo_pos _)
  have upperMiddle : scaledMiddle (lower + 1) ≤ 2 * scaledTwice (lower + 1) := by
    have order := units_succ_le positive
    unfold scaledMiddle scaledTwice
    rw [← Nat.mul_assoc]
    exact Nat.mul_le_mul_right _ (by omega)
  unfold readsBack at back
  rw [Nat.add_sub_cancel] at back
  split at back
  · simp only [Bool.and_eq_true, decide_eq_true_eq] at back
    omega
  · simp only [Bool.and_eq_true, decide_eq_true_eq] at back
    omega

/-- The search starts at a grid that is coarse enough: the first point of a coarser one is
far beyond the double. -/
theorem grid_le_start (positive : index ≠ 0) {grid multiple : Nat}
    (back : readsBack index (multiple * gridStep grid) = true) :
    grid ≤ digitCount (scaledTwice index / (2 * unitsPerOne)) := by
  generalize starts : digitCount (scaledTwice index / (2 * unitsPerOne)) = start
  obtain ⟨nonzero, bounded⟩ := bounds_of_readsBack positive back
  have quotient : scaledTwice index / (2 * unitsPerOne) < tenTo start := by
    rw [← starts]
    exact (digitCount_le_iff (digitCount_pos _)).mp (Nat.le_refl _)
  have below : scaledTwice index < gridStep start := by
    rw [gridStep, Nat.mul_comm]
    exact (Nat.div_lt_iff_lt_mul twice_unitsPerOne_pos).mp quotient
  apply Nat.le_of_not_lt
  intro coarser
  have ten : gridStep start * 10 ≤ gridStep grid := by
    rw [gridStep, gridStep, Nat.mul_assoc, ← tenTo_succ]
    exact Nat.mul_le_mul_left _ (Nat.pow_le_pow_right (by decide) coarser)
  have first : gridStep grid ≤ multiple * gridStep grid :=
    Nat.le_mul_of_pos_left _ (Nat.pos_of_mul_pos_right nonzero)
  omega

theorem le_exponent_shortest (positive : index ≠ 0) :
    -(finestGrid : ℤ) ≤ (shortest index).exponent := by
  have finest := le_exponent_coarsestPoint (isSome_gridPoint?_finest positive)
    (Nat.zero_le (digitCount (scaledTwice index / (2 * unitsPerOne))))
  rw [shortest, if_neg positive]
  omega

/-- The exponents of decimals that read back are at most that of the shortest. -/
theorem exponent_le_shortest (positive : index ≠ 0) {decimal : Decimal}
    (rounds : RoundsTo decimal.value index) : decimal.exponent ≤ (shortest index).exponent := by
  obtain ⟨coefficient, exponent⟩ := decimal
  change exponent ≤ _
  rcases Int.lt_or_le exponent (-(finestGrid : ℤ)) with finer | coarser
  · exact finer.le.trans (le_exponent_shortest positive)
  · -- the decimal is a point of one of the grids that are searched
    obtain ⟨grid, isGrid⟩ := Int.eq_ofNat_of_zero_le (a := exponent + finestGrid) (by omega)
    obtain rfl : exponent = (grid : ℤ) - finestGrid := by omega
    rw [value_gridPoint, ← readsBack_iff_roundsTo positive] at rounds
    rw [shortest, if_neg positive]
    exact le_exponent_coarsestPoint (isSome_gridPoint?_of_multiple positive rounds)
      (grid_le_start positive rounds)

/-! ## The order of shortest decimals -/

theorem value_shortest_mono {low high : Nat} (ordered : low ≤ high) :
    (shortest low).value ≤ (shortest high).value := by
  apply le_of_not_gt
  intro less
  have back := RoundsTo.mono less.le (roundsTo_shortest high) (roundsTo_shortest low)
  rw [Nat.le_antisymm ordered back] at less
  exact lt_irrefl _ less

theorem nearestIndex_mono {first second : Decimal} (ordered : first.value ≤ second.value) :
    first.nearestIndex ≤ second.nearestIndex := by
  obtain ⟨index, rounds⟩ := first.exists_roundsTo
  obtain ⟨other, otherRounds⟩ := second.exists_roundsTo
  rw [nearestIndex_eq_of_roundsTo rounds, nearestIndex_eq_of_roundsTo otherRounds]
  exact min_le_min_right _ (RoundsTo.mono ordered rounds otherRounds)

end SceneComponent.Decimal
