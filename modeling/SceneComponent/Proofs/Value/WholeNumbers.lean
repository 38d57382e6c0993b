import Mathlib
import SceneComponent.Proofs.Decimal.CoarsestGrid
import SceneComponent.Proofs.Value.Rounded

/-!
# Whole numbers among doubles

A double that is an integer has a shortest decimal without digits after the point: the
grid of ones holds the double itself.  So rounding to places after the point keeps every
integer, however large, and only takes the sign off a zero.
-/

set_option autoImplicit false

namespace SceneComponent

open Binary64

namespace Binary64

/-- The integer that a double is, if it is one. -/
def toInt? (x : Float) : Option Int :=
  if isFinite x && isWhole (index x) then
    some (if isNegative x then -(wholePart (index x) : Int) else wholePart (index x))
  else none

variable {x : Float} {number : Int}

theorem toInt?_eq_some_iff : toInt? x = some number ↔
    isFinite x = true ∧ isWhole (index x) = true ∧
      (if isNegative x then -(wholePart (index x) : Int) else wholePart (index x)) = number := by
  unfold toInt?
  cases isFinite x <;> cases isWhole (index x) <;> simp

end Binary64

namespace Decimal

variable {index : Nat}

theorem scaledTwice_of_isWhole (whole : isWhole index = true) :
    scaledTwice index = wholePart index * gridStep finestGrid := by
  have exact : units index = wholePart index * unitsPerOne :=
    (Nat.div_mul_cancel (Nat.dvd_of_mod_eq_zero (of_decide_eq_true whole))).symm
  rw [scaledTwice, exact, gridStep]
  ring

/-- The grid of ones holds every integer. -/
theorem isSome_gridPoint?_ones (positive : index ≠ 0) (whole : isWhole index = true) :
    (gridPoint? index finestGrid).isSome = true := by
  have onGrid : scaledTwice index / gridStep finestGrid * gridStep finestGrid =
      scaledTwice index := by
    rw [scaledTwice_of_isWhole whole, Nat.mul_div_cancel _ (gridStep_pos _)]
  refine isSome_gridPoint?_of_readsBack (.inl (readsBack_below positive ?_ ?_))
  · rw [onGrid]
    exact Nat.lt_add_of_pos_right (tenTo_pos _)
  · rw [onGrid]

theorem exponent_shortest_nonneg (whole : isWhole index = true) :
    0 ≤ (shortest index).exponent := by
  unfold shortest
  split
  · exact Int.le_refl 0
  · next positive =>
      refine (Int.sub_self (finestGrid : ℤ)).ge.trans
        (le_exponent_coarsestPoint (isSome_gridPoint?_ones positive whole) ?_)
      have amount : scaledTwice index / (2 * unitsPerOne) =
          wholePart index * tenTo finestGrid := by
        rw [scaledTwice_of_isWhole whole, gridStep, Nat.mul_left_comm,
          Nat.mul_div_cancel_left _ twice_unitsPerOne_pos]
      have atLeastOne : 1 ≤ wholePart index := by
        have first : units 0 < units index := units_strictMono (Nat.pos_of_ne_zero positive)
        have exact := Nat.div_mul_cancel (Nat.dvd_of_mod_eq_zero (of_decide_eq_true whole))
        refine Nat.one_le_iff_ne_zero.mpr fun none => ?_
        rw [wholePart] at none
        rw [none, Nat.zero_mul] at exact
        rw [← exact, units_zero] at first
        exact Nat.lt_irrefl 0 first
      have long : tenTo finestGrid ≤ scaledTwice index / (2 * unitsPerOne) := by
        rw [amount]
        exact Nat.le_mul_of_pos_left _ atLeastOne
      have counted := (digitCount_le_iff (n := scaledTwice index / (2 * unitsPerOne))
        (by decide : 0 < finestGrid)).not.mpr (Nat.not_lt.mpr long)
      exact (Nat.lt_of_not_le counted).le

theorem roundIndex_of_isWhole {places : Int} (nonnegative : 0 ≤ places)
    (finite : index < infiniteIndex) (whole : isWhole index = true) :
    roundIndex index places = index := by
  have exponent := exponent_shortest_nonneg whole
  rw [roundIndex, roundHalfUp, if_pos (by omega), nearestIndex_shortest finite.le]

theorem toInt?_roundFinite {x : Float} {number places : Int} (nonnegative : 0 ≤ places)
    (integer : toInt? x = some number) : toInt? (roundFinite x places) = some number := by
  obtain ⟨finite, whole, rfl⟩ := toInt?_eq_some_iff.mp integer
  have kept := roundIndex_of_isWhole nonnegative (of_decide_eq_true finite) whole
  refine toInt?_eq_some_iff.mpr ?_
  rw [isFinite, index_roundFinite, isNegative_roundFinite, kept]
  refine ⟨finite, whole, ?_⟩
  by_cases zero : Binary64.index x = 0
  · have nothing : wholePart 0 = 0 := by rw [wholePart, units_zero, Nat.zero_div]
    rw [zero, nothing]
    simp
  · rw [bne_iff_ne.mpr zero, Bool.and_true]

end Decimal

namespace Value

/-- Places that no digit before the point is rounded at. -/
def AreBehindPoint (places : Value) : Prop :=
  ∀ count, places.toInteger = .ok count → 0 ≤ count

theorem toInt?_roundDouble {x rounded : Float} {number : Int} {places : Value}
    (behindPoint : places.AreBehindPoint) (success : roundDouble x places = .ok rounded)
    (integer : toInt? x = some number) : toInt? rounded = some number := by
  rw [roundDouble, if_pos (toInt?_eq_some_iff.mp integer).1] at success
  obtain ⟨count, counted, success⟩ := Checked.bind_eq_ok.mp success
  split at success
  · cases success
  · cases success
    exact Decimal.toInt?_roundFinite (behindPoint count counted) integer

end Value

end SceneComponent
