import Mathlib
import SceneComponent.Decimal.Rounding

/-!
# Magnitudes of shortest decimals

The first digit of a finite double stands below `10 ^ 5000`, a bound far above
the true one and far below the limits of rounding.  So rounding to at most a
million places is never refused.
-/

set_option autoImplicit false

namespace SceneComponent

namespace Binary64

theorem twoTo_pos (exponent : Nat) : 0 < twoTo exponent := Nat.two_pow_pos exponent

theorem twoTo_mono {low high : Nat} (ordered : low ≤ high) : twoTo low ≤ twoTo high :=
  Nat.pow_le_pow_right (by decide) ordered

theorem twoTo_succ (exponent : Nat) : twoTo (exponent + 1) = twoTo exponent * 2 :=
  Nat.pow_succ _ _

theorem twoTo_add (first second : Nat) : twoTo (first + second) = twoTo first * twoTo second :=
  Nat.pow_add 2 first second

theorem units_lt {index : Nat} (finite : index < infiniteIndex) : units index < twoTo 2109 := by
  have limit : infiniteIndex = 2047 * rowLength := rfl
  have rows : index / rowLength < 2047 := by
    have positive : 0 < rowLength := twoTo_pos 52
    rw [Nat.div_lt_iff_lt_mul positive, ← limit]
    exact finite
  have spacing : twoTo (binade index) ≤ twoTo 2046 := by
    refine twoTo_mono ?_
    unfold binade
    omega
  have offset : index - binade index * rowLength < twoTo 63 := by
    have below : 2047 * rowLength < twoTo 63 := by decide
    omega
  calc units index = (index - binade index * rowLength) * twoTo (binade index) := rfl
    _ < twoTo 63 * twoTo (binade index) :=
      Nat.mul_lt_mul_of_pos_right offset (twoTo_pos _)
    _ ≤ twoTo 63 * twoTo 2046 := Nat.mul_le_mul_left _ spacing
    _ = twoTo 2109 := (twoTo_add 63 2046).symm

end Binary64

namespace Decimal

open Binary64

theorem tenTo_pos (exponent : Nat) : 0 < tenTo exponent := Nat.pow_pos (by decide)

theorem tenTo_succ (exponent : Nat) : tenTo (exponent + 1) = tenTo exponent * 10 :=
  Nat.pow_succ _ _

theorem tenTo_add (first second : Nat) : tenTo (first + second) = tenTo first * tenTo second :=
  Nat.pow_add 10 first second

theorem tenTo_mono {low high : Nat} (ordered : low ≤ high) : tenTo low ≤ tenTo high :=
  Nat.pow_le_pow_right (by decide) ordered

theorem twoTo_le_tenTo (exponent : Nat) : twoTo exponent ≤ tenTo exponent :=
  Nat.pow_le_pow_left (by decide) exponent

/-- Thirteen binary digits are fewer than four decimal ones. -/
theorem twoTo_lt_tenTo {n : Nat} (positive : 0 < n) : twoTo (13 * n) < tenTo (4 * n) := by
  have powers : (2 ^ 13) ^ n < (10 ^ 4) ^ n :=
    Nat.pow_lt_pow_left (by decide) (Nat.pos_iff_ne_zero.mp positive)
  rwa [← Nat.pow_mul, ← Nat.pow_mul] at powers

theorem digitCount_le {n k : Nat} (positive : 0 < k) (bounded : n < tenTo k) :
    digitCount n ≤ k := Nat.toDigits_length 10 n k positive bounded

theorem scaledTwice_lt {index : Nat} (finite : index < infiniteIndex) :
    scaledTwice index < tenTo 2450 := by
  have small := units_lt finite
  have doubled := twoTo_succ 2109
  calc scaledTwice index = 2 * units index * tenTo 340 := rfl
    _ < twoTo (2109 + 1) * tenTo 340 := Nat.mul_lt_mul_of_pos_right (by omega) (tenTo_pos 340)
    _ ≤ tenTo (2109 + 1) * tenTo 340 := Nat.mul_le_mul_right _ (twoTo_le_tenTo _)
    _ = tenTo 2450 := (tenTo_add _ _).symm

theorem gridPoint_le {index grid point : Nat} (found : gridPoint? index grid = some point) :
    point ≤ scaledTwice index + 1 := by
  have lower : scaledTwice index / gridStep grid ≤ scaledTwice index := Nat.div_le_self _ _
  unfold gridPoint? at found
  dsimp only at found
  split at found
  · split at found
    · cases found
      omega
    · split at found
      · cases found
        omega
      · cases found
        omega
  · cases found
    omega
  · cases found
    omega
  · cases found

/-- The point that a search settles on is not much larger than the double, whatever
the grid. -/
theorem leadingExponent_coarsestPoint {index : Nat} (finite : index < infiniteIndex)
    (grid : Nat) : (coarsestPoint index grid).leadingExponent ≤ 2451 + grid := by
  have counted : ∀ point, point ≤ scaledTwice index + 1 → digitCount point ≤ 2450 + 1 := by
    intro point small
    have bound := scaledTwice_lt finite
    have next := tenTo_succ 2450
    exact digitCount_le (by decide) (by omega)
  induction grid with
  | zero =>
      have small : (gridPoint? index 0).getD 0 ≤ scaledTwice index + 1 := by
        cases found : gridPoint? index 0 with
        | none => exact Nat.zero_le _
        | some point => exact gridPoint_le found
      have digits := counted _ small
      simp only [coarsestPoint, leadingExponent, finestGrid]
      omega
  | succ grid inductionHypothesis =>
      unfold coarsestPoint
      cases found : gridPoint? index (grid + 1) with
      | none =>
          dsimp only
          omega
      | some point =>
          have digits := counted point (gridPoint_le found)
          simp only [leadingExponent, finestGrid]
          omega

theorem firstDigitExponent_le {index : Nat} (finite : index < infiniteIndex) :
    firstDigitExponent index ≤ 5000 := by
  unfold firstDigitExponent
  split
  · omega
  · next positive =>
      have bound := scaledTwice_lt finite
      have quotient := Nat.div_le_self (scaledTwice index) (2 * unitsPerOne)
      have start : digitCount (scaledTwice index / (2 * unitsPerOne)) ≤ 2450 :=
        digitCount_le (by decide) (Nat.lt_of_le_of_lt quotient bound)
      have leading := leadingExponent_coarsestPoint finite
        (digitCount (scaledTwice index / (2 * unitsPerOne)))
      rw [shortest, if_neg positive]
      omega

/-- Up to a million places are never refused. -/
theorem placesFault?_eq_none {index : Nat} {places : Int} (finite : index < infiniteIndex)
    (nonnegative : 0 ≤ places) (usual : places ≤ 1000000) : placesFault? index places = none := by
  have leading := firstDigitExponent_le finite
  unfold placesFault?
  dsimp only
  rw [if_neg (by omega), if_neg (by omega), if_neg (by omega), if_neg (by omega)]

end Decimal

end SceneComponent
