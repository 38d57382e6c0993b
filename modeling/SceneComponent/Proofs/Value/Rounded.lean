import Mathlib
import SceneComponent.Proofs.Binary64.Bits
import SceneComponent.Proofs.Value.Rounding

/-!
# Rounded doubles

A rounded double is a magnitude with a sign, and a zero among them has no sign.
Zero and one are not changed by rounding to any number of decimal places.
-/

set_option autoImplicit false

namespace SceneComponent

open Binary64

namespace Decimal

theorem nearestIndex_le (decimal : Decimal) : decimal.nearestIndex ≤ infiniteIndex := by
  unfold nearestIndex
  split
  · exact Nat.zero_le _
  · split
    · exact Nat.le_refl _
    · split
      · exact Nat.zero_le _
      · split
        · exact Nat.min_le_right _ _
        · exact Nat.min_le_right _ _

theorem index_roundFinite (x : Float) (places : Int) :
    Binary64.index (roundFinite x places) = roundIndex (Binary64.index x) places :=
  index_ofIndex _ (nearestIndex_le _)

theorem isNegative_roundFinite (x : Float) (places : Int) :
    isNegative (roundFinite x places) =
      (isNegative x && roundIndex (Binary64.index x) places != 0) :=
  isNegative_ofIndex _ (nearestIndex_le _)

theorem not_isNegativeZero_roundFinite (x : Float) (places : Int) :
    ¬ IsNegativeZero (roundFinite x places) := by
  rintro ⟨negative, zero⟩
  rw [index_roundFinite] at zero
  rw [isNegative_roundFinite, zero] at negative
  simp at negative

/-- A decimal without digits after the point is not changed by rounding to places after
it. -/
theorem roundFinite_eq_self {x : Float} {places : Int} (nonnegative : 0 ≤ places)
    (whole : 0 ≤ (shortest (Binary64.index x)).exponent)
    (readBack : (shortest (Binary64.index x)).nearestIndex = Binary64.index x)
    (unsigned : isNegative x = false) : roundFinite x places = x := by
  have rounded : roundIndex (Binary64.index x) places = Binary64.index x := by
    rw [roundIndex, roundHalfUp, if_pos (by omega), readBack]
  apply eq_of_index_eq
  · rw [isNegative_roundFinite, unsigned, Bool.false_and]
  · rw [index_roundFinite, rounded]

theorem roundFinite_one {places : Int} (nonnegative : 0 ≤ places) :
    roundFinite 1.0 places = 1.0 :=
  roundFinite_eq_self nonnegative (by decide +kernel) (by decide +kernel) (by decide)

theorem roundFinite_zero {places : Int} (nonnegative : 0 ≤ places) :
    roundFinite 0.0 places = 0.0 :=
  roundFinite_eq_self nonnegative (by decide) (by decide) (by decide)

end Decimal

namespace Value

theorem not_isNegativeZero_of_roundDouble {number rounded : Float} {places : Value}
    (success : roundDouble number places = .ok rounded) : ¬ IsNegativeZero rounded := by
  unfold roundDouble at success
  split at success
  · obtain ⟨count, _, success⟩ := Checked.bind_eq_ok.mp success
    split at success
    · cases success
    · cases success
      exact Decimal.not_isNegativeZero_roundFinite number count
  · next infinite =>
      cases success
      apply not_isNegativeZero_of_index
      intro zero
      apply infinite
      rw [isFinite, zero]
      rfl

variable {places : Value}

/-- A result of rounding to places. -/
def IsRounded (places : Value) (x : Float) : Prop := ∃ number, roundDouble number places = .ok x

theorem isRounded_of_round {value : Value} {rounded : Float}
    (success : value.round places = .ok rounded) : IsRounded places rounded := by
  obtain ⟨number, _, success⟩ := Checked.bind_eq_ok.mp success
  exact ⟨number, success⟩

theorem isRounded_of_roundComponents {value : Value} {x y z : Float}
    (success : value.roundComponents places = .ok (x, y, z)) :
    places.IsRounded x ∧ places.IsRounded y ∧ places.IsRounded z := by
  obtain ⟨⟨first, second, third⟩, _, roundings⟩ := Checked.bind_eq_ok.mp success
  obtain ⟨_, firstRounded, roundings⟩ := Checked.bind_eq_ok.mp roundings
  obtain ⟨_, secondRounded, roundings⟩ := Checked.bind_eq_ok.mp roundings
  obtain ⟨_, thirdRounded, roundings⟩ := Checked.bind_eq_ok.mp roundings
  cases Checked.return_eq_ok.mp roundings
  exact ⟨⟨first, firstRounded⟩, ⟨second, secondRounded⟩, ⟨third, thirdRounded⟩⟩

theorem IsRounded.unsigned {x : Float} (rounded : IsRounded places x) : ¬ IsNegativeZero x := by
  obtain ⟨number, success⟩ := rounded
  exact not_isNegativeZero_of_roundDouble success

theorem roundDouble_eq_self (usual : places.ArePlaces) {number : Float}
    (finite : isFinite number = true)
    (settled : ∀ count, 0 ≤ count → Decimal.roundFinite number count = number) :
    roundDouble number places = .ok number := by
  obtain ⟨count, integer, nonnegative, bounded⟩ := usual
  rw [roundDouble_of_finite finite integer nonnegative bounded, settled count nonnegative]

theorem roundDouble_one (usual : places.ArePlaces) : roundDouble 1.0 places = .ok 1.0 :=
  roundDouble_eq_self usual (by decide) fun _ => Decimal.roundFinite_one

theorem roundDouble_zero (usual : places.ArePlaces) : roundDouble 0.0 places = .ok 0.0 :=
  roundDouble_eq_self usual (by decide) fun _ => Decimal.roundFinite_zero

end Value

end SceneComponent
