import Mathlib
import SceneComponent.Proofs.Decimal.Magnitude

/-!
# The nearest double

The values of the indices grow strictly, and every natural number of units lies between
two neighbours.  A number rounds to the index whose middles to its neighbours enclose it;
a number on a middle rounds to the even one of the two.  There is one such index for each
number, and `nearest` finds it.
-/

set_option autoImplicit false

namespace SceneComponent.Binary64

open Decimal

/-! ## The lattice -/

theorem rowLength_eq : rowLength = 4503599627370496 := rfl

theorem rowLength_pos : 0 < rowLength := twoTo_pos 52

/-- The value of a place in a row; in all rows but the lowest the places start at a whole
row. -/
theorem units_of_row {row place : Nat} (below : place < 2 * rowLength)
    (above : row = 0 ∨ rowLength ≤ place) :
    binade (row * rowLength + place) = row ∧
      units (row * rowLength + place) = place * twoTo row := by
  have length := rowLength_eq
  have sameBinade : binade (row * rowLength + place) = row := by
    unfold binade
    rw [Nat.mul_comm, Nat.mul_add_div rowLength_pos]
    rcases above with rfl | high
    · have quotient : place / rowLength ≤ 1 :=
        Nat.le_of_lt_succ (Nat.div_lt_of_lt_mul (by omega))
      omega
    · have quotient : place / rowLength = 1 := by
        apply Nat.div_eq_of_lt_le
        · omega
        · omega
      omega
  refine ⟨sameBinade, ?_⟩
  rw [units, sameBinade, Nat.add_sub_cancel_left]

/-- Every index is a place of a row. -/
theorem exists_row (index : Nat) : ∃ row place, index = row * rowLength + place ∧
    place < 2 * rowLength ∧ (row = 0 ∨ rowLength ≤ place) := by
  have length := rowLength_eq
  have divided := Nat.div_add_mod index rowLength
  have remainder := Nat.mod_lt index rowLength_pos
  by_cases low : index / rowLength = 0
  · exact ⟨0, index, by omega, by rw [low] at divided; omega, .inl rfl⟩
  · obtain ⟨row, next⟩ := Nat.exists_eq_succ_of_ne_zero low
    rw [next, Nat.mul_succ, Nat.mul_comm] at divided
    exact ⟨row, rowLength + index % rowLength, by omega, by omega, .inr (by omega)⟩

/-- From one index to the next it is one step of the binade. -/
theorem units_succ (index : Nat) : units (index + 1) = units index + twoTo (binade index) := by
  obtain ⟨row, place, rfl, below, above⟩ := exists_row index
  obtain ⟨sameBinade, value⟩ := units_of_row below above
  rw [sameBinade, value]
  by_cases inside : place + 1 < 2 * rowLength
  · rw [Nat.add_assoc, (units_of_row inside (above.imp_right Nat.le_succ_of_le)).2, Nat.succ_mul]
  · -- the last place of a row: the next index is the first place of the next row
    have last : place + 1 = 2 * rowLength := by omega
    have next : row * rowLength + place + 1 = (row + 1) * rowLength + rowLength := by
      rw [Nat.succ_mul]
      omega
    have inNext : rowLength < 2 * rowLength := by
      have positive := rowLength_pos
      omega
    have start : units ((row + 1) * rowLength + rowLength) = rowLength * twoTo (row + 1) :=
      (units_of_row inNext (.inr (Nat.le_refl _))).2
    rw [next, start, twoTo_succ, ← Nat.succ_mul, Nat.succ_eq_add_one, last]
    ring

theorem units_strictMono : StrictMono units := by
  refine strictMono_nat_of_lt_succ fun index => ?_
  rw [units_succ]
  exact Nat.lt_add_of_pos_right (twoTo_pos _)

theorem units_zero : units 0 = 0 := rfl

/-- The index that is found below an amount is the last one that does not exceed it. -/
theorem floorIndex_spec (amount : Nat) :
    units (floorIndex amount) ≤ amount ∧ amount < units (floorIndex amount + 1) := by
  have length : rowLength = 2 ^ 52 := rfl
  have step : twoTo (amount.log2 - 52) = 2 ^ (amount.log2 - 52) := rfl
  have below : amount / twoTo (amount.log2 - 52) < 2 * rowLength := by
    apply Nat.div_lt_of_lt_mul
    calc amount < 2 ^ (amount.log2 + 1) := Nat.lt_log2_self
      _ ≤ 2 ^ (amount.log2 - 52 + 53) := Nat.pow_le_pow_right (by decide) (by omega)
      _ = twoTo (amount.log2 - 52) * (2 * rowLength) := by rw [step, length, pow_add]; ring
  have above : amount.log2 - 52 = 0 ∨ rowLength ≤ amount / twoTo (amount.log2 - 52) := by
    by_cases low : amount.log2 - 52 = 0
    · exact .inl low
    · refine .inr ((Nat.le_div_iff_mul_le (twoTo_pos _)).mpr ?_)
      have positive : amount ≠ 0 := by
        rintro rfl
        exact low rfl
      calc rowLength * twoTo (amount.log2 - 52) = 2 ^ (52 + (amount.log2 - 52)) := by
            rw [step, length, pow_add]
        _ = 2 ^ amount.log2 := by rw [Nat.add_sub_cancel' (by omega)]
        _ ≤ amount := Nat.log2_self_le positive
  obtain ⟨sameBinade, value⟩ := units_of_row below above
  rw [units_succ]
  unfold floorIndex
  rw [sameBinade, value, ← Nat.succ_mul]
  refine ⟨Nat.div_mul_le_self _ _, ?_⟩
  rw [Nat.mul_comm]
  exact Nat.lt_mul_div_succ _ (twoTo_pos _)

/-! ## Rounding to an index -/

theorem unitsPerOne_pos : (0 : ℚ) < unitsPerOne := Nat.cast_pos.mpr (twoTo_pos 1074)

theorem twice_unitsPerOne_pos : 0 < 2 * unitsPerOne := Nat.mul_pos (by decide) (twoTo_pos 1074)

/-- The magnitude of an index as a number. -/
def value (index : Nat) : ℚ := units index / unitsPerOne

theorem value_strictMono : StrictMono value := fun _ _ ordered =>
  div_lt_div_of_pos_right (Nat.cast_lt.mpr (units_strictMono ordered)) unitsPerOne_pos

/-- The middle between an index and the next one. -/
def middle (index : Nat) : ℚ := (value index + value (index + 1)) / 2

theorem value_lt_middle (index : Nat) : value index < middle index := by
  have step := value_strictMono (Nat.lt_succ_self index)
  unfold middle
  linarith

theorem middle_lt_value (index : Nat) : middle index < value (index + 1) := by
  have step := value_strictMono (Nat.lt_succ_self index)
  unfold middle
  linarith

theorem middle_strictMono : StrictMono middle :=
  strictMono_nat_of_lt_succ fun index => (middle_lt_value index).trans (value_lt_middle _)

/-- A number rounds to an index when it lies between the middles to the neighbours; the
middles themselves belong to even indices. -/
structure RoundsTo (number : ℚ) (index : Nat) : Prop where
  above : ∀ lower, lower + 1 = index →
    middle lower < number ∨ middle lower = number ∧ index % 2 = 0
  below : number < middle index ∨ number = middle index ∧ index % 2 = 0

namespace RoundsTo

variable {number larger : ℚ}

/-- Rounding keeps the order of numbers. -/
theorem not_lt {low high : Nat} (order : number ≤ larger) (first : RoundsTo larger low)
    (second : RoundsTo number high) : ¬ low < high := by
  intro ordered
  obtain ⟨lower, rfl⟩ :=
    Nat.exists_eq_add_one_of_ne_zero (Nat.ne_of_gt (Nat.zero_lt_of_lt ordered))
  have middles : middle low ≤ middle lower :=
    middle_strictMono.monotone (Nat.le_of_lt_succ ordered)
  rcases first.below with under | ⟨atMiddle, even⟩
  · rcases second.above lower rfl with beyond | ⟨same, _⟩
    · linarith
    · linarith
  · rcases second.above lower rfl with beyond | ⟨same, evenToo⟩
    · linarith
    · -- the numbers are the middle between two neighbours, which are not both even
      have neighbours : low = lower := middle_strictMono.injective (by linarith)
      omega

theorem mono {first second : Nat} (order : number ≤ larger) (left : RoundsTo number first)
    (right : RoundsTo larger second) : first ≤ second :=
  Nat.le_of_not_lt (not_lt order right left)

theorem unique {first second : Nat} (left : RoundsTo number first)
    (right : RoundsTo number second) : first = second :=
  Nat.le_antisymm (mono le_rfl left right) (mono le_rfl right left)

/-- A number from an index on rounds to it up to the middle to the next. -/
theorem of_floor {index : Nat} (floor : value index ≤ number)
    (below : number < middle index ∨ number = middle index ∧ index % 2 = 0) :
    RoundsTo number index := by
  refine ⟨?_, below⟩
  rintro lower rfl
  exact .inl ((middle_lt_value lower).trans_le floor)

/-- A number below an index rounds to it from the middle to the one before on. -/
theorem of_ceiling {lower : Nat} (ceiling : number < value (lower + 1))
    (above : middle lower < number ∨ middle lower = number ∧ (lower + 1) % 2 = 0) :
    RoundsTo number (lower + 1) := by
  refine ⟨?_, .inl (ceiling.trans (value_lt_middle _))⟩
  intro before next
  cases next
  exact above

theorem self (index : Nat) : RoundsTo (value index) index :=
  of_floor le_rfl (.inl (value_lt_middle index))

end RoundsTo

variable {numerator denominator : Nat}

theorem value_le_ratio_iff (positive : 0 < denominator) (index : Nat) :
    value index ≤ (numerator : ℚ) / denominator ↔
      units index * denominator ≤ numerator * unitsPerOne := by
  unfold value
  rw [div_le_div_iff₀ unitsPerOne_pos (Nat.cast_pos.mpr positive)]
  norm_cast

theorem middle_eq (index : Nat) :
    middle index = ((units index + units (index + 1) : Nat) : ℚ) / (2 * unitsPerOne : Nat) := by
  have nonzero := unitsPerOne_pos.ne'
  unfold middle value
  push_cast
  field_simp

theorem middle_lt_ratio_iff (positive : 0 < denominator) (index : Nat) :
    middle index < (numerator : ℚ) / denominator ↔
      (units index + units (index + 1)) * denominator < 2 * numerator * unitsPerOne := by
  have scale : (0 : ℚ) < (2 * unitsPerOne : Nat) := Nat.cast_pos.mpr twice_unitsPerOne_pos
  rw [middle_eq, div_lt_div_iff₀ scale (Nat.cast_pos.mpr positive), ← Nat.cast_mul,
    ← Nat.cast_mul, Nat.cast_lt, Nat.mul_left_comm, Nat.mul_assoc]

theorem ratio_lt_middle_iff (positive : 0 < denominator) (index : Nat) :
    (numerator : ℚ) / denominator < middle index ↔
      2 * numerator * unitsPerOne < (units index + units (index + 1)) * denominator := by
  have scale : (0 : ℚ) < (2 * unitsPerOne : Nat) := Nat.cast_pos.mpr twice_unitsPerOne_pos
  rw [middle_eq, div_lt_div_iff₀ (Nat.cast_pos.mpr positive) scale, ← Nat.cast_mul,
    ← Nat.cast_mul, Nat.cast_lt, Nat.mul_left_comm, Nat.mul_assoc]

/-- What is found for a ratio is the index that it rounds to, up to infinity. -/
theorem exists_roundsTo_nearest (numerator : Nat) (positive : 0 < denominator) :
    ∃ index, RoundsTo ((numerator : ℚ) / denominator) index ∧
      nearest numerator denominator = min index infiniteIndex := by
  obtain ⟨floorBelow, floorAbove⟩ := floorIndex_spec (numerator * unitsPerOne / denominator)
  unfold nearest
  dsimp only
  generalize floorIndex (numerator * unitsPerOne / denominator) = lower at *
  have floor : value lower ≤ (numerator : ℚ) / denominator :=
    (value_le_ratio_iff positive lower).mpr ((Nat.le_div_iff_mul_le positive).mp floorBelow)
  have ceiling : (numerator : ℚ) / denominator < value (lower + 1) := by
    rw [← not_le, value_le_ratio_iff positive, Nat.not_le]
    exact (Nat.div_lt_iff_lt_mul positive).mp floorAbove
  by_cases under : 2 * numerator * unitsPerOne < (units lower + units (lower + 1)) * denominator
  · rw [if_pos under]
    exact ⟨lower, .of_floor floor (.inl ((ratio_lt_middle_iff positive lower).mpr under)), rfl⟩
  · rw [if_neg under]
    by_cases beyond :
        (units lower + units (lower + 1)) * denominator < 2 * numerator * unitsPerOne
    · rw [if_pos beyond]
      exact ⟨lower + 1, .of_ceiling ceiling (.inl ((middle_lt_ratio_iff positive lower).mpr beyond)),
        rfl⟩
    · rw [if_neg beyond]
      have tie : (numerator : ℚ) / denominator = middle lower :=
        le_antisymm
          (not_lt.mp fun more => beyond ((middle_lt_ratio_iff positive lower).mp more))
          (not_lt.mp fun less => under ((ratio_lt_middle_iff positive lower).mp less))
      rcases Nat.mod_two_eq_zero_or_one lower with even | odd
      · rw [even, Nat.add_zero]
        exact ⟨lower, .of_floor floor (.inr ⟨tie, even⟩), rfl⟩
      · rw [odd]
        exact ⟨lower + 1, .of_ceiling ceiling (.inr ⟨tie.symm, by omega⟩), rfl⟩

theorem nearest_eq_of_roundsTo (positive : 0 < denominator) {index : Nat}
    (rounds : RoundsTo ((numerator : ℚ) / denominator) index) :
    nearest numerator denominator = min index infiniteIndex := by
  obtain ⟨found, foundRounds, result⟩ := exists_roundsTo_nearest numerator positive
  rw [result, foundRounds.unique rounds]

end SceneComponent.Binary64
