import Mathlib
import SceneComponent.Proofs.Binary64.Bits
import SceneComponent.Proofs.Binary64.Nearest

/-!
# Doubles with their signs

A finite double is a sign and a magnitude.  Its unpacked form tells the row and the place of
the magnitude, so that doubles are ordered as their signed indices are (`le_iff_signedIndex`),
and the opposite of a double has the same index.  The double nearest to a number is the one
with its sign of which the magnitude is what the number without its sign rounds to
(`isNearest_of_roundsTo`), and no other is (`IsNearest.unique`).
-/

set_option autoImplicit false

namespace SceneComponent.Binary64

open Float.Model UnpackedFloat

/-! ## Unpacked doubles -/

def signOf (negative : Bool) : Sign := if negative then .negative else .positive

/-- The unpacked form of a sign and an index. -/
def unpacked (sign : Sign) (index : Nat) : UnpackedFloat :=
  if nonzero : 0 < index - binade index * rowLength then
    .finite sign (index - binade index * rowLength) ((binade index : Int) - 1074) nonzero
  else .zero sign

theorem toNat_unpackSign (pattern : BitVec 64) :
    (@unpackSign Format.binary64 pattern).toNat = pattern.toNat / 9223372036854775808 % 2 := by
  rw [unpackSign_def]
  exact (BitVec.extractLsb'_toNat 63 1 pattern).trans (by rw [Nat.shiftRight_eq_div_pow])

theorem sign_unpackSign (x : Float) :
    Sign.ofBitVec (@unpackSign Format.binary64 x.toBits.toBitVec) = signOf (isNegative x) := by
  have bounded : x.toBits.toNat < 18446744073709551616 := x.toBits.toNat_lt
  have limit : signBit = 9223372036854775808 := rfl
  have field : (@unpackSign Format.binary64 x.toBits.toBitVec).toNat =
      x.toBits.toNat / 9223372036854775808 % 2 := toNat_unpackSign _
  have clear : (@unpackSign Format.binary64 x.toBits.toBitVec = 0#1) ↔
      x.toBits.toNat / 9223372036854775808 % 2 = 0 := by
    rw [← field]
    exact BitVec.toNat_inj.symm
  have negative : isNegative x = true ↔ ¬ (@unpackSign Format.binary64 x.toBits.toBitVec = 0#1) := by
    rw [clear, isNegative, decide_eq_true_iff]
    omega
  by_cases zero : @unpackSign Format.binary64 x.toBits.toBitVec = 0#1
  · rw [Sign.ofBitVec, if_pos zero, signOf, if_neg (negative.not.mpr (not_not.mpr zero))]
  · rw [Sign.ofBitVec, if_neg zero, signOf, if_pos (negative.mpr zero)]

/-- The unpacked form of a place in a row. -/
theorem unpacked_of_row (sign : Sign) {row place : Nat} (below : place < 2 * rowLength)
    (above : row = 0 ∨ rowLength ≤ place) :
    unpacked sign (row * rowLength + place) =
      if nonzero : 0 < place then .finite sign place ((row : Int) - 1074) nonzero
      else .zero sign := by
  have sameBinade := (units_of_row below above).1
  unfold unpacked
  simp only [sameBinade, Nat.add_sub_cancel_left]

/-- The exponent and the mantissa of a double tell the row and the place of its index. -/
theorem fields_of_row {x : Float} {row place : Nat} (isPlace : index x = row * rowLength + place)
    (finite : isFinite x = true) :
    (@unpackExponent Format.binary64 x.toBits.toBitVec).toNat = row + place / rowLength ∧
      (@unpackMantissa Format.binary64 x.toBits.toBitVec).toNat = place % rowLength ∧
      row + place / rowLength < 2047 := by
  have limit : infiniteIndex = 9218868437227405312 := rfl
  have exponent := toNat_unpackExponent x.toBits.toBitVec
  have mantissa := toNat_unpackMantissa x.toBits.toBitVec
  have pattern : x.toBits.toBitVec.toNat % 9223372036854775808 = index x := rfl
  have bounded : index x < infiniteIndex := of_decide_eq_true finite
  rw [rowLength_eq] at *
  omega

theorem unpack_eq {x : Float} (finite : isFinite x = true) :
    x.toModel.unpack = unpacked (signOf (isNegative x)) (Binary64.index x) := by
  have length := rowLength_eq
  obtain ⟨row, place, isPlace, below, above⟩ := exists_row (Binary64.index x)
  obtain ⟨exponent, mantissa, inRange⟩ := fields_of_row isPlace finite
  have notHighest : ¬ (@unpackExponent Format.binary64 x.toBits.toBitVec = -1#11) := by
    intro highest
    have full : (-1#11).toNat = 2047 := rfl
    rw [highest] at exponent
    omega
  have bias : ((Format.binary64.exponentBias : Int) +
      (Format.binary64.mantissaBitsWithoutImplicit : Int)) = 1075 := rfl
  change UnpackedFloat.unpack Format.binary64 x.toBits.toBitVec = _
  rw [UnpackedFloat.unpack.eq_1, sign_unpackSign, if_neg notHighest, isPlace,
    unpacked_of_row _ below above, bias]
  rw [length] at *
  split
  · next low =>
    have lowest : (@unpackExponent Format.binary64 x.toBits.toBitVec).toNat = 0 := by
      rw [low]
      rfl
    split
    · next none =>
      have nothing : (@unpackMantissa Format.binary64 x.toBits.toBitVec).toNat = 0 := by
        rw [none]
        rfl
      rw [dif_neg (by omega)]
    · next some =>
      have nonzero : (@unpackMantissa Format.binary64 x.toBits.toBitVec).toNat ≠ 0 :=
        fun nothing => some (BitVec.toNat_inj.mp nothing)
      rw [dif_pos (by omega), UnpackedFloat.finite.injEq]
      exact ⟨rfl, by omega, by omega⟩
  · next high =>
    -- the leading one that the mantissa of a higher row leaves out
    have positive : (@unpackExponent Format.binary64 x.toBits.toBitVec).toNat ≠ 0 :=
      fun lowest => high (BitVec.toNat_inj.mp lowest)
    have leading : (1#1 ++ @unpackMantissa Format.binary64 x.toBits.toBitVec).toNat =
        4503599627370496 + (@unpackMantissa Format.binary64 x.toBits.toBitVec).toNat := by
      rw [BitVec.toNat_append, ← Nat.shiftLeft_add_eq_or_of_lt (BitVec.isLt _)]
      rfl
    rw [dif_pos (by omega), UnpackedFloat.finite.injEq]
    exact ⟨rfl, by omega, by omega⟩

/-! ## The order -/

theorem le_iff_compare {x y : Float} : x ≤ y ↔
    (x.toModel.unpack.compare y.toModel.unpack).any (·.isLE) = true := by
  refine Iff.trans ?_ (Iff.rfl : x.toModel ≤ y.toModel ↔ _)
  exact decide_eq_true_iff

/-- An index with a sign. -/
def signed : (negative : Bool) → (index : Nat) → Int
  | true, index => -index
  | false, index => index

theorem signed_zero (negative : Bool) : signed negative 0 = 0 := by cases negative <;> rfl

def signedIndex (x : Float) : Int := signed (isNegative x) (Binary64.index x)

/-- Rows and places are compared like the indices they stand for. -/
theorem isLE_places_iff {row place otherRow otherPlace : Nat} (below : place < 2 * rowLength)
    (otherBelow : otherPlace < 2 * rowLength) (above : row = 0 ∨ rowLength ≤ place)
    (otherAbove : otherRow = 0 ∨ rowLength ≤ otherPlace) :
    ((compare ((row : Int) - 1074) ((otherRow : Int) - 1074)).then
        (compare place otherPlace)).isLE = true ↔
      row * rowLength + place ≤ otherRow * rowLength + otherPlace := by
  have length := rowLength_eq
  rw [length] at below otherBelow above otherAbove ⊢
  rcases Nat.lt_trichotomy row otherRow with less | rfl | more
  · rw [compare_lt_iff_lt.mpr (by omega)]
    exact iff_of_true rfl (by omega)
  · rw [compare_eq_iff_eq.mpr rfl, Ordering.eq_then, Nat.isLE_compare]
    omega
  · rw [compare_gt_iff_gt.mpr (by omega)]
    exact iff_of_false Bool.false_ne_true (by omega)

theorem isLE_swap_places_iff {row place otherRow otherPlace : Nat} (below : place < 2 * rowLength)
    (otherBelow : otherPlace < 2 * rowLength) (above : row = 0 ∨ rowLength ≤ place)
    (otherAbove : otherRow = 0 ∨ rowLength ≤ otherPlace) :
    ((compare ((row : Int) - 1074) ((otherRow : Int) - 1074)).then
        (compare place otherPlace)).swap.isLE = true ↔
      otherRow * rowLength + otherPlace ≤ row * rowLength + place := by
  rw [Ordering.swap_then, Int.compare_swap, Nat.compare_swap]
  exact isLE_places_iff otherBelow below otherAbove above

/-- The first place of the lowest row is that of zero, and no other row has it. -/
theorem eq_zero_of_place {index row place : Nat} (isPlace : index = row * rowLength + place)
    (above : row = 0 ∨ rowLength ≤ place) : index = 0 ↔ ¬ 0 < place := by
  have length := rowLength_eq
  rcases above with rfl | high
  · omega
  · omega

/-- Unpacked doubles are ordered as their indices are, the other way below zero. -/
theorem isLE_compare_unpacked (negative otherNegative : Bool) (index other : Nat) :
    ((unpacked (signOf negative) index).compare (unpacked (signOf otherNegative) other)).any
        (·.isLE) = true ↔
      signed negative index ≤ signed otherNegative other := by
  obtain ⟨row, place, isPlace, below, above⟩ := exists_row index
  obtain ⟨otherRow, otherPlace, isOtherPlace, otherBelow, otherAbove⟩ := exists_row other
  have zero := eq_zero_of_place isPlace above
  have otherZero := eq_zero_of_place isOtherPlace otherAbove
  have places := isLE_places_iff below otherBelow above otherAbove
  have swapped := isLE_swap_places_iff below otherBelow above otherAbove
  rw [← isPlace, ← isOtherPlace] at places swapped
  rw [isPlace, isOtherPlace, unpacked_of_row _ below above, unpacked_of_row _ otherBelow otherAbove,
    ← isPlace, ← isOtherPlace]
  by_cases nonzero : 0 < place
  · rw [dif_pos nonzero]
    by_cases otherNonzero : 0 < otherPlace
    · rw [dif_pos otherNonzero]
      cases negative with
      | true =>
          cases otherNegative with
          | true => exact swapped.trans (by simp only [signed]; omega)
          | false => exact iff_of_true rfl (by simp only [signed]; omega)
      | false =>
          cases otherNegative with
          | true => exact iff_of_false Bool.false_ne_true (by simp only [signed]; omega)
          | false => exact places.trans (by simp only [signed]; omega)
    · rw [dif_neg otherNonzero, otherZero.mpr otherNonzero, signed_zero]
      cases negative with
      | true => exact iff_of_true rfl (by simp only [signed]; omega)
      | false => exact iff_of_false Bool.false_ne_true (by simp only [signed]; omega)
  · rw [dif_neg nonzero, zero.mpr nonzero, signed_zero]
    by_cases otherNonzero : 0 < otherPlace
    · rw [dif_pos otherNonzero]
      cases otherNegative with
      | true => exact iff_of_false Bool.false_ne_true (by simp only [signed]; omega)
      | false => exact iff_of_true rfl (by simp only [signed]; omega)
    · rw [dif_neg otherNonzero, otherZero.mpr otherNonzero, signed_zero]
      exact iff_of_true rfl (Int.le_refl 0)

/-- The order of finite doubles is that of their signed indices. -/
theorem le_iff_signedIndex {x y : Float} (finite : isFinite x = true)
    (otherFinite : isFinite y = true) : x ≤ y ↔ signedIndex x ≤ signedIndex y := by
  rw [le_iff_compare, unpack_eq finite, unpack_eq otherFinite]
  exact isLE_compare_unpacked _ _ _ _

/-! ## Opposites -/

theorem neg_unpacked (negative : Bool) (index : Nat) :
    (unpacked (signOf negative) index).neg = unpacked (signOf !negative) index := by
  unfold unpacked
  split
  · cases negative <;> rfl
  · cases negative <;> rfl

theorem pack_unpack_toModel (x : Float) : ⟨Float.Model.pack x.toModel.unpack⟩ = x := by
  apply Float.toBits_inj.mp
  exact congrArg UInt64.ofBitVec (pack_unpack_of_valid x.toModel.valid)

theorem neg_eq {x : Float} (finite : isFinite x = true) :
    -x = ofIndex (!isNegative x) (Binary64.index x) := by
  have bounded : Binary64.index x ≤ infiniteIndex := (of_decide_eq_true finite).le
  have opposite := unpack_eq (x := ofIndex (!isNegative x) (Binary64.index x)) (by
    rw [isFinite, index_ofIndex _ bounded]
    exact finite)
  rw [isNegative_ofIndex _ bounded, index_ofIndex _ bounded, ← neg_unpacked,
    ← unpack_eq finite] at opposite
  change (⟨Float.Model.pack x.toModel.unpack.neg⟩ : Float) = _
  rw [← opposite, pack_unpack_toModel]

theorem index_neg {x : Float} (finite : isFinite x = true) :
    Binary64.index (-x) = Binary64.index x := by
  rw [neg_eq finite, index_ofIndex _ (of_decide_eq_true finite).le]

theorem isNegative_neg {x : Float} (finite : isFinite x = true) :
    isNegative (-x) = !isNegative x := by
  rw [neg_eq finite, isNegative_ofIndex _ (of_decide_eq_true finite).le]

/-! ## Numbers with signs -/

namespace RoundsTo

variable {number : ℚ} {index : Nat}

/-- No other magnitude is nearer to a number than the one that it rounds to; of two equally
near ones it is the even one. -/
theorem nearest (rounds : RoundsTo number index) (other : Nat) :
    |value index - number| ≤ |value other - number| ∧
      (other ≠ index → |value other - number| = |value index - number| → index % 2 = 0) := by
  rcases Nat.lt_trichotomy other index with less | rfl | more
  · obtain ⟨lower, rfl⟩ := Nat.exists_eq_add_one_of_ne_zero (Nat.ne_of_gt (Nat.zero_lt_of_lt less))
    have order : value other ≤ value lower :=
      value_strictMono.monotone (Nat.le_of_lt_succ less)
    have step := value_strictMono (Nat.lt_succ_self lower)
    have isMiddle : middle lower = (value lower + value (lower + 1)) / 2 := rfl
    have above : middle lower ≤ number :=
      (rounds.above lower rfl).elim le_of_lt fun tie => tie.1.le
    have farther : |value other - number| = number - value other := by
      rw [abs_sub_comm, abs_of_nonneg (by linarith)]
    rw [farther, abs_le]
    refine ⟨⟨by linarith, by linarith⟩, fun _ same => ?_⟩
    rcases rounds.above lower rfl with beyond | ⟨_, even⟩
    · rcases abs_cases (value (lower + 1) - number) with ⟨positive, _⟩ | ⟨negative, _⟩
      · linarith
      · linarith
    · exact even
  · exact ⟨le_rfl, fun different => absurd rfl different⟩
  · have order : value (index + 1) ≤ value other := value_strictMono.monotone more
    have step := value_strictMono (Nat.lt_succ_self index)
    have isMiddle : middle index = (value index + value (index + 1)) / 2 := rfl
    have below : number ≤ middle index := rounds.below.elim le_of_lt fun tie => tie.1.le
    have farther : |value other - number| = value other - number := abs_of_nonneg (by linarith)
    rw [farther, abs_le]
    refine ⟨⟨by linarith, by linarith⟩, fun _ same => ?_⟩
    rcases rounds.below with under | ⟨_, even⟩
    · rcases abs_cases (value index - number) with ⟨positive, _⟩ | ⟨negative, _⟩
      · linarith
      · linarith
    · exact even

end RoundsTo

/-- The number that a finite double is. -/
def number (x : Float) : ℚ := if isNegative x then -value (index x) else value (index x)

/-- The double that a number is rounded to, if it is finite: the nearest one, and of two
equally near the even one.  From the middle between the largest double and the next power of
two on, a number is rounded to infinity. -/
structure IsNearest (target : ℚ) (x : Float) : Prop where
  finite : isFinite x = true
  inRange : |target| < middle (infiniteIndex - 1)
  nearest : ∀ y, isFinite y = true → |number x - target| ≤ |number y - target|
  even : ∀ y, isFinite y = true → number y ≠ number x →
    |number y - target| = |number x - target| → index x % 2 = 0

theorem value_zero : value 0 = 0 := by
  rw [value, units_zero, Nat.cast_zero, zero_div]

theorem value_nonneg (index : Nat) : 0 ≤ value index := by
  rw [← value_zero]
  exact value_strictMono.monotone (Nat.zero_le index)

theorem abs_number (x : Float) : |number x| = value (index x) := by
  unfold number
  split
  · rw [abs_neg, abs_of_nonneg (value_nonneg _)]
  · exact abs_of_nonneg (value_nonneg _)

theorem value_lt_iff {first second : Nat} : value first < value second ↔ first < second :=
  value_strictMono.lt_iff_lt

theorem value_pos_iff {index : Nat} : 0 < value index ↔ 0 < index := by
  rw [← value_lt_iff, value_zero]

theorem neg_value_lt_iff {first second : Nat} :
    -value first < value second ↔ 0 < first ∨ 0 < second := by
  have nonnegative := value_nonneg first
  have nonnegativeToo := value_nonneg second
  rw [← value_pos_iff, ← @value_pos_iff second]
  constructor
  · intro less
    by_contra neither
    obtain ⟨notFirst, notSecond⟩ := not_or.mp neither
    linarith
  · rintro (more | more) <;> linarith

/-- Finite doubles are ordered as their indices with signs are. -/
theorem number_lt_iff {x y : Float} : number x < number y ↔ signedIndex x < signedIndex y := by
  unfold number signedIndex
  cases isNegative x with
  | true =>
      cases isNegative y with
      | true =>
          rw [if_pos rfl, if_pos rfl, neg_lt_neg_iff, value_lt_iff, signed, signed]
          omega
      | false =>
          rw [if_pos rfl, if_neg Bool.false_ne_true, neg_value_lt_iff, signed, signed]
          omega
  | false =>
      cases isNegative y with
      | true =>
          have first := value_nonneg (index x)
          have second := value_nonneg (index y)
          rw [if_neg Bool.false_ne_true, if_pos rfl, signed, signed]
          exact iff_of_false (by linarith) (by omega)
      | false =>
          rw [if_neg Bool.false_ne_true, if_neg Bool.false_ne_true, value_lt_iff, signed, signed]
          omega

theorem exists_signedIndex {place : Int} (below : place.natAbs < infiniteIndex) :
    ∃ x, isFinite x = true ∧ signedIndex x = place := by
  refine ⟨ofIndex (decide (place < 0)) place.natAbs, ?_, ?_⟩
  · rw [isFinite, index_ofIndex _ below.le]
    exact decide_eq_true below
  · rw [signedIndex, index_ofIndex _ below.le, isNegative_ofIndex _ below.le]
    by_cases negative : place < 0
    · rw [decide_eq_true negative, signed]
      omega
    · rw [decide_eq_false negative, signed]
      omega

theorem natAbs_signedIndex (x : Float) : (signedIndex x).natAbs = index x := by
  unfold signedIndex
  cases isNegative x with
  | true => rw [signed]; omega
  | false => rw [signed]; omega

/-- Two nearest doubles are the same number: of two that are equally far one would be odd, or
another double would stand between them. -/
theorem IsNearest.unique {target : ℚ} {x y : Float} (first : IsNearest target x)
    (second : IsNearest target y) : number x = number y := by
  have noneBelow : ∀ {x y : Float}, IsNearest target x → IsNearest target y →
      ¬ number x < number y := by
    intro x y first second less
    have same := le_antisymm (second.nearest x first.finite) (first.nearest y second.finite)
    have even := first.even y second.finite less.ne' same
    have otherEven := second.even x first.finite less.ne same.symm
    have middle : target = (number x + number y) / 2 := by
      rcases abs_eq_abs.mp same with alike | opposite
      · linarith
      · linarith
    have between := number_lt_iff.mp less
    have size := natAbs_signedIndex x
    have otherSize := natAbs_signedIndex y
    have bounded : index x < infiniteIndex := of_decide_eq_true first.finite
    have otherBounded : index y < infiniteIndex := of_decide_eq_true second.finite
    have next : (signedIndex x + 1).natAbs < infiniteIndex := by omega
    obtain ⟨z, finite, isNext⟩ := exists_signedIndex next
    have above : number x < number z := number_lt_iff.mpr (by omega)
    have below : number z < number y := number_lt_iff.mpr (by omega)
    have nearer : |number z - target| < |number x - target| := by
      rw [abs_of_neg (by linarith : number x - target < 0), abs_lt]
      exact ⟨by linarith, by linarith⟩
    exact absurd nearer (not_lt.mpr (first.nearest z finite))
  exact le_antisymm (not_lt.mp (noneBelow second first)) (not_lt.mp (noneBelow first second))
theorem isNearest_number {x : Float} (finite : isFinite x = true) : IsNearest (number x) x where
  finite := finite
  inRange := by
    rw [abs_number]
    exact (value_lt_middle _).trans_le
      (middle_strictMono.monotone (Nat.le_sub_one_of_lt (of_decide_eq_true finite)))
  nearest := fun y _ => by
    rw [sub_self, abs_zero]
    exact abs_nonneg _
  even := fun y _ different same => by
    rw [sub_self, abs_zero, abs_eq_zero] at same
    exact absurd (sub_eq_zero.mp same) different

section Signed

variable {negative : Bool} {magnitude : ℚ}

theorem abs_signed (nonnegative : 0 ≤ magnitude) :
    |if negative then -magnitude else magnitude| = magnitude := by
  split
  · rw [abs_neg, abs_of_nonneg nonnegative]
  · exact abs_of_nonneg nonnegative

theorem abs_signed_sub (first second : ℚ) :
    |(if negative then -first else first) - (if negative then -second else second)| =
      |first - second| := by
  split
  · rw [neg_sub_neg, abs_sub_comm]
  · rfl

/-- The largest double is odd, so that the middle above it is rounded to infinity. -/
theorem RoundsTo.lt_middle_largest {index : Nat} (rounds : RoundsTo magnitude index)
    (bounded : index < infiniteIndex) : magnitude < middle (infiniteIndex - 1) := by
  have limit : (infiniteIndex - 1) % 2 = 1 := by decide
  rcases Nat.lt_or_eq_of_le (Nat.le_sub_one_of_lt bounded) with below | rfl
  · have order := middle_strictMono below
    rcases rounds.below with under | ⟨same, _⟩
    · exact under.trans order
    · exact same.trans_lt order
  · rcases rounds.below with under | ⟨_, even⟩
    · exact under
    · omega

/-- The magnitude that a number without its sign rounds to makes the nearest double, with the
sign of the number unless it is zero. -/
theorem isNearest_of_roundsTo {x : Float} (nonnegative : 0 ≤ magnitude)
    (finite : isFinite x = true) (sign : isNegative x = (negative && index x != 0))
    (rounds : RoundsTo magnitude (index x)) :
    IsNearest (if negative then -magnitude else magnitude) x := by
  have isNumber : number x = if negative then -value (index x) else value (index x) := by
    by_cases zero : index x = 0
    · rw [number, zero, value_zero, neg_zero, ite_self, ite_self]
    · rw [number, sign, bne_iff_ne.mpr zero, Bool.and_true]
  have distance : |number x - (if negative then -magnitude else magnitude)| =
      |value (index x) - magnitude| := by rw [isNumber, abs_signed_sub]
  have farther : ∀ y, |value (index y) - magnitude| ≤
      |number y - (if negative then -magnitude else magnitude)| := by
    intro y
    have apart := abs_abs_sub_abs_le (number y) (if negative then -magnitude else magnitude)
    rwa [abs_number, abs_signed nonnegative] at apart
  refine ⟨finite, ?_, ?_, ?_⟩
  · rw [abs_signed nonnegative]
    exact rounds.lt_middle_largest (of_decide_eq_true finite)
  · intro y _
    rw [distance]
    exact (rounds.nearest (index y)).1.trans (farther y)
  · intro y _ different same
    by_cases sameIndex : index y = index x
    · -- the opposite of a double is as near as the double to zero only
      have opposite : number y = -number x := by
        have sameSize : |number y| = |number x| := by rw [abs_number, abs_number, sameIndex]
        rcases abs_eq_abs.mp sameSize with alike | other
        · exact absurd alike different
        · exact other
      rw [opposite] at same different
      have zero : (if negative then -magnitude else magnitude) = 0 := by
        rcases abs_eq_abs.mp same with alike | other
        · exact absurd (by linarith) different
        · linarith
      have nothing : magnitude = 0 := by rw [← abs_signed nonnegative, zero, abs_zero]
      rw [nothing, ← value_zero] at rounds
      rw [rounds.unique (.self 0)]
    · rw [distance] at same
      have tie := le_antisymm ((farther y).trans same.le) (rounds.nearest (index y)).1
      exact (rounds.nearest (index y)).2 sameIndex tie

end Signed

end SceneComponent.Binary64
