import Mathlib
import SceneComponent.Proofs.Decimal.HalfUp
import SceneComponent.Proofs.Decimal.SignedText
import SceneComponent.Proofs.Value.Rounded

/-!
# Doubles rounded half up

Rounding a double takes the exact number of its text to the nearest multiple of a power of
ten, a half going away from zero, and that multiple to the nearest double, which is finite and
no signed zero.  It is what quantizing in a decimal context gives, and the context that is asked
for always has the digits for the multiple.

So rounding keeps the order of doubles and commutes with changing the sign, and what was
rounded is not changed by rounding it again.
-/

set_option autoImplicit false

namespace SceneComponent

open Binary64

/-- How many steps of `10 ^ -places` a number is from zero, a half counting as one. -/
def halfUpSteps (number : ℚ) (places : ℕ) : ℕ := ⌊|number| * 10 ^ places + 1 / 2⌋₊

/-- A number rounded to places after the point, a half going away from zero. -/
def halfUp (number : ℚ) (places : ℕ) : ℚ :=
  SignType.sign number * halfUpSteps number places / 10 ^ places

/-- What rounding to places makes of the number that a double is written as. -/
structure IsHalfUp (x : Float) (written : SignedDecimal) (places : ℕ) (rounded : Float) : Prop where
  /-- The digits that are asked for suffice, that of a carry included. -/
  digits : Decimal.digitCount (halfUpSteps written.value places) ≤
    max 28 (written.magnitude.leadingExponent + places + 2)
  quantized : Decimal.quantized? (max 28 (written.magnitude.leadingExponent + places + 2))
    written.magnitude (-places) = some ⟨halfUpSteps written.value places, -places⟩
  nearest : IsNearest (halfUp written.value places) rounded
  unsigned : halfUp written.value places = 0 → rounded = 0.0
  kept : (∃ steps : ℤ, written.value * 10 ^ places = steps) → equals rounded x = true

/-- Whether a double goes away from zero when its text is half-way between two numbers of steps
of `10 ^ -places`. -/
def HalfGoesAway (x : Float) (places : ℕ) (rounded : Float) : Prop :=
  ∃ written, SignedDecimal.ofText? (doubleText x).toList = some written ∧
    ∀ steps : ℕ, |written.value| * 10 ^ places = steps + 1 / 2 →
      IsNearest (SignType.sign written.value * (steps + 1) / 10 ^ places) rounded

variable {x y : Float}

theorem HalfGoesAway.isNearest {places : ℕ} (away : HalfGoesAway x places y) (steps : ℕ)
    {written : SignedDecimal} (read : SignedDecimal.ofText? (doubleText x).toList = some written)
    (half : |written.value| * 10 ^ places = steps + 1 / 2) :
    IsNearest (SignType.sign written.value * (steps + 1) / 10 ^ places) y := by
  obtain ⟨other, otherRead, nearest⟩ := away
  obtain rfl : written = other := Option.some.inj (read.symm.trans otherRead)
  exact nearest steps half

/-! ## Steps -/

theorem halfUpSteps_eq (number : SignedDecimal) (places : ℕ) :
    halfUpSteps number.value places = number.magnitude.halfUpMultiple (-places) := by
  rw [halfUpSteps, number.abs_value, Decimal.halfUpMultiple, zpow_neg, zpow_natCast,
    div_inv_eq_mul]

theorem halfUpSteps_zero (places : ℕ) : halfUpSteps 0 places = 0 := by
  have half := Decimal.floor_add_half 0
  rwa [Nat.cast_zero, ← zero_mul ((10 : ℚ) ^ places), ← abs_zero] at half

theorem sign_mul_halfUpSteps (number : SignedDecimal) (places : ℕ) :
    (SignType.sign number.value : ℚ) * halfUpSteps number.value places =
      if number.negative then -(halfUpSteps number.value places : ℚ)
      else halfUpSteps number.value places := by
  have size := number.magnitude.value_nonneg
  rcases size.eq_or_lt with zero | positive
  · have nothing : number.value = 0 := by
      rw [SignedDecimal.value, ← zero, neg_zero, ite_self]
    rw [nothing, halfUpSteps_zero, Nat.cast_zero, mul_zero, neg_zero, ite_self]
  · cases negative : number.negative with
    | true =>
        have below : number.value < 0 := by
          rw [SignedDecimal.value, negative, if_pos rfl]
          exact neg_lt_zero.mpr positive
        rw [sign_neg below, if_pos rfl, SignType.coe_neg_one, neg_one_mul]
    | false =>
        have above : 0 < number.value := by
          rw [SignedDecimal.value, negative, if_neg Bool.false_ne_true]
          exact positive
        rw [sign_pos above, if_neg Bool.false_ne_true, SignType.coe_one, one_mul]

theorem halfUp_eq (number : SignedDecimal) (places : ℕ) :
    halfUp number.value places =
      if number.negative then -(halfUpSteps number.value places / 10 ^ places : ℚ)
      else halfUpSteps number.value places / 10 ^ places := by
  rw [halfUp, sign_mul_halfUpSteps]
  split
  · rw [neg_div]
  · rfl

/-- Half-way between two numbers of steps, the larger one is taken. -/
theorem halfUp_of_half {number : ℚ} {places steps : ℕ}
    (half : |number| * 10 ^ places = steps + 1 / 2) :
    halfUp number places = SignType.sign number * (steps + 1) / 10 ^ places := by
  have next : halfUpSteps number places = steps + 1 := by
    have whole : (steps : ℚ) + 1 / 2 + 1 / 2 = (steps + 1 : ℕ) := by
      push_cast
      ring
    rw [halfUpSteps, half, whole, Nat.floor_natCast]
  rw [halfUp, next, Nat.cast_succ]

theorem abs_halfUp (number : SignedDecimal) (places : ℕ) :
    |halfUp number.value places| = halfUpSteps number.value places / 10 ^ places := by
  rw [halfUp_eq]
  exact abs_signed (by positivity)

/-! ## Rounded doubles -/

theorem isFinite_roundFinite {places : Int} (nonnegative : 0 ≤ places)
    (finite : isFinite x = true) : isFinite (Decimal.roundFinite x places) = true := by
  rw [isFinite, Decimal.index_roundFinite]
  exact decide_eq_true
    (Decimal.roundIndex_lt_infinite nonnegative (of_decide_eq_true finite))

theorem eq_zero_of_index (zero : index x = 0) (unsigned : ¬ IsNegativeZero x) : x = 0.0 := by
  have zeroIndex : index 0.0 = 0 := by decide
  have zeroSign : isNegative 0.0 = false := by decide
  have positive : isNegative x = false :=
    Bool.eq_false_iff.mpr fun negative => unsigned ⟨negative, zero⟩
  exact eq_of_index_eq (positive.trans zeroSign.symm) (zero.trans zeroIndex.symm)

theorem equals_of_index {x y : Float} (finite : isFinite x = true) (same : index x = index y)
    (sign : index x ≠ 0 → isNegative x = isNegative y) : equals x y = true := by
  have bounded : index x < infiniteIndex := of_decide_eq_true finite
  have defined : isNaN x = false := decide_eq_false (Nat.not_lt.mpr bounded.le)
  rw [equals, defined, same]
  by_cases zero : index x = 0
  · rw [← same, zero]
    simp
  · rw [sign zero]
    simp

section Written

variable {written : SignedDecimal} {count : ℕ}

/-- The steps of a number are those of the decimal that is rounded. -/
theorem value_roundHalfUp_written (writes : written.Writes x) :
    ((Decimal.shortest (index x)).roundHalfUp (-count)).value =
      halfUpSteps written.value count / 10 ^ count := by
  rw [Decimal.value_roundHalfUp, halfUpSteps_eq, Decimal.halfUpMultiple_congr writes.value,
    zpow_neg, zpow_natCast, ← div_eq_mul_inv]

theorem roundsTo_halfUpSteps (writes : written.Writes x) (finite : isFinite x = true) :
    RoundsTo (halfUpSteps written.value count / 10 ^ count)
      (index (Decimal.roundFinite x count)) := by
  rw [← value_roundHalfUp_written writes, Decimal.index_roundFinite]
  exact Decimal.roundsTo_roundIndex (Int.natCast_nonneg count) (of_decide_eq_true finite)

theorem quantized?_written (writes : written.Writes x) (finite : isFinite x = true) :
    Decimal.quantized? (max 28 (written.magnitude.leadingExponent + count + 2))
      written.magnitude (-count) = some ⟨halfUpSteps written.value count, -count⟩ := by
  have least := Decimal.le_firstDigitExponent (index x)
  have most := Decimal.firstDigitExponent_le (of_decide_eq_true finite)
  have limit : Decimal.largestExponent = 999999 := rfl
  rw [← writes.leading] at least most
  have quantized := Decimal.quantized?_keptDigits count least (by omega)
  rw [if_neg (by omega)] at quantized
  rw [halfUpSteps_eq]
  exact quantized

theorem isNearest_halfUp (writes : written.Writes x) (finite : isFinite x = true) :
    IsNearest (halfUp written.value count) (Decimal.roundFinite x count) := by
  rw [halfUp_eq]
  refine isNearest_of_roundsTo (by positivity)
    (isFinite_roundFinite (Int.natCast_nonneg count) finite) ?_
    (roundsTo_halfUpSteps writes finite)
  rw [Decimal.isNegative_roundFinite, Decimal.index_roundFinite, writes.sign]

theorem roundFinite_eq_zero (writes : written.Writes x) (finite : isFinite x = true)
    (zero : halfUp written.value count = 0) : Decimal.roundFinite x count = 0.0 := by
  have rounds : RoundsTo (halfUpSteps written.value count / 10 ^ count) _ :=
    roundsTo_halfUpSteps writes finite
  rw [← abs_halfUp, zero, abs_zero, ← value_zero] at rounds
  exact eq_zero_of_index (rounds.unique (.self 0))
    (Decimal.not_isNegativeZero_roundFinite x count)

/-- A number of steps is kept. -/
theorem equals_roundFinite (writes : written.Writes x) (finite : isFinite x = true) {steps : ℤ}
    (exact : written.value * 10 ^ count = steps) :
    equals (Decimal.roundFinite x count) x = true := by
  have size : |written.value * 10 ^ count| = steps.natAbs := by
    rw [exact, ← Int.cast_abs, Int.abs_eq_natAbs, Int.cast_natCast]
  rw [abs_mul, written.abs_value, abs_of_pos (by positivity), writes.value] at size
  have multiple : (Decimal.shortest (index x)).value = steps.natAbs * 10 ^ (-(count : Int)) := by
    rw [zpow_neg, zpow_natCast, ← size, mul_inv_cancel_right₀ (by positivity)]
  have kept := Decimal.roundIndex_of_multiple (of_decide_eq_true finite) multiple
  refine equals_of_index (isFinite_roundFinite (Int.natCast_nonneg count) finite) ?_ ?_
  · rw [Decimal.index_roundFinite, kept]
  · intro nonzero
    rw [Decimal.index_roundFinite] at nonzero
    rw [Decimal.isNegative_roundFinite, bne_iff_ne.mpr nonzero, Bool.and_true]

theorem halfGoesAway_roundFinite (finite : isFinite x = true) :
    HalfGoesAway x count (Decimal.roundFinite x count) := by
  obtain ⟨written, read, writes⟩ := ofText?_doubleText finite
  refine ⟨written, read, fun steps half => ?_⟩
  rw [← halfUp_of_half half]
  exact isNearest_halfUp writes finite

end Written

/-- A finite double is rounded by quantizing the number of its text, in a context of the digits
that are asked for: to the double nearest to what the context gives, a zero without its sign.
Rounding is refused when a context cannot keep so many digits, and when it refuses to quantize. -/
theorem Value.roundDouble_eq_ok_iff {places : Value} {count : Int} {written : SignedDecimal}
    {rounded : Float} (finite : isFinite x = true) (integer : places.toInteger = .ok count)
    (read : SignedDecimal.ofText? (doubleText x).toList = some written) :
    roundDouble x places = .ok rounded ↔
      written.magnitude.keptDigits count ≤ Decimal.mostDigits ∧
        ∃ quantized, Decimal.quantized? (written.magnitude.keptDigits count) written.magnitude
            (-count) = some quantized ∧
          rounded = ofIndex (written.negative && quantized.nearestIndex != 0)
            quantized.nearestIndex := by
  obtain ⟨other, otherRead, writes⟩ := ofText?_doubleText finite
  obtain rfl : written = other := Option.some.inj (read.symm.trans otherRead)
  have allowed := Decimal.placesFault?_eq_none_iff_quantized (of_decide_eq_true finite)
    writes.leading count
  rw [roundDouble, if_pos finite, integer, Checked.ok_bind]
  cases fault : Decimal.placesFault? (index x) count with
  | some fault =>
      constructor
      · intro success
        cases success
      · rintro ⟨enough, quantized, found, -⟩
        rw [Decimal.eq_of_quantized? found] at found
        cases fault.symm.trans (allowed.mpr ⟨enough, found⟩)
  | none =>
      obtain ⟨enough, found⟩ := allowed.mp fault
      have nearest := Decimal.nearestIndex_halfUpMultiple writes.value count
      simp only [found, Option.some.injEq, exists_eq_left', nearest, writes.sign]
      exact ⟨fun success => ⟨enough, (Except.ok.inj success).symm⟩,
        fun both => congrArg _ both.2.symm⟩

/-- Exact rounding half up, for every finite double and up to a million places. -/
theorem Value.roundDouble_isHalfUp {places : Value} {count : ℕ} (finite : isFinite x = true)
    (integer : places.toInteger = .ok count) (bounded : count ≤ 1000000) :
    ∃ written rounded, SignedDecimal.ofText? (doubleText x).toList = some written ∧
      roundDouble x places = .ok rounded ∧ IsHalfUp x written count rounded := by
  obtain ⟨written, read, writes⟩ := ofText?_doubleText finite
  have success := roundDouble_of_finite finite integer (Int.natCast_nonneg count) (by omega)
  refine ⟨written, Decimal.roundFinite x count, read, success, {
    digits := ?_
    quantized := quantized?_written writes finite
    nearest := isNearest_halfUp writes finite
    unsigned := roundFinite_eq_zero writes finite
    kept := fun ⟨_, exact⟩ => equals_roundFinite writes finite exact }⟩
  rw [halfUpSteps_eq]
  exact Decimal.digitCount_halfUpMultiple_le_keptDigits _ _

theorem Value.roundDouble_usual (finite : isFinite x = true)
    (rounded : Decimal.roundFinite x 3 = y) : roundDouble x usualPlaces = .ok y := by
  rw [roundDouble_of_finite finite rfl (by decide) (by decide), rounded]

/-- A carry takes a digit more: `9.9995` is rounded to `10`. -/
theorem Value.roundDouble_isHalfUp_carry : isFinite 9.9995 = true ∧
    usualPlaces.toInteger = .ok (3 : ℕ) ∧
    ∃ written, SignedDecimal.ofText? (doubleText 9.9995).toList = some written ∧
      roundDouble 9.9995 usualPlaces = .ok 10.0 ∧ IsHalfUp 9.9995 written 3 10.0 := by
  have finite : isFinite 9.9995 = true := by decide +kernel
  have ten : roundDouble 9.9995 usualPlaces = .ok 10.0 :=
    roundDouble_usual finite (eq_of_index_eq (by decide +kernel) (by decide +kernel))
  have integer : usualPlaces.toInteger = .ok (3 : ℕ) := rfl
  obtain ⟨written, rounded, read, success, halfUp⟩ :=
    roundDouble_isHalfUp finite integer (by decide)
  obtain rfl : rounded = 10.0 := Except.ok.inj (success.symm.trans ten)
  exact ⟨finite, integer, written, read, success, halfUp⟩

/-! ## Rounding again -/

theorem roundFinite_roundFinite {places finer : Int} (nonnegative : 0 ≤ places)
    (ordered : places ≤ finer) (finite : isFinite x = true) :
    Decimal.roundFinite (Decimal.roundFinite x places) finer = Decimal.roundFinite x places := by
  have again := Decimal.roundIndex_roundIndex nonnegative ordered (of_decide_eq_true finite)
  apply eq_of_index_eq
  · rw [Decimal.isNegative_roundFinite, Decimal.isNegative_roundFinite, Decimal.index_roundFinite,
      again, Bool.and_assoc, Bool.and_self]
  · rw [Decimal.index_roundFinite, Decimal.index_roundFinite, again]

/-- What was rounded to places is not changed by rounding to as many places or more. -/
theorem Value.IsRounded.settled {places finer : Value} {count finerCount : Int}
    (integer : places.toInteger = .ok count) (finerInteger : finer.toInteger = .ok finerCount)
    (nonnegative : 0 ≤ count) (ordered : count ≤ finerCount) (bounded : finerCount ≤ 1000000)
    (rounded : places.IsRounded x) : roundDouble x finer = .ok x := by
  obtain ⟨number, success⟩ := rounded
  by_cases finite : isFinite number = true
  · rw [roundDouble_of_finite finite integer nonnegative (by omega)] at success
    obtain rfl := Except.ok.inj success
    rw [roundDouble_of_finite (isFinite_roundFinite nonnegative finite) finerInteger (by omega)
      bounded, roundFinite_roundFinite nonnegative ordered finite]
  · rw [roundDouble, if_neg finite] at success
    obtain rfl := Except.ok.inj success
    rw [roundDouble, if_neg finite]

/-! ## Order and sign -/

theorem signedIndex_roundFinite (x : Float) (places : Int) :
    signedIndex (Decimal.roundFinite x places) =
      signed (isNegative x) (Decimal.roundIndex (index x) places) := by
  rw [signedIndex, Decimal.index_roundFinite, Decimal.isNegative_roundFinite]
  by_cases zero : Decimal.roundIndex (index x) places = 0
  · rw [zero, signed_zero, signed_zero]
  · rw [bne_iff_ne.mpr zero, Bool.and_true]

theorem signed_mono {map : Nat → Nat} (monotone : Monotone map) (zero : map 0 = 0)
    {negative otherNegative : Bool} {index other : Nat}
    (ordered : signed negative index ≤ signed otherNegative other) :
    signed negative (map index) ≤ signed otherNegative (map other) := by
  cases negative with
  | true =>
      cases otherNegative with
      | true =>
          simp only [signed, neg_le_neg_iff, Int.ofNat_le] at *
          exact monotone ordered
      | false =>
          simp only [signed] at *
          omega
  | false =>
      cases otherNegative with
      | true =>
          -- both are zero
          simp only [signed] at *
          obtain ⟨rfl, rfl⟩ : index = 0 ∧ other = 0 := by omega
          rw [zero]
          omega
      | false =>
          simp only [signed, Int.ofNat_le] at *
          exact monotone ordered

theorem Decimal.roundIndex_zero {places : Int} (nonnegative : 0 ≤ places) :
    roundIndex 0 places = 0 := by
  refine roundIndex_of_isWhole nonnegative (by decide) ?_
  rw [isWhole, units_zero, Nat.zero_mod]
  rfl

theorem roundFinite_mono {places : Int} (nonnegative : 0 ≤ places) (finite : isFinite x = true)
    (otherFinite : isFinite y = true) (ordered : x ≤ y) :
    Decimal.roundFinite x places ≤ Decimal.roundFinite y places := by
  rw [le_iff_signedIndex finite otherFinite] at ordered
  rw [le_iff_signedIndex (isFinite_roundFinite nonnegative finite)
    (isFinite_roundFinite nonnegative otherFinite), signedIndex_roundFinite,
    signedIndex_roundFinite]
  exact signed_mono (fun _ _ lower => Decimal.roundIndex_mono lower places)
    (Decimal.roundIndex_zero nonnegative) ordered

theorem isFinite_neg (finite : isFinite x = true) : isFinite (-x) = true := by
  rw [isFinite, index_neg finite]
  exact finite

theorem equals_roundFinite_neg {places : Int} (nonnegative : 0 ≤ places)
    (finite : isFinite x = true) :
    equals (Decimal.roundFinite (-x) places) (-Decimal.roundFinite x places) = true := by
  have rounded := isFinite_roundFinite nonnegative finite
  refine equals_of_index (isFinite_roundFinite nonnegative (isFinite_neg finite)) ?_ ?_
  · rw [index_neg rounded, Decimal.index_roundFinite, Decimal.index_roundFinite, index_neg finite]
  · intro nonzero
    rw [Decimal.index_roundFinite, index_neg finite] at nonzero
    rw [isNegative_neg rounded, Decimal.isNegative_roundFinite, Decimal.isNegative_roundFinite,
      isNegative_neg finite, index_neg finite, bne_iff_ne.mpr nonzero, Bool.and_true, Bool.and_true]

/-- Rounding keeps the order, the opposite of a double is rounded to the opposite, and a half
goes away from zero on both sides. -/
theorem Value.roundDouble_monotone_odd {places : Value} (usual : places.ArePlaces)
    (finite : isFinite x = true) (otherFinite : isFinite y = true) (ordered : x ≤ y) :
    ∃ first second opposite, roundDouble x places = .ok first ∧
      roundDouble y places = .ok second ∧ roundDouble (-x) places = .ok opposite ∧
      first ≤ second ∧ equals opposite (-first) = true ∧
      ∃ count : ℕ, places.toInteger = .ok count ∧ HalfGoesAway x count first ∧
        HalfGoesAway (-x) count opposite := by
  obtain ⟨count, integer, nonnegative, bounded⟩ := usual
  obtain ⟨count, rfl⟩ := Int.eq_ofNat_of_zero_le nonnegative
  have oppositeFinite := isFinite_neg finite
  exact ⟨_, _, _, roundDouble_of_finite finite integer nonnegative bounded,
    roundDouble_of_finite otherFinite integer nonnegative bounded,
    roundDouble_of_finite oppositeFinite integer nonnegative bounded,
    roundFinite_mono nonnegative finite otherFinite ordered,
    equals_roundFinite_neg nonnegative finite,
    count, integer, halfGoesAway_roundFinite finite, halfGoesAway_roundFinite oppositeFinite⟩

/-- The halves `-2.0005` and `2.0005` are rounded to `-2.001` and `2.001`. -/
theorem Value.roundDouble_monotone_odd_halves : usualPlaces.ArePlaces ∧
    isFinite (-2.0005) = true ∧ isFinite 2.0005 = true ∧ (-2.0005 : Float) ≤ 2.0005 ∧
    roundDouble (-2.0005) usualPlaces = .ok (-2.001) ∧
    roundDouble 2.0005 usualPlaces = .ok 2.001 ∧
    roundDouble (-(-2.0005)) usualPlaces = .ok 2.001 ∧
    (-2.001 : Float) ≤ 2.001 ∧ equals 2.001 (-(-2.001)) = true ∧
    IsNearest (-2001 / 1000) (-2.001) ∧ IsNearest (2001 / 1000) 2.001 := by
  have finite : isFinite (-2.0005) = true := by decide +kernel
  have otherFinite : isFinite 2.0005 = true := by decide +kernel
  have ordered : (-2.0005 : Float) ≤ 2.0005 := by decide +kernel
  have opposed : -(-2.0005) = (2.0005 : Float) :=
    eq_of_index_eq (by decide +kernel) (by decide +kernel)
  have below : roundDouble (-2.0005) usualPlaces = .ok (-2.001) :=
    roundDouble_usual finite (eq_of_index_eq (by decide +kernel) (by decide +kernel))
  have above : roundDouble 2.0005 usualPlaces = .ok 2.001 :=
    roundDouble_usual otherFinite (eq_of_index_eq (by decide +kernel) (by decide +kernel))
  obtain ⟨first, second, opposite, isFirst, isSecond, isOpposite, least, odd, count, isCount,
    away, oppositeAway⟩ := roundDouble_monotone_odd arePlaces_usual finite otherFinite ordered
  rw [opposed] at isOpposite oppositeAway ⊢
  obtain rfl : first = -2.001 := Except.ok.inj (isFirst.symm.trans below)
  obtain rfl : second = 2.001 := Except.ok.inj (isSecond.symm.trans above)
  obtain rfl : opposite = 2.001 := Except.ok.inj (isOpposite.symm.trans above)
  obtain rfl : count = 3 := (Int.ofNat_inj.mp (Except.ok.inj isCount)).symm
  have written : SignedDecimal.ofText? (doubleText (-2.0005)).toList =
    some ⟨true, ⟨20005, -4⟩⟩ := by decide +kernel
  have otherWritten : SignedDecimal.ofText? (doubleText 2.0005).toList =
    some ⟨false, ⟨20005, -4⟩⟩ := by decide +kernel
  have negative : SignedDecimal.value ⟨true, ⟨20005, -4⟩⟩ = -(4001 / 2000) := by
    norm_num [SignedDecimal.value, Decimal.value]
  have positive : SignedDecimal.value ⟨false, ⟨20005, -4⟩⟩ = 4001 / 2000 := by
    norm_num [SignedDecimal.value, Decimal.value]
  have nearest := away.isNearest 2000 written (by rw [negative]; norm_num)
  have otherNearest := oppositeAway.isNearest 2000 otherWritten (by rw [positive]; norm_num)
  rw [negative, sign_neg (by norm_num)] at nearest
  rw [positive, sign_pos (by norm_num)] at otherNearest
  refine ⟨arePlaces_usual, finite, otherFinite, ordered, isFirst, isSecond, isOpposite, least, odd,
    ?_, ?_⟩
  · convert nearest using 1
    norm_num
  · convert otherNearest using 1
    norm_num

end SceneComponent
