import Mathlib
import SceneComponent.Color
import SceneComponent.Proofs.Binary64.Arithmetic
import SceneComponent.Proofs.Decimal.Hexadecimal
import SceneComponent.Proofs.Value.Rounding

/-!
# Bytes of channels

A channel of any size that is limited to the unit interval and scaled stays below the next
byte, and so its byte is its whole part and fits two digits.

The channels that a packed colour is read as are scaled to the bytes it was packed from:
quotient, product and sum are each rounded to a near double, and together they move a byte by
less than a quarter (`wholePart_scaled`).
-/

set_option autoImplicit false

namespace SceneComponent.Color

open Binary64 Checked Text

/-! ## Scaled channels -/

/-- A channel limited to the unit interval and scaled, with the half that rounds it up. -/
def scaled (channel : Float) : Float := limitedToUnit channel * 255.0 + 0.5

/-- The byte of a channel. -/
def byteOf (channel : Float) : Nat := wholePart (index (scaled channel))

theorem value_one : value (index 1.0) = 1 := by
  rw [value_of_place 1 52 0 (by decide) (by decide) (by decide), pow_zero, Nat.cast_one, div_one]

theorem value_half : value (index 0.5) = 1 / 2 := by
  rw [value_of_place 1 52 1 (by decide) (by decide) (by decide), pow_one, Nat.cast_one]

theorem value_lastByte : value (index 255.0) = 255 := by
  rw [value_of_place 255 45 0 (by decide) (by decide) (by decide), pow_zero, Nat.cast_ofNat, div_one]

theorem isNegative_lastByte : isNegative 255.0 = false := by decide

theorem value_aboveLastByte : value (index 255.5) = 255 + 1 / 2 := by
  rw [value_of_place 511 44 1 (by decide) (by decide) (by decide)]
  norm_num

theorem finite_aboveLastByte : index 255.5 < infiniteIndex := by decide

theorem finite_lastByte : index 255.0 < infiniteIndex := by
  refine (value_strictMono.le_iff_le.mp ?_).trans_lt finite_aboveLastByte
  rw [value_lastByte, value_aboveLastByte]
  norm_num

theorem finite_one : index 1.0 < infiniteIndex := by
  refine (value_strictMono.le_iff_le.mp ?_).trans_lt finite_lastByte
  rw [value_one, value_lastByte]
  norm_num

theorem limitedToUnit_spec (channel : Float) :
    isNegative (limitedToUnit channel) = false ∧ index (limitedToUnit channel) ≤ index 1.0 := by
  unfold limitedToUnit
  split
  · decide
  · next unsigned =>
    split
    · decide
    · next inside => exact ⟨Bool.not_eq_true _ ▸ unsigned, Nat.le_of_not_lt inside⟩

/-- Scaling rounds twice, once for the product and once for the sum, and neither result is above
the last byte and a half. -/
theorem exists_scaled (channel : Float) : ∃ product sum,
    RoundsTo (value (index (limitedToUnit channel)) * 255) product ∧
      RoundsTo (value product + 1 / 2) sum ∧ sum ≤ index 255.5 ∧
        scaled channel = ofIndex false sum := by
  obtain ⟨unsigned, limited⟩ := limitedToUnit_spec channel
  have finite : isFinite (limitedToUnit channel) = true :=
    decide_eq_true (limited.trans_lt finite_one)
  have unit : value (index (limitedToUnit channel)) ≤ 1 :=
    (value_strictMono.monotone limited).trans_eq value_one
  obtain ⟨product, productRounds, isProduct⟩ := exists_mul finite (decide_eq_true finite_lastByte)
  rw [value_lastByte] at productRounds
  have productBounded : product ≤ index 255.0 := by
    refine productRounds.mono ?_ (.self _)
    rw [value_lastByte]
    linarith
  have productFinite := productBounded.trans_lt finite_lastByte
  have product_eq := isProduct productFinite
  rw [unsigned, isNegative_lastByte] at product_eq
  have productIndex := index_ofIndex false productFinite.le
  obtain ⟨sum, sumRounds, isSum⟩ := exists_add (isFinite_ofIndex false productFinite)
    (y := 0.5) (by decide) (isNegative_ofIndex false productFinite.le) (by decide)
  rw [value_half, productIndex] at sumRounds
  have sumBounded : sum ≤ index 255.5 := by
    refine sumRounds.mono ?_ (.self _)
    rw [value_aboveLastByte]
    linarith [(value_strictMono.monotone productBounded).trans_eq value_lastByte]
  refine ⟨product, sum, productRounds, sumRounds, sumBounded, ?_⟩
  rw [scaled, product_eq]
  exact isSum (sumBounded.trans_lt finite_aboveLastByte)

/-- A scaled channel is a double without a sign that is not above the last byte and a half. -/
theorem scaled_spec (channel : Float) : isFinite (scaled channel) = true ∧
    isNegative (scaled channel) = false ∧ index (scaled channel) ≤ index 255.5 := by
  obtain ⟨_, sum, _, _, bounded, isSum⟩ := exists_scaled channel
  have finite := bounded.trans_lt finite_aboveLastByte
  rw [isSum, isFinite, index_ofIndex false finite.le]
  exact ⟨decide_eq_true finite, isNegative_ofIndex false finite.le, bounded⟩

theorem byteOf_lt (channel : Float) : byteOf channel < 256 := by
  have bounded := units_strictMono.monotone (scaled_spec channel).2.2
  have last : wholePart (index 255.5) = 255 :=
    wholePart_eq (by rw [value_aboveLastByte]; norm_num) (by rw [value_aboveLastByte]; norm_num)
  exact Nat.lt_succ_of_le ((Nat.div_le_div_right bounded).trans_eq last)

theorem channelByte_eq {channel : Float} (isDefined : isNaN channel = false) :
    channelByte channel = .ok (byteOf channel) := by
  obtain ⟨finite, unsigned, _⟩ := scaled_spec channel
  rw [channelByte, isDefined, if_neg Bool.false_ne_true, ← scaled,
    toNat_toUInt8 finite unsigned (byteOf_lt channel), byteOf]

/-! ## Bytes of packed colours -/

/-- The doubles of bytes are channels of the unit interval, close to the exact ratios. -/
theorem exists_ratio {byte : Nat} (small : byte < 256) : ∃ ratio, ratio ≤ index 1.0 ∧
    RoundsTo (byte / 255) ratio ∧ Nat.toFloat byte / 255.0 = ofIndex false ratio := by
  obtain ⟨whole, wholeFinite, same, isWhole⟩ :=
    exists_toFloat (small.trans (by decide : 256 < 2 * rowLength))
  have wholeIndex := index_ofIndex false wholeFinite.le
  have nonzero : 0 < index 255.0 := by
    rw [← value_pos_iff, value_lastByte]
    norm_num
  obtain ⟨ratio, rounds, isRatio⟩ := exists_div (isFinite_ofIndex false wholeFinite)
    (decide_eq_true finite_lastByte) nonzero
  rw [wholeIndex, same, value_lastByte] at rounds
  have limited : ratio ≤ index 1.0 := by
    refine rounds.mono ?_ (.self _)
    have bounded : (byte : ℚ) ≤ 255 := by exact_mod_cast Nat.le_of_lt_succ small
    rw [value_one]
    linarith
  have ratio_eq := isRatio (limited.trans_lt finite_one)
  rw [isNegative_ofIndex false wholeFinite.le, isNegative_lastByte] at ratio_eq
  exact ⟨ratio, limited, rounds, isWhole ▸ ratio_eq⟩

/-- The three roundings together stay within a quarter, so that the half that is added leads
back to the byte. -/
theorem wholePart_scaled {byte ratio product sum : Nat} (small : byte < 256)
    (ratioRounds : RoundsTo (byte / 255) ratio)
    (productRounds : RoundsTo (value ratio * 255) product)
    (sumRounds : RoundsTo (value product + 1 / 2) sum) : wholePart sum = byte := by
  have few : 4 * byte + 3 < 2 * rowLength := by
    rw [rowLength_eq]
    omega
  have bounded : (byte : ℚ) ≤ 255 := by exact_mod_cast Nat.le_of_lt_succ small
  have nonnegative : (0 : ℚ) ≤ byte / 255 := by positivity
  obtain ⟨ratioLow, ratioHigh⟩ := ratioRounds.close nonnegative (by linarith)
  have productHigh : value product ≤ byte + 1 / 4 := by
    have bound := productRounds.value_le (n := 4 * byte + 1) (by omega) (by decide : 2 ≤ 1022)
      (by push_cast; linarith)
    push_cast at bound
    linarith
  have productLow : byte - 1 / 2 ≤ value product := by
    cases byte with
    | zero =>
        have unsigned := value_nonneg product
        rw [Nat.cast_zero]
        linarith
    | succ before =>
        have bound := productRounds.le_value (n := 2 * before + 1) (by omega)
          (by decide : 1 ≤ 1022) (by push_cast at ratioLow ratioHigh ⊢; linarith)
        push_cast at bound ⊢
        linarith
  have sumHigh := sumRounds.value_le few (by decide : 2 ≤ 1022) (by push_cast; linarith)
  have sumLow := sumRounds.le_value (n := byte) (by omega) (Nat.zero_le 1022)
    (by rw [pow_zero]; linarith)
  rw [pow_zero, div_one] at sumLow
  push_cast at sumHigh
  exact wholePart_eq sumLow (by linarith)

/-- Every byte is a number as a channel, and scaled to itself again. -/
theorem byteOf_ratio {byte : Nat} (small : byte < 256) :
    isNaN (Nat.toFloat byte / 255.0) = false ∧ byteOf (Nat.toFloat byte / 255.0) = byte := by
  obtain ⟨ratio, limited, rounds, isRatio⟩ := exists_ratio small
  have finite := limited.trans_lt finite_one
  have ratioIndex := index_ofIndex false finite.le
  have kept : limitedToUnit (ofIndex false ratio) = ofIndex false ratio := by
    rw [limitedToUnit, isNegative_ofIndex false finite.le, if_neg Bool.false_ne_true, ratioIndex,
      if_neg (Nat.not_lt.mpr limited)]
  rw [isRatio]
  refine ⟨?_, ?_⟩
  · rw [isNaN, ratioIndex]
    exact decide_eq_false (Nat.not_lt.mpr finite.le)
  · obtain ⟨product, sum, productRounds, sumRounds, bounded, isSum⟩ :=
      exists_scaled (ofIndex false ratio)
    rw [kept, ratioIndex] at productRounds
    rw [byteOf, isSum, index_ofIndex false (bounded.trans finite_aboveLastByte.le)]
    exact wholePart_scaled small rounds productRounds sumRounds

theorem isNaN_channelAt (packed : Int) (bit : Nat) : isNaN (channelAt packed bit) = false :=
  (byteOf_ratio (by omega)).1

theorem byteOf_channelAt (packed : Int) (bit : Nat) :
    byteOf (channelAt packed bit) = ((packed >>> bit) % 256).toNat :=
  (byteOf_ratio (by omega)).2

/-! ## Digits of colours -/

/-- Three bytes are written one by one, each with two digits. -/
theorem fixedHex_bytes {red green blue : Nat} (greenSmall : green < 256) (blueSmall : blue < 256) :
    fixedHex 6 (65536 * red + 256 * green + blue) =
      fixedHex 2 red ++ (fixedHex 2 green ++ fixedHex 2 blue) := by
  have high : (65536 * red + 256 * green + blue) / 16 ^ 4 = red := by omega
  have middle : (65536 * red + 256 * green + blue) / 16 ^ 2 % 16 ^ 2 = green := by omega
  have low : (65536 * red + 256 * green + blue) % 16 ^ 2 = blue := by omega
  rw [Decimal.fixedHex_add 2 4, Decimal.fixedHex_add 2 2, high, ← Decimal.fixedHex_mod 2 (_ / _),
    middle, ← Decimal.fixedHex_mod 2 (_ + _), low]

theorem channelDigits_cons {channel : Float} (isDefined : isNaN channel = false)
    {rest : List Float} {others : List Char} (behind : channelDigits rest = .ok others) :
    channelDigits (channel :: rest) = .ok (fixedHex 2 (byteOf channel) ++ others) := by
  rw [channelDigits, channelByte_eq isDefined, ok_bind, behind, ok_bind]
  rfl

theorem toHex_triple {x y z : Float} (first : isNaN x = false) (second : isNaN y = false)
    (third : isNaN z = false) : toHex (.triple x y z) =
      .ok (String.ofList (fixedHex 6 (65536 * byteOf x + 256 * byteOf y + byteOf z))) := by
  have nothing : channelDigits [] = .ok [] := rfl
  have digits :=
    channelDigits_cons first (channelDigits_cons second (channelDigits_cons third nothing))
  rw [List.append_nil, ← fixedHex_bytes (byteOf_lt y) (byteOf_lt z)] at digits
  rw [toHex, Value.ofValue_triple, ok_bind]
  change channelDigits [x, y, z] >>= _ = _
  rw [digits, ok_bind]
  rfl

theorem toHex_ofPacked (packed : Int) : toHex (ofPacked packed) =
    .ok (String.ofList (fixedHex 6 (packed % 2 ^ 24).toNat)) := by
  have together : 65536 * ((packed >>> (16 : Nat)) % 256).toNat +
      256 * ((packed >>> (8 : Nat)) % 256).toNat + ((packed >>> (0 : Nat)) % 256).toNat =
        (packed % 2 ^ 24).toNat := by
    simp only [Int.shiftRight_eq_div_pow]
    omega
  rw [ofPacked, toHex_triple (isNaN_channelAt packed 16) (isNaN_channelAt packed 8)
    (isNaN_channelAt packed 0), byteOf_channelAt, byteOf_channelAt, byteOf_channelAt, together]

end SceneComponent.Color
