import Mathlib
import SceneComponent.Proofs.Color.Bytes
import SceneComponent.Proofs.Color.Texts

/-!
# Colours read and written again

A packed integer of any size and sign is written with the six digits of its last three bytes.
Six digits behind a mark come back in lower case.  A colour of three channels of any size,
none of which is undefined, is written with six digits that hold the bytes of its channels,
and these digits come back as they are.
-/

set_option autoImplicit false

namespace SceneComponent.Color

open Binary64 Checked Decimal Text

/-- Six lower-case hexadecimal digits and the number that they write. -/
structure IsSixHex (text : String) (number : Nat) : Prop where
  six : text.toList.length = 6
  lower : ∀ c ∈ text.toList, c ∈ lowerHexDigits
  writes : hexMagnitude text.toList = number

/-- A value read as a colour and written again. -/
def rewritten (value standard : Value) : Except Failure String := do
  toHex (← ofValue value standard)

theorem isSixHex_fixedHex {number : Nat} (small : number < 16 ^ 6) :
    IsSixHex (String.ofList (fixedHex 6 number)) number where
  six := by rw [String.toList_ofList, fixedHex_length]
  lower := fun c member => mem_lowerHexDigits_of_mem_fixedHex (String.toList_ofList ▸ member)
  writes := by rw [String.toList_ofList, hexMagnitude_fixedHex, Nat.mod_eq_of_lt small]

theorem map_toLower_eq_self {digits : List Char}
    (lower : ∀ c ∈ digits, c ∈ lowerHexDigits) : digits.map Char.toLower = digits := by
  refine (List.map_congr_left fun c member => ?_).trans (List.map_id _)
  exact (lowered_of_mem_lowerHexDigits (lower c member)).2

/-- The number determines its digits. -/
theorem IsSixHex.eq_fixedHex {text : String} {number : Nat} (isHex : IsSixHex text number) :
    text = String.ofList (fixedHex 6 number) := by
  have digits := fixedHex_hexMagnitude fun c member =>
    (lowered_of_mem_lowerHexDigits (isHex.lower c member)).1
  rw [isHex.six, isHex.writes, map_toLower_eq_self isHex.lower] at digits
  rw [digits, String.ofList_toList]

theorem rewritten_int (packed : Int) (standard : Value) : rewritten (.int packed) standard =
    .ok (String.ofList (fixedHex 6 (packed % 2 ^ 24).toNat)) := by
  rw [rewritten, ofValue, ok_bind, toHex_ofPacked]

theorem rewritten_text {content : String} {digits : List Char} (six : IsSixDigits content digits)
    (standard : Value) : rewritten (.text content) standard =
      .ok (String.ofList (digits.map Char.toLower)) := by
  have last : ((hexMagnitude digits : Int) % 2 ^ 24).toNat = hexMagnitude digits % 16 ^ 6 := by
    omega
  have digits_eq := fixedHex_hexMagnitude six.2.2
  rw [six.2.1] at digits_eq
  rw [rewritten, ofValue_of_readsAs six.readsAs, ok_bind, toHex_ofPacked, last, fixedHex_mod,
    digits_eq]

/-- Six digits behind a mark, with no blanks around them. -/
theorem isSixDigits_marked {mark text : String} (isMark : mark ∈ ["#", "0x", "0X"])
    (six : text.toList.length = 6) (areDigits : ∀ c ∈ text.toList, c ∈ hexDigits) :
    IsSixDigits (mark ++ text) text.toList := by
  have admitted : mark ∈ ["", "#", "0x", "0X"] := List.mem_cons_of_mem _ isMark
  refine ⟨⟨mark, admitted, ?_⟩, six, areDigits⟩
  rw [String.toList_append, trim_eq_self]
  intro c member
  rcases List.mem_append.mp member with inMark | inText
  · have each : ["#", "0x", "0X"].all fun mark => mark.toList.all fun c => !isBlank c := by
      decide
    have notBlank := List.all_eq_true.mp (List.all_eq_true.mp each mark isMark) c inMark
    rwa [Bool.not_eq_true'] at notBlank
  · exact (plain_of_isNumeral (isNumeral_of_mem_hexDigits (areDigits c inText))).1

/-- Packed integers, texts of six digits and defined colours, read and written. -/
theorem colors_come_back (standard : Value) :
    (∀ packed : Int, ∃ text, rewritten (.int packed) standard = .ok text ∧
      IsSixHex text (packed % 2 ^ 24).toNat) ∧
    (∀ text : String, text.toList.length = 6 → (∀ c ∈ text.toList, c ∈ hexDigits) →
      ∀ mark ∈ ["#", "0x", "0X"], rewritten (.text (mark ++ text)) standard =
        .ok (String.ofList (text.toList.map Char.toLower))) ∧
    (∀ x y z : Float, isNaN x = false → isNaN y = false → isNaN z = false →
      ∃ text, toHex (.triple x y z) = .ok text ∧
        IsSixHex text (65536 * byteOf x + 256 * byteOf y + byteOf z) ∧
        rewritten (.text ("#" ++ text)) standard = .ok text) := by
  refine ⟨fun packed => ⟨_, rewritten_int packed standard, isSixHex_fixedHex (by omega)⟩, ?_, ?_⟩
  · intro text six areDigits mark isMark
    exact rewritten_text (isSixDigits_marked isMark six areDigits) standard
  · intro x y z first second third
    have small : 65536 * byteOf x + 256 * byteOf y + byteOf z < 16 ^ 6 := by
      have firstSmall := byteOf_lt x
      have secondSmall := byteOf_lt y
      have thirdSmall := byteOf_lt z
      omega
    have isHex := isSixHex_fixedHex small
    have isMark : "#" ∈ ["#", "0x", "0X"] := by decide
    refine ⟨_, toHex_triple first second third, isHex, ?_⟩
    have again := rewritten_text (isSixDigits_marked isMark isHex.six
      fun c member => (lowered_of_mem_lowerHexDigits (isHex.lower c member)).1) standard
    rw [map_toLower_eq_self isHex.lower, String.ofList_toList] at again
    exact again

/-- A negative integer, digits in mixed case and channels far outside the unit interval. -/
theorem outlying_colors_come_back :
    rewritten (.int (-1)) white = .ok "ffffff" ∧
      rewritten (.text ("0X" ++ "FfA00b")) white = .ok "ffa00b" ∧
      toHex (.triple (ofIndex false infiniteIndex) (-1.0) 0.5) = .ok "ff0080" ∧
      rewritten (.text ("#" ++ "ff0080")) white = .ok "ff0080" := by
  obtain ⟨integers, texts, triples⟩ := colors_come_back white
  obtain ⟨text, read, isHex⟩ := integers (-1)
  obtain ⟨digits, written, areHex, again⟩ := triples (ofIndex false infiniteIndex) (-1.0) 0.5
    (by decide) (by decide) (by decide)
  have white_eq : text = "ffffff" := isHex.eq_fixedHex.trans (by decide)
  have red_eq : digits = "ff0080" := areHex.eq_fixedHex.trans (by decide +kernel)
  have mixed : "FfA00b".toList.all (· ∈ hexDigits) = true := by decide
  have lowered : String.ofList ("FfA00b".toList.map Char.toLower) = "ffa00b" := by decide
  refine ⟨white_eq ▸ read, ?_, red_eq ▸ written, red_eq ▸ again⟩
  rw [texts "FfA00b" rfl (by simpa using mixed) "0X" (by decide), lowered]

end SceneComponent.Color
