import Mathlib
import SceneComponent.Color
import SceneComponent.Proofs.Decimal.Hexadecimal

/-!
# Texts of colours

A text is accepted as a colour exactly when hash signs and one base mark stand between the
blanks at its ends and the text of a hexadecimal integer, whatever count of digits that has
and whatever else such a text admits.  Six digits behind at most one mark are always
accepted.  Every other text is refused as a malformed scene.
-/

set_option autoImplicit false

namespace SceneComponent

open Text Decimal

namespace Color

/-- A text of a colour without blanks and hash signs, with the integer that packs the colour.
The base mark is taken off first, so that an underscore behind it is left without a digit
before it. -/
inductive PackedText : List Char → (packed : Int) → Prop
  | marked {letter : Char} {word : List Char} {packed : Int}
      (isLetter : letter = 'x' ∨ letter = 'X') (isNumber : HexText word packed) :
      PackedText ('0' :: letter :: word) packed
  | plain {word : List Char} {packed : Int}
      (unmarked : ∀ letter rest, word = '0' :: letter :: rest → letter ≠ 'x' ∧ letter ≠ 'X')
      (isNumber : HexText word packed) : PackedText word packed

/-- A text that is accepted as a colour, with the integer that packs the colour. -/
def ReadsAs (content : String) (packed : Int) : Prop :=
  ∃ hashes body, trim isBlank content.toList = hashes ++ body ∧ (∀ c ∈ hashes, c = '#') ∧
    PackedText body packed

/-- Six hexadecimal digits behind at most one mark, between blanks. -/
def IsSixDigits (content : String) (digits : List Char) : Prop :=
  (∃ mark ∈ ["", "#", "0x", "0X"], trim isBlank content.toList = mark.toList ++ digits) ∧
    digits.length = 6 ∧ ∀ c ∈ digits, c ∈ hexDigits

theorem PackedText.head {body : List Char} {packed : Int} (isText : PackedText body packed) :
    ∀ c, body.head? = some c → (c == '#') = false := by
  intro c head
  cases isText with
  | marked isLetter isNumber =>
      cases head
      rfl
  | plain unmarked isNumber =>
      obtain ⟨first, rest, rfl, noHash⟩ := isNumber.head
      cases head
      exact beq_eq_false_iff_ne.mpr noHash

theorem readHexadecimal?_digitsText {content : String} {packed : Int} :
    readHexadecimal? (digitsText content) = some packed ↔ ReadsAs content packed := by
  constructor
  · intro read
    refine ⟨(trim isBlank content.toList).takeWhile (· == '#'), _,
      List.takeWhile_append_dropWhile.symm, fun c member => ?_, ?_⟩
    · exact eq_of_beq (List.mem_takeWhile_imp (p := (· == '#')) member)
    unfold digitsText at read
    split at read
    · next letter rest body =>
      rw [readHexadecimal?_eq_some_iff, String.toList_ofList] at read
      rw [body]
      split at read
      · next isLetter => exact .marked (by simpa using isLetter) read
      · next noLetter =>
        refine .plain (fun _ _ same => ?_) read
        cases same
        simpa using noLetter
    · next unmarked =>
      rw [readHexadecimal?_eq_some_iff, String.toList_ofList] at read
      exact .plain (fun letter rest same => absurd same (unmarked letter rest)) read
  · rintro ⟨hashes, body, whole, areHashes, isText⟩
    have body : (trim isBlank content.toList).dropWhile (· == '#') = body := by
      rw [whole]
      exact dropWhile_cut (fun c member => beq_iff_eq.mpr (areHashes c member)) isText.head
    unfold digitsText
    rw [body, readHexadecimal?_eq_some_iff]
    cases isText with
    | marked isLetter isNumber =>
        split
        · next same =>
          cases same
          rw [if_pos (by simpa using isLetter), String.toList_ofList]
          exact isNumber
        · next unmarked => exact absurd rfl (unmarked _ _)
    | plain unmarked isNumber =>
        split
        · next letter rest =>
          rw [if_neg (by simpa using unmarked letter rest rfl), String.toList_ofList]
          exact isNumber
        · rw [String.toList_ofList]
          exact isNumber

theorem ofValue_of_readsAs {content : String} {packed : Int} (reads : ReadsAs content packed)
    (standard : Value) : ofValue (.text content) standard = .ok (ofPacked packed) := by
  rw [ofValue, readHexadecimal?_digitsText.mpr reads]

theorem ofValue_of_not_readsAs {content : String} (refused : ∀ packed, ¬ ReadsAs content packed)
    (standard : Value) : ofValue (.text content) standard =
      .error (.malformedScene (.invalidColor (.text content))) := by
  rw [ofValue]
  cases read : readHexadecimal? (digitsText content) with
  | none => rfl
  | some packed => exact absurd (readHexadecimal?_digitsText.mp read) (refused packed)

theorem packedText_of_digits {digits : List Char} (areDigits : ∀ c ∈ digits, c ∈ hexDigits)
    (nonempty : digits ≠ []) : PackedText digits (hexMagnitude digits) := by
  refine .plain (fun letter rest same => ?_) (hexText_of_digits areDigits nonempty)
  exact (plain_of_mem_hexDigits (areDigits letter (by simp [same]))).2.2.2.2

theorem IsSixDigits.readsAs {content : String} {digits : List Char}
    (six : IsSixDigits content digits) : ReadsAs content (hexMagnitude digits) := by
  obtain ⟨⟨mark, isMark, whole⟩, length, areDigits⟩ := six
  have nonempty : digits ≠ [] := List.ne_nil_of_length_pos (by omega)
  have plain := packedText_of_digits areDigits nonempty
  have isNumber := hexText_of_digits areDigits nonempty
  simp only [List.mem_cons, List.not_mem_nil, or_false] at isMark
  rcases isMark with rfl | rfl | rfl | rfl
  · exact ⟨[], digits, whole, List.forall_mem_nil _, plain⟩
  · exact ⟨['#'], digits, whole, by simp, plain⟩
  · exact ⟨[], _, whole, List.forall_mem_nil _, .marked (.inl rfl) isNumber⟩
  · exact ⟨[], _, whole, List.forall_mem_nil _, .marked (.inr rfl) isNumber⟩

/-- The texts that are accepted, with the colours they are read as, and what refusing the others
says.  Six digits are among the accepted ones. -/
theorem texts_accepted_iff (content : String) (standard : Value) :
    (∀ color, ofValue (.text content) standard = .ok color ↔
      ∃ packed, ReadsAs content packed ∧ color = ofPacked packed) ∧
    (∀ failure, ofValue (.text content) standard = .error failure ↔
      (∀ packed, ¬ ReadsAs content packed) ∧
        failure = .malformedScene (.invalidColor (.text content))) ∧
    ∀ digits, IsSixDigits content digits → ReadsAs content (hexMagnitude digits) := by
  refine ⟨fun color => ⟨fun accepted => ?_, ?_⟩, fun failure => ⟨fun refused => ?_, ?_⟩,
    fun digits six => six.readsAs⟩
  · by_cases reads : ∃ packed, ReadsAs content packed
    · obtain ⟨packed, reads⟩ := reads
      rw [ofValue_of_readsAs reads] at accepted
      exact ⟨packed, reads, (Except.ok.inj accepted).symm⟩
    · rw [ofValue_of_not_readsAs (not_exists.mp reads)] at accepted
      cases accepted
  · rintro ⟨packed, reads, rfl⟩
    exact ofValue_of_readsAs reads standard
  · by_cases reads : ∃ packed, ReadsAs content packed
    · obtain ⟨packed, reads⟩ := reads
      rw [ofValue_of_readsAs reads] at refused
      cases refused
    · rw [ofValue_of_not_readsAs (not_exists.mp reads)] at refused
      exact ⟨not_exists.mp reads, (Except.error.inj refused).symm⟩
  · rintro ⟨unread, rfl⟩
    exact ofValue_of_not_readsAs unread standard

/-- Orange as six digits is accepted, and a letter that is no digit is refused. -/
theorem orange_accepted :
    ofValue (.text " #Ff8000\n") = .ok (ofPacked 0xff8000) ∧
      ofValue (.text "#gg8000") =
        .error (.malformedScene (.invalidColor (.text "#gg8000"))) := by
  have areDigits : "Ff8000".toList.all (· ∈ hexDigits) = true := by decide
  have digits : IsSixDigits " #Ff8000\n" "Ff8000".toList :=
    ⟨⟨"#", by decide, by decide⟩, rfl, by simpa using areDigits⟩
  have magnitude : ((hexMagnitude "Ff8000".toList : Nat) : Int) = 0xff8000 := by decide
  constructor
  · have reads := (texts_accepted_iff " #Ff8000\n" white).2.2 _ digits
    rw [magnitude] at reads
    exact ((texts_accepted_iff _ _).1 _).mpr ⟨_, reads, rfl⟩
  · refine ((texts_accepted_iff _ _).2.1 _).mpr ⟨fun packed reads => ?_, rfl⟩
    have unread : readHexadecimal? (digitsText "#gg8000") = none := by decide
    rw [readHexadecimal?_digitsText.mpr reads] at unread
    cases unread

/-- Three digits are accepted, as the colour that six digits with zeros in front would be. -/
theorem threeDigits_accepted :
    ofValue (.text "#fff") = .ok (ofPacked 0x000fff) ∧ ∀ digits, ¬ IsSixDigits "#fff" digits := by
  have reads : ReadsAs "#fff" 0xfff := readHexadecimal?_digitsText.mp (by decide)
  refine ⟨ofValue_of_readsAs reads white, ?_⟩
  rintro digits ⟨⟨mark, _, whole⟩, length, _⟩
  have trimmed : (trim isBlank "#fff".toList).length = 4 := by decide
  rw [whole, List.length_append] at trimmed
  omega

end Color

end SceneComponent
