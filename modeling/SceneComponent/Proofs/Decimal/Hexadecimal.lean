import Mathlib
import SceneComponent.Decimal.Reading
import SceneComponent.Proofs.Decimal.TextReading
import SceneComponent.Proofs.Text.Trimming

/-!
# Hexadecimal numbers and their texts

A number is written with as many hexadecimal digits as asked for, and these digits give back
what it leaves on division by that power of sixteen.

A text reads as an integer exactly when it stands between blanks and is a sign, a base mark
and digits.  Sign and mark may be absent, digits may be those of any script, and a single
underscore may stand between two digits and between the mark and the first one.
-/

set_option autoImplicit false

namespace SceneComponent

open Text

namespace Text

/-! ## Digits -/

def lowerHexDigits : List Char :=
  ['0', '1', '2', '3', '4', '5', '6', '7', '8', '9', 'a', 'b', 'c', 'd', 'e', 'f']

def hexDigits : List Char := lowerHexDigits ++ ['A', 'B', 'C', 'D', 'E', 'F']

theorem isNumeral_of_hexValue? {c : Char} {digit : Nat} (isDigit : hexValue? c = some digit) :
    isNumeral c = true := by
  simp only [isNumeral, isAsciiAlphanumeric, isAsciiLetter, isAsciiDigit, Bool.or_eq_true,
    Bool.and_eq_true, decide_eq_true_eq]
  simp only [hexValue?, Bool.and_eq_true, decide_eq_true_eq] at isDigit
  split at isDigit
  · next western => exact .inl (.inl (.inl (.inr western)))
  · split at isDigit
    · next lower => exact .inl (.inl (.inl (.inl (.inl ⟨lower.1, lower.2.trans (by decide)⟩))))
    · split at isDigit
      · next upper => exact .inl (.inl (.inl (.inl (.inr ⟨upper.1, upper.2.trans (by decide)⟩))))
      · cases isDigit

theorem mem_hexDigits_of_hexValue? {c : Char} {digit : Nat} (isDigit : hexValue? c = some digit) :
    c ∈ hexDigits := by
  have ascii : ∀ n : Fin 128, (hexValue? (Char.ofNat n)).isSome = true →
      Char.ofNat n ∈ hexDigits := by decide
  have same := ascii ⟨c.toNat, Decimal.toNat_lt_of_isNumeral (isNumeral_of_hexValue? isDigit)⟩
  rw [Char.ofNat_toNat, isDigit] at same
  exact same rfl

/-- Every digit has a value below sixteen, which is written as the digit in lower case. -/
theorem exists_hexValue? {c : Char} (isDigit : c ∈ hexDigits) :
    ∃ digit < 16, hexValue? c = some digit ∧ Nat.digitChar digit = c.toLower := by
  have each : hexDigits.all fun c => (hexValue? c).any fun digit =>
      digit < 16 ∧ Nat.digitChar digit = c.toLower := by
    decide
  obtain ⟨digit, read, facts⟩ := (Option.any_eq_true _ _).mp (List.all_eq_true.mp each c isDigit)
  exact ⟨digit, (of_decide_eq_true facts).1, read, (of_decide_eq_true facts).2⟩

/-- The digits in lower case are digits, and lowering their case leaves them. -/
theorem lowered_of_mem_lowerHexDigits {c : Char} (isDigit : c ∈ lowerHexDigits) :
    c ∈ hexDigits ∧ c.toLower = c := by
  have each : lowerHexDigits.all fun c => c ∈ hexDigits ∧ c.toLower = c := by decide
  exact of_decide_eq_true (List.all_eq_true.mp each c isDigit)

theorem hexValue?_digitChar {digit : Nat} (small : digit < 16) :
    hexValue? (Nat.digitChar digit) = some digit := by
  have each : ∀ digit : Fin 16, hexValue? (Nat.digitChar digit) = some digit.1 := by
    decide
  exact each ⟨digit, small⟩

theorem isNumeral_of_mem_hexDigits {c : Char} (isDigit : c ∈ hexDigits) : isNumeral c = true := by
  obtain ⟨digit, _, read, _⟩ := exists_hexValue? isDigit
  exact isNumeral_of_hexValue? read

/-- What no digit is: a sign, an underscore, a hash sign or the letter of the base mark. -/
theorem plain_of_mem_hexDigits {c : Char} (isDigit : c ∈ hexDigits) :
    c ≠ '-' ∧ c ≠ '+' ∧ c ≠ '_' ∧ c ≠ '#' ∧ c ≠ 'x' ∧ c ≠ 'X' := by
  have each : hexDigits.all fun c =>
      c ≠ '-' ∧ c ≠ '+' ∧ c ≠ '_' ∧ c ≠ '#' ∧ c ≠ 'x' ∧ c ≠ 'X' := by
    decide
  exact of_decide_eq_true (List.all_eq_true.mp each c isDigit)

theorem digitValue?_lt {c : Char} {digit : Nat} (isDigit : digitValue? c = some digit) :
    digit < 10 := by
  obtain ⟨first, found, rfl⟩ := Option.map_eq_some_iff.mp isDigit
  have within := List.find?_some found
  simp only [Bool.and_eq_true, decide_eq_true_eq] at within
  omega

/-- Only digits are replaced, and they by hexadecimal digits. -/
theorem westernDigit_eq_or_mem (c : Char) : westernDigit c = c ∨ westernDigit c ∈ hexDigits := by
  unfold westernDigit
  cases isDigit : digitValue? c with
  | none => exact .inl rfl
  | some digit =>
      have small := digitValue?_lt isDigit
      exact .inr (mem_hexDigits_of_hexValue? (hexValue?_digitChar (by omega)))

theorem eq_of_westernDigit {c other : Char} (same : westernDigit c = other)
    (noDigit : other ∉ hexDigits) : c = other := by
  rcases westernDigit_eq_or_mem c with kept | digit
  · exact kept.symm.trans same
  · exact absurd (same ▸ digit) noDigit

/-- No blank is a digit in any script. -/
theorem hexValue?_westernDigit_of_isBlank {c : Char} (blank : isBlank c = true) :
    hexValue? (westernDigit c) = none := by
  have codes : c.toNat ∈ [0x09, 0x0a, 0x0b, 0x0c, 0x0d, 0x1c, 0x1d, 0x1e, 0x1f, 0x20, 0x85, 0xa0,
      0x1680, 0x2000, 0x2001, 0x2002, 0x2003, 0x2004, 0x2005, 0x2006, 0x2007, 0x2008, 0x2009,
      0x200a, 0x2028, 0x2029, 0x202f, 0x205f, 0x3000] := by
    simp only [isBlank, isSeparatorControl, Bool.or_eq_true, Bool.and_eq_true,
      decide_eq_true_eq] at blank
    simp only [List.mem_cons, List.not_mem_nil, or_false]
    omega
  rw [← Char.ofNat_toNat c]
  generalize c.toNat = code at codes
  revert code
  decide

end Text

namespace Decimal

/-! ## Written with a fixed count of digits -/

theorem hexMagnitude_concat (digits : List Char) (c : Char) :
    hexMagnitude (digits ++ [c]) = 16 * hexMagnitude digits + (hexValue? c).getD 0 := by
  rw [hexMagnitude, List.foldl_append]
  rfl

theorem mem_lowerHexDigits_of_mem_fixedHex {width n : Nat} {c : Char} (member : c ∈ fixedHex width n) :
    c ∈ lowerHexDigits := by
  induction width generalizing n with
  | zero => cases member
  | succ width inductionHypothesis =>
      rw [fixedHex, List.mem_append, List.mem_singleton] at member
      rcases member with before | last
      · exact inductionHypothesis before
      · have each : ∀ digit : Fin 16, Nat.digitChar digit ∈ lowerHexDigits := by
          decide
        rw [last]
        exact each ⟨n % 16, Nat.mod_lt n (by decide)⟩

theorem hexMagnitude_fixedHex (width n : Nat) : hexMagnitude (fixedHex width n) = n % 16 ^ width := by
  induction width generalizing n with
  | zero => rw [pow_zero, Nat.mod_one]; rfl
  | succ width inductionHypothesis =>
      rw [fixedHex, hexMagnitude_concat, inductionHypothesis,
        hexValue?_digitChar (Nat.mod_lt n (by decide)), Option.getD_some, pow_succ',
        Nat.mod_mul, Nat.add_comm]

/-- The digits of a number, as many as they are, are its own but for the case of letters. -/
theorem fixedHex_hexMagnitude {digits : List Char} (areDigits : ∀ c ∈ digits, c ∈ hexDigits) :
    fixedHex digits.length (hexMagnitude digits) = digits.map Char.toLower := by
  induction digits using List.reverseRecOn with
  | nil => rfl
  | append_singleton front c inductionHypothesis =>
      obtain ⟨inFront, last⟩ := List.forall_mem_append.mp areDigits
      obtain ⟨digit, small, isDigit, written⟩ := exists_hexValue? (last c (List.mem_singleton_self c))
      have quotient : (16 * hexMagnitude front + digit) / 16 = hexMagnitude front := by omega
      have remainder : (16 * hexMagnitude front + digit) % 16 = digit := by omega
      rw [List.length_append, List.length_singleton, fixedHex, hexMagnitude_concat, isDigit,
        Option.getD_some, quotient, remainder, inductionHypothesis inFront, written,
        List.map_append, List.map_singleton]

theorem fixedHex_add (front back n : Nat) :
    fixedHex (front + back) n = fixedHex front (n / 16 ^ back) ++ fixedHex back n := by
  induction back generalizing n with
  | zero => rw [pow_zero, Nat.div_one, Nat.add_zero]; exact (List.append_nil _).symm
  | succ back inductionHypothesis =>
      rw [← Nat.add_assoc, fixedHex, inductionHypothesis, Nat.div_div_eq_div_mul, ← pow_succ',
        fixedHex, List.append_assoc]

theorem fixedHex_mod (width n : Nat) : fixedHex width (n % 16 ^ width) = fixedHex width n := by
  induction width generalizing n with
  | zero => rfl
  | succ width inductionHypothesis =>
      have quotient : n % 16 ^ (width + 1) / 16 = n / 16 % 16 ^ width := by
        rw [pow_succ', Nat.mod_mul_right_div_self]
      have remainder : n % 16 ^ (width + 1) % 16 = n % 16 := by
        rw [pow_succ', Nat.mod_mul_right_mod]
      rw [fixedHex, fixedHex, quotient, remainder, inductionHypothesis]

/-! ## Digits with underscores -/

/-- The number that digits come to behind those of another number. -/
def hexMagnitudeFrom (before : Nat) (digits : List Char) : Nat :=
  digits.foldl (fun sum c => 16 * sum + (hexValue? c).getD 0) before

theorem hexMagnitudeFrom_cons {c : Char} {digit : Nat} (isDigit : hexValue? c = some digit)
    (before : Nat) (rest : List Char) :
    hexMagnitudeFrom before (c :: rest) = hexMagnitudeFrom (16 * before + digit) rest := by
  rw [hexMagnitudeFrom, List.foldl_cons, isDigit, Option.getD_some, ← hexMagnitudeFrom]

/-- Digits that go on with a number, up to the number they come to.  The flag tells whether a
digit stands before them: only then may they end at once or begin with an underscore. -/
inductive HexRun : (afterDigit : Bool) → (before : Nat) → List Char → (number : Nat) → Prop
  | done (number : Nat) : HexRun true number [] number
  | digit {afterDigit : Bool} {before number digit : Nat} {c : Char} {rest : List Char}
      (isDigit : hexValue? (westernDigit c) = some digit)
      (run : HexRun true (16 * before + digit) rest number) :
      HexRun afterDigit before (c :: rest) number
  | underscore {before number : Nat} {rest : List Char} (run : HexRun false before rest number) :
      HexRun true before ('_' :: rest) number

theorem HexRun.head {before number : Nat} {chars : List Char}
    (run : HexRun false before chars number) :
    ∃ c rest digit, chars = c :: rest ∧ hexValue? (westernDigit c) = some digit := by
  cases run with
  | digit isDigit run => exact ⟨_, _, _, rfl, isDigit⟩

theorem withoutUnderscores_digit {afterDigit : Bool} {c : Char} (noUnderscore : c ≠ '_')
    (rest : List Char) :
    withoutUnderscores isHexDigit afterDigit (c :: rest) =
      (withoutUnderscores isHexDigit (isHexDigit c) rest).map (c :: ·) := by
  rw [withoutUnderscores]
  exact noUnderscore

theorem westernDigit_underscore : westernDigit '_' = '_' := by decide

/-- A run is read as digits that come to its number. -/
theorem HexRun.read {afterDigit : Bool} {before number : Nat} {chars : List Char}
    (run : HexRun afterDigit before chars number) :
    ∃ digits, withoutUnderscores isHexDigit afterDigit (chars.map westernDigit) = some digits ∧
      digits.all isHexDigit = true ∧ (afterDigit = false → digits ≠ []) ∧
      hexMagnitudeFrom before digits = number := by
  induction run with
  | done number => exact ⟨[], rfl, rfl, nofun, rfl⟩
  | @digit afterDigit before number digit c rest isDigit run inductionHypothesis =>
      obtain ⟨digits, read, allDigits, _, sum⟩ := inductionHypothesis
      have isHex : isHexDigit (westernDigit c) = true := by rw [isHexDigit, isDigit]; rfl
      have plain := plain_of_mem_hexDigits (mem_hexDigits_of_hexValue? isDigit)
      refine ⟨westernDigit c :: digits, ?_, ?_, fun _ => List.cons_ne_nil _ _, ?_⟩
      · rw [List.map_cons, withoutUnderscores_digit plain.2.2.1, isHex, read]
        rfl
      · rw [List.all_cons, isHex, allDigits]
        rfl
      · rw [hexMagnitudeFrom_cons isDigit, sum]
  | @underscore before number rest run inductionHypothesis =>
      obtain ⟨digits, read, allDigits, _, sum⟩ := inductionHypothesis
      obtain ⟨c, others, digit, rfl, isDigit⟩ := run.head
      have isHex : isHexDigit (westernDigit c) = true := by rw [isHexDigit, isDigit]; rfl
      refine ⟨digits, ?_, allDigits, nofun, sum⟩
      rw [List.map_cons, westernDigit_underscore, List.map_cons, withoutUnderscores, isHex]
      exact read

/-- What is read as digits is a run, the scan and the run going through the same states. -/
theorem hexRun_of_read {afterDigit : Bool} {chars digits : List Char} (before : Nat)
    (read : withoutUnderscores isHexDigit afterDigit (chars.map westernDigit) = some digits)
    (allDigits : digits.all isHexDigit = true) (begins : afterDigit = true ∨ digits ≠ []) :
    HexRun afterDigit before chars (hexMagnitudeFrom before digits) := by
  induction chars generalizing afterDigit digits before with
  | nil =>
      cases read
      rcases begins with rfl | nonempty
      · exact .done before
      · exact absurd rfl nonempty
  | cons c rest inductionHypothesis =>
      by_cases isUnderscore : westernDigit c = '_'
      · obtain rfl := eq_of_westernDigit isUnderscore (by decide)
        cases rest with
        | nil =>
            rw [List.map_cons, isUnderscore] at read
            cases read
        | cons next others =>
            rw [List.map_cons, isUnderscore, List.map_cons, withoutUnderscores] at read
            split at read
            · next admitted =>
              obtain ⟨rfl, nextDigit⟩ := Bool.and_eq_true_iff.mp admitted
              obtain ⟨digit, isDigit⟩ := Option.isSome_iff_exists.mp nextDigit
              have plain := plain_of_mem_hexDigits (mem_hexDigits_of_hexValue? isDigit)
              -- a digit stands behind the underscore, so that the run goes on with one
              refine .underscore (inductionHypothesis before read allDigits (.inr ?_))
              rw [withoutUnderscores_digit plain.2.2.1] at read
              obtain ⟨behind, _, rfl⟩ := Option.map_eq_some_iff.mp read
              exact List.cons_ne_nil _ _
            · cases read
      · rw [List.map_cons, withoutUnderscores_digit isUnderscore] at read
        obtain ⟨others, readOthers, rfl⟩ := Option.map_eq_some_iff.mp read
        rw [List.all_cons, Bool.and_eq_true] at allDigits
        obtain ⟨digit, isDigit⟩ := Option.isSome_iff_exists.mp allDigits.1
        rw [allDigits.1] at readOthers
        rw [hexMagnitudeFrom_cons isDigit]
        exact .digit isDigit (inductionHypothesis _ readOthers allDigits.2 (.inl rfl))

theorem HexRun.mem {afterDigit : Bool} {before number : Nat} {chars : List Char}
    (run : HexRun afterDigit before chars number) {c : Char} (member : c ∈ chars) :
    c = '_' ∨ westernDigit c ∈ hexDigits := by
  induction run with
  | done number => cases member
  | digit isDigit run inductionHypothesis =>
      rcases List.mem_cons.mp member with rfl | inRest
      · exact .inr (mem_hexDigits_of_hexValue? isDigit)
      · exact inductionHypothesis inRest
  | underscore run inductionHypothesis =>
      rcases List.mem_cons.mp member with isFirst | inRest
      · exact .inl isFirst
      · exact inductionHypothesis inRest

/-- Plain digits are a run of digits, for the number that they write. -/
theorem hexRun_of_digits {digits : List Char} (areDigits : ∀ c ∈ digits, c ∈ hexDigits)
    (nonempty : digits ≠ []) : HexRun false 0 digits (hexMagnitude digits) := by
  have kept : digits.map westernDigit = digits := by
    refine (List.map_congr_left fun c member => ?_).trans (List.map_id _)
    exact (plain_of_isNumeral (isNumeral_of_mem_hexDigits (areDigits c member))).2.1
  have read : withoutUnderscores isHexDigit false (digits.map westernDigit) = some digits := by
    rw [kept]
    exact withoutUnderscores_eq_self
      (fun member => (plain_of_mem_hexDigits (areDigits _ member)).2.2.1 rfl) _
  have allDigits : digits.all isHexDigit = true := by
    refine List.all_eq_true.mpr fun c member => ?_
    obtain ⟨digit, _, isDigit, _⟩ := exists_hexValue? (areDigits c member)
    rw [isHexDigit, isDigit]
    rfl
  exact hexRun_of_read 0 read allDigits (.inr nonempty)

/-! ## Sign, base mark and blanks -/

/-- What stands for a sign; the flag is true for a minus. -/
inductive IsSign : List Char → (negative : Bool) → Prop
  | absent : IsSign [] false
  | plus : IsSign ['+'] false
  | minus : IsSign ['-'] true

inductive IsBaseMark : List Char → Prop
  | absent : IsBaseMark []
  | plain {first letter : Char} (isZero : westernDigit first = '0')
      (isLetter : letter = 'x' ∨ letter = 'X') : IsBaseMark [first, letter]
  | underscored {first letter : Char} (isZero : westernDigit first = '0')
      (isLetter : letter = 'x' ∨ letter = 'X') : IsBaseMark [first, letter, '_']

/-- A text of an integer in hexadecimal digits. -/
def HexText (chars : List Char) (number : Int) : Prop :=
  ∃ front sign negative mark digits back magnitude,
    chars = front ++ ((sign ++ (mark ++ digits)) ++ back) ∧
    (∀ c ∈ front ++ back, isBlank c = true ∧ isSeparatorControl c = false) ∧
    IsSign sign negative ∧ IsBaseMark mark ∧ HexRun false 0 digits magnitude ∧
    number = if negative then -(magnitude : Int) else magnitude

theorem exists_sign (word : List Char) : ∃ sign negative rest, IsSign sign negative ∧
    word = sign ++ rest ∧ splitSign (word.map westernDigit) = (negative, rest.map westernDigit) := by
  cases word with
  | nil => exact ⟨[], false, [], .absent, rfl, rfl⟩
  | cons c rest =>
      by_cases isMinus : westernDigit c = '-'
      · obtain rfl := eq_of_westernDigit isMinus (by decide)
        exact ⟨['-'], true, rest, .minus, rfl, by rw [List.map_cons, isMinus, splitSign]⟩
      · by_cases isPlus : westernDigit c = '+'
        · obtain rfl := eq_of_westernDigit isPlus (by decide)
          exact ⟨['+'], false, rest, .plus, rfl, by rw [List.map_cons, isPlus, splitSign]⟩
        · refine ⟨[], false, c :: rest, .absent, rfl, ?_⟩
          rw [List.map_cons, splitSign]
          · exact fun _ same => isMinus (List.cons.inj same).1
          · exact fun _ same => isPlus (List.cons.inj same).1

theorem withoutBaseMark_plain {chars : List Char}
    (unmarked : ∀ letter rest, chars = '0' :: letter :: rest → letter ≠ 'x' ∧ letter ≠ 'X') :
    withoutBaseMark chars = chars := by
  unfold withoutBaseMark
  split
  · next letter rest =>
    rw [if_neg (by simpa using unmarked letter rest rfl)]
  · rfl

theorem withoutBaseMark_marked {letter : Char} (isLetter : letter = 'x' ∨ letter = 'X')
    {digits : List Char} (begins : ∀ rest, digits ≠ '_' :: rest) :
    withoutBaseMark ('0' :: letter :: digits) = digits := by
  rw [withoutBaseMark, if_pos (by simpa using isLetter)]
  exact begins

theorem withoutBaseMark_underscored {letter : Char} (isLetter : letter = 'x' ∨ letter = 'X')
    (digits : List Char) : withoutBaseMark ('0' :: letter :: '_' :: digits) = digits := by
  rw [withoutBaseMark, if_pos (by simpa using isLetter)]

theorem westernDigit_markLetter {letter : Char} (isLetter : letter = 'x' ∨ letter = 'X') :
    westernDigit letter = letter := by
  rcases isLetter with rfl | rfl
  · decide
  · decide

theorem exists_baseMark (word : List Char) : ∃ mark digits, IsBaseMark mark ∧
    word = mark ++ digits ∧ withoutBaseMark (word.map westernDigit) = digits.map westernDigit := by
  by_cases marked : ∃ first letter rest, word = first :: letter :: rest ∧
      westernDigit first = '0' ∧ (letter = 'x' ∨ letter = 'X')
  · obtain ⟨first, letter, rest, rfl, isZero, isLetter⟩ := marked
    have kept := westernDigit_markLetter isLetter
    by_cases underscored : ∃ digits, rest = '_' :: digits
    · obtain ⟨digits, rfl⟩ := underscored
      refine ⟨[first, letter, '_'], digits, .underscored isZero isLetter, rfl, ?_⟩
      rw [List.map_cons, List.map_cons, List.map_cons, isZero, kept, westernDigit_underscore,
        withoutBaseMark_underscored isLetter]
    · refine ⟨[first, letter], rest, .plain isZero isLetter, rfl, ?_⟩
      rw [List.map_cons, List.map_cons, isZero, kept, withoutBaseMark_marked isLetter]
      intro others same
      obtain ⟨c, behind, rfl, isUnderscore, _⟩ := List.map_eq_cons_iff.mp same
      exact underscored ⟨behind, by rw [eq_of_westernDigit isUnderscore (by decide)]⟩
  · refine ⟨[], word, .absent, rfl, withoutBaseMark_plain fun letter rest same => ?_⟩
    obtain ⟨first, others, rfl, isZero, same⟩ := List.map_eq_cons_iff.mp same
    obtain ⟨second, behind, rfl, isSecond, _⟩ := List.map_eq_cons_iff.mp same
    refine not_or.mp fun isLetter => marked ⟨first, second, behind, rfl, isZero, ?_⟩
    exact isLetter.imp (fun same => eq_of_westernDigit (isSecond.trans same) (by decide))
      fun same => eq_of_westernDigit (isSecond.trans same) (by decide)

theorem IsBaseMark.removed {mark digits : List Char} {number : Nat} (isMark : IsBaseMark mark)
    (run : HexRun false 0 digits number) :
    withoutBaseMark ((mark ++ digits).map westernDigit) = digits.map westernDigit := by
  cases isMark with
  | absent =>
      refine withoutBaseMark_plain fun letter rest same => ?_
      obtain ⟨_, others, rfl, _, same⟩ := List.map_eq_cons_iff.mp same
      obtain ⟨second, behind, rfl, rfl, _⟩ := List.map_eq_cons_iff.mp same
      rcases run.mem (c := second) (by simp) with rfl | isDigit
      · rw [westernDigit_underscore]
        decide
      · exact (plain_of_mem_hexDigits isDigit).2.2.2.2
  | @plain first letter isZero isLetter =>
      rw [List.map_append, List.map_cons, List.map_singleton, isZero,
        westernDigit_markLetter isLetter, List.cons_append, List.singleton_append,
        withoutBaseMark_marked isLetter]
      intro rest same
      obtain ⟨c, others, _, rfl, isDigit⟩ := run.head
      rw [List.map_cons] at same
      exact (plain_of_mem_hexDigits (mem_hexDigits_of_hexValue? isDigit)).2.2.1
        (List.cons.inj same).1
  | @underscored first letter isZero isLetter =>
      rw [List.map_append, List.map_cons, List.map_cons, List.map_singleton, isZero,
        westernDigit_markLetter isLetter, westernDigit_underscore, List.cons_append,
        List.cons_append, List.singleton_append, withoutBaseMark_underscored isLetter]

/-- Digits behind a base mark begin with a digit, that of the mark or the first of their own. -/
theorem IsBaseMark.head {mark digits : List Char} {number : Nat} (isMark : IsBaseMark mark)
    (run : HexRun false 0 digits number) :
    ∃ c rest, mark ++ digits = c :: rest ∧ westernDigit c ∈ hexDigits := by
  cases isMark with
  | absent =>
      obtain ⟨c, rest, _, rfl, isDigit⟩ := run.head
      exact ⟨c, rest, rfl, mem_hexDigits_of_hexValue? isDigit⟩
  | plain isZero isLetter => exact ⟨_, _, rfl, by rw [isZero]; decide⟩
  | underscored isZero isLetter => exact ⟨_, _, rfl, by rw [isZero]; decide⟩

theorem splitSign_signed {sign rest : List Char} {negative : Bool} {c : Char}
    (isSign : IsSign sign negative) (isDigit : westernDigit c ∈ hexDigits) :
    splitSign ((sign ++ c :: rest).map westernDigit) =
      (negative, (c :: rest).map westernDigit) := by
  cases isSign with
  | absent =>
      have plain := plain_of_mem_hexDigits isDigit
      rw [List.nil_append, List.map_cons, splitSign]
      · exact fun _ same => plain.1 (List.cons.inj same).1
      · exact fun _ same => plain.2.1 (List.cons.inj same).1
  | plus =>
      have kept : westernDigit '+' = '+' := by decide
      rw [List.map_append, List.map_singleton, kept]
      rfl
  | minus =>
      have kept : westernDigit '-' = '-' := by decide
      rw [List.map_append, List.map_singleton, kept]
      rfl

theorem not_isBlank_of_mem_hexDigits {c : Char} (isDigit : westernDigit c ∈ hexDigits) :
    isBlank c = false := by
  obtain ⟨digit, _, read, _⟩ := exists_hexValue? isDigit
  by_contra blank
  rw [hexValue?_westernDigit_of_isBlank (Bool.not_eq_false _ ▸ blank)] at read
  cases read

theorem IsBaseMark.not_isBlank {mark : List Char} (isMark : IsBaseMark mark) {c : Char}
    (member : c ∈ mark) : isBlank c = false := by
  have zero : ∀ {first : Char}, westernDigit first = '0' → isBlank first = false := fun isZero =>
    not_isBlank_of_mem_hexDigits (by rw [isZero]; decide)
  have letters : ∀ {letter : Char}, letter = 'x' ∨ letter = 'X' → isBlank letter = false := by
    rintro letter (rfl | rfl) <;> decide
  cases isMark with
  | absent => cases member
  | plain isZero isLetter =>
      simp only [List.mem_cons, List.not_mem_nil, or_false] at member
      rcases member with rfl | rfl
      · exact zero isZero
      · exact letters isLetter
  | underscored isZero isLetter =>
      simp only [List.mem_cons, List.not_mem_nil, or_false] at member
      rcases member with rfl | rfl | rfl
      · exact zero isZero
      · exact letters isLetter
      · decide

theorem not_isBlank_of_mem {sign mark digits : List Char} {negative : Bool} {number : Nat}
    (isSign : IsSign sign negative) (isMark : IsBaseMark mark)
    (run : HexRun false 0 digits number) {c : Char} (member : c ∈ sign ++ (mark ++ digits)) :
    isBlank c = false := by
  rcases List.mem_append.mp member with inSign | member
  · cases isSign with
    | absent => cases inSign
    | plus => rw [List.mem_singleton.mp inSign]; decide
    | minus => rw [List.mem_singleton.mp inSign]; decide
  · rcases List.mem_append.mp member with inMark | inDigits
    · exact isMark.not_isBlank inMark
    · rcases run.mem inDigits with rfl | isDigit
      · decide
      · exact not_isBlank_of_mem_hexDigits isDigit

/-- A text of an integer is not empty, and does not begin with a hash sign. -/
theorem HexText.head {chars : List Char} {number : Int} (isText : HexText chars number) :
    ∃ c rest, chars = c :: rest ∧ c ≠ '#' := by
  obtain ⟨front, sign, negative, mark, digits, back, magnitude, rfl, blanks, isSign, isMark, run,
    -⟩ := isText
  cases front with
  | cons c rest =>
      refine ⟨c, _, rfl, ne_of_holds (blanks c (by simp)).1 ?_⟩
      decide
  | nil =>
      obtain ⟨c, rest, begins, isDigit⟩ := isMark.head run
      rw [begins]
      cases isSign with
      | absent =>
          refine ⟨c, _, rfl, ?_⟩
          rintro rfl
          exact absurd isDigit (by decide)
      | plus => exact ⟨_, _, rfl, by decide⟩
      | minus => exact ⟨_, _, rfl, by decide⟩

theorem hexText_of_digits {digits : List Char} (areDigits : ∀ c ∈ digits, c ∈ hexDigits)
    (nonempty : digits ≠ []) : HexText digits (hexMagnitude digits) :=
  ⟨[], [], false, [], digits, [], hexMagnitude digits, (List.append_nil digits).symm,
    List.forall_mem_nil _, .absent, .absent, hexRun_of_digits areDigits nonempty, rfl⟩

/-- Blanks around a word without blanks are passed over. -/
theorem numberCharacters_padded {text : String} {front word back : List Char}
    (whole : text.toList = front ++ (word ++ back))
    (blanks : ∀ c ∈ front ++ back, isBlank c = true ∧ isSeparatorControl c = false)
    (kept : ∀ c ∈ word, isBlank c = false) : numberCharacters text = word.map westernDigit := by
  have dropped : ∀ c ∈ front ++ back, (isBlank c && !isSeparatorControl c) = true := by
    intro c member
    obtain ⟨blank, separator⟩ := blanks c member
    rw [blank, separator]
    rfl
  obtain ⟨frontDropped, backDropped⟩ := List.forall_mem_append.mp dropped
  rw [numberCharacters, whole, trim_padded frontDropped backDropped]
  intro c member
  rw [kept c member, Bool.false_and]

/-- The texts that read as integers, with the integers. -/
theorem readHexadecimal?_eq_some_iff {text : String} {number : Int} :
    readHexadecimal? text = some number ↔ HexText text.toList number := by
  constructor
  · intro read
    obtain ⟨front, back, frontBlank, backBlank, whole⟩ :=
      exists_padding (fun c => isBlank c && !isSeparatorControl c) text.toList
    unfold readHexadecimal? numberCharacters at read
    generalize trim _ text.toList = word at whole read
    obtain ⟨sign, negative, body, isSign, rfl, split⟩ := exists_sign word
    obtain ⟨mark, digits, isMark, rfl, unmarked⟩ := exists_baseMark body
    rw [split] at read
    obtain ⟨plain, withoutMarks, read⟩ := Option.bind_eq_some_iff.mp read
    rw [unmarked] at withoutMarks
    split at read
    · cases read
    · next areDigits =>
      cases read
      simp only [Bool.or_eq_true, Bool.not_eq_true', not_or, Bool.not_eq_true,
        List.isEmpty_eq_false_iff, Bool.not_eq_false] at areDigits
      have run := hexRun_of_read 0 withoutMarks areDigits.2 (.inr areDigits.1)
      refine ⟨front, sign, negative, mark, digits, back, _, whole, ?_, isSign, isMark, run, rfl⟩
      intro c member
      have blank := List.forall_mem_append.mpr ⟨frontBlank, backBlank⟩ c member
      rw [Bool.and_eq_true, Bool.not_eq_true'] at blank
      exact blank
  · rintro ⟨front, sign, negative, mark, digits, back, magnitude, whole, blanks, isSign, isMark,
      run, rfl⟩
    obtain ⟨c, rest, begins, isDigit⟩ := isMark.head run
    obtain ⟨plain, withoutMarks, allDigits, nonempty, sum⟩ := run.read
    have characters := numberCharacters_padded whole blanks fun c =>
      not_isBlank_of_mem isSign isMark run
    have notEmpty : plain.isEmpty = false := List.isEmpty_eq_false_iff.mpr (nonempty rfl)
    have number : hexMagnitude plain = magnitude := sum
    unfold readHexadecimal?
    rw [characters, begins, splitSign_signed isSign isDigit, ← begins]
    simp only [isMark.removed run, withoutMarks, Option.bind_eq_bind, Option.bind_some, notEmpty,
      allDigits, Bool.not_true, Bool.or_false, Bool.false_eq_true, if_false, number]
    rfl

end Decimal

end SceneComponent
