import Mathlib
import SceneComponent.Proofs.Value.LiteralWords

/-!
# Literals of nested lists

A text is cut into brackets, commas and words, with gaps between them where it likes, and a
reader goes once through them: it keeps the items of the lists that are still open, innermost
first.  A comma may stand behind the last item of a list, as the script allows.

The literal of a value reads as that value, at any depth and with empty lists anywhere.  So
values of one literal differ in kinds of numbers and signs of zeros only.
-/

set_option autoImplicit false

namespace SceneComponent

open Binary64 Text

namespace Literal

/-! ## The reader -/

inductive Token where
  | opening
  | closing
  | comma
  | word (chars : List Char)

def isGap (c : Char) : Bool := c = ' ' || c = '\t' || c = '\n' || c = '\r'

/-- The word that has been read so far, if any. -/
def finished : List Char → List Token
  | [] => []
  | word => [.word word]

/-- The tokens of a text behind the characters of a word. -/
def tokens : (word : List Char) → List Char → List Token
  | word, [] => finished word
  | word, '[' :: rest => finished word ++ .opening :: tokens [] rest
  | word, ']' :: rest => finished word ++ .closing :: tokens [] rest
  | word, ',' :: rest => finished word ++ .comma :: tokens [] rest
  | word, c :: rest =>
      if isGap c then finished word ++ tokens [] rest else tokens (word ++ [c]) rest

mutual

/-- Goes on where a value is due; of each open list the items are known, in reverse. -/
def readValue : (opened : List (List Literal)) → List Token → Option Literal
  | opened, .word chars :: rest =>
      (ofWord? chars).bind fun literal => readBehind opened literal rest
  | opened, .opening :: rest => readValue ([] :: opened) rest
  | items :: opened, .closing :: rest => readBehind opened (.list items.reverse) rest
  | _, _ => none

/-- Goes on behind a value. -/
def readBehind : (opened : List (List Literal)) → Literal → List Token → Option Literal
  | [], literal, [] => some literal
  | items :: opened, literal, .comma :: rest => readValue ((literal :: items) :: opened) rest
  | items :: opened, literal, .closing :: rest =>
      readBehind opened (.list (literal :: items).reverse) rest
  | _, _, _ => none

end

def read? (text : String) : Option Literal := readValue [] (tokens [] text.toList)

/-! ## Words among tokens -/

/-- Whether a text goes on with a mark that ends words. -/
def EndsWord (rest : List Char) : Prop := ∀ c, rest.head? = some c → c = ',' ∨ c = ']'

theorem endsWord_nil : EndsWord [] := fun _ head => by cases head

theorem endsWord_comma (rest : List Char) : EndsWord (',' :: rest) := fun _ head =>
  .inl (Option.some.inj head).symm

theorem endsWord_closing (rest : List Char) : EndsWord (']' :: rest) := fun _ head =>
  .inr (Option.some.inj head).symm

theorem tokens_numeral {c : Char} (numeral : isNumeral c = true) (word rest : List Char) :
    tokens word (c :: rest) = tokens (word ++ [c]) rest := by
  have unmarked : ∀ {mark : Char}, isNumeral mark ≠ true → c ≠ mark := by
    rintro mark noNumeral rfl
    exact noNumeral numeral
  have noGap : isGap c = false := by
    unfold isGap
    simp only [Bool.or_eq_false_iff, decide_eq_false_iff_not]
    exact ⟨⟨⟨unmarked (by decide), unmarked (by decide)⟩, unmarked (by decide)⟩,
      unmarked (by decide)⟩
  rw [tokens, noGap, if_neg Bool.false_ne_true]
  · exact unmarked (by decide)
  · exact unmarked (by decide)
  · exact unmarked (by decide)

theorem tokens_append {chars : List Char} (numerals : ∀ c ∈ chars, isNumeral c = true)
    (word rest : List Char) : tokens word (chars ++ rest) = tokens (word ++ chars) rest := by
  induction chars generalizing word with
  | nil => rw [List.nil_append, List.append_nil]
  | cons c others inductionHypothesis =>
      obtain ⟨numeral, otherNumerals⟩ := List.forall_mem_cons.mp numerals
      rw [List.cons_append, tokens_numeral numeral, inductionHypothesis otherNumerals,
        List.append_assoc, List.singleton_append]

theorem tokens_word {word rest : List Char} (nonempty : word ≠ [])
    (numerals : ∀ c ∈ word, isNumeral c = true) (ends : EndsWord rest) :
    tokens [] (word ++ rest) = .word word :: tokens [] rest := by
  have isWord : finished word = [.word word] := by
    cases word with
    | nil => exact absurd rfl nonempty
    | cons c others => rfl
  rw [tokens_append numerals, List.nil_append]
  cases rest with
  | nil => exact isWord
  | cons mark more =>
      rcases ends mark rfl with rfl | rfl
      · rw [tokens, tokens, isWord]
        rfl
      · rw [tokens, tokens, isWord]
        rfl

end Literal

/-! ## Values that are written -/

namespace Value

/-- Nested lists of truth values and numbers. -/
inductive IsNested : Value → Prop
  | truth (value : Bool) : IsNested (.bool value)
  | int (number : Int) : IsNested (.int number)
  | float (x : Float) : IsNested (.float x)
  | list {items : List Value} (each : ∀ item ∈ items, IsNested item) : IsNested (.list items)

/-- Whether the reader takes the text of a value for a literal, whatever lists are open and
whatever stands behind. -/
def ReadsAs (value : Value) (read : Literal) : Prop :=
  ∀ opened rest, Literal.EndsWord rest →
    Literal.readValue opened (Literal.tokens [] ((literal value).toList ++ rest)) =
      Literal.readBehind opened read (Literal.tokens [] rest)

theorem readsAs_of_word {value : Value} {read : Literal}
    (numerals : ∀ c ∈ (literal value).toList, isNumeral c = true)
    (word : Literal.ofWord? (literal value).toList = some read) : value.ReadsAs read := by
  intro opened rest ends
  have nonempty : (literal value).toList ≠ [] := by
    intro empty
    rw [empty] at word
    cases word
  rw [Literal.tokens_word nonempty numerals ends, Literal.readValue, word, Option.bind_some]

theorem isNumeral_of_mem_intText (number : Int) :
    ∀ c ∈ (intText number).toList, isNumeral c = true := by
  have digits : ∀ c ∈ Decimal.digits number.natAbs, isNumeral c = true := fun _ =>
    Decimal.isNumeral_of_mem_digits
  rw [Literal.toList_intText]
  split
  · exact List.forall_mem_cons.mpr ⟨by decide, digits⟩
  · exact digits

theorem isListed_of_mem_literal {value : Value} (nested : value.IsNested) :
    ∀ c ∈ (literal value).toList, isListed c = true := by
  induction nested with
  | truth truth => cases truth <;> exact List.all_eq_true.mp rfl
  | int number =>
      exact fun c member => isListed_of_isNumeral (isNumeral_of_mem_intText number c member)
  | float x =>
      exact fun c member => isListed_of_isNumeral (isNumeral_of_mem_doubleLiteral x c member)
  | @list items _ inductionHypothesis =>
      rw [toList_list_literal]
      refine List.forall_mem_cons.mpr
        ⟨by decide, List.forall_mem_append.mpr ⟨fun c member => ?_, List.all_eq_true.mp rfl⟩⟩
      rcases mem_intercalate member with comma | ⟨piece, inPieces, inPiece⟩
      · rw [List.mem_singleton.mp comma]
        decide
      · obtain ⟨item, inItems, rfl⟩ := List.mem_map.mp inPieces
        exact inductionHypothesis item inItems c inPiece

/-- The items of a list are read one by one, up to the bracket that closes it. -/
theorem readValue_items {first : Value} {rest : List Value}
    (each : ∀ item ∈ first :: rest, ∃ read : Literal, read.Denotes item ∧ item.ReadsAs read) :
    ∃ reads, List.Forall₂ Literal.Denotes reads (first :: rest) ∧
      ∀ (before : List Literal) (opened : List (List Literal)) (behind : List Char),
        Literal.readValue (before :: opened) (Literal.tokens []
          ([','].intercalate ((first :: rest).map fun item => (literal item).toList) ++
            ']' :: behind)) =
          Literal.readBehind opened (.list (before.reverse ++ reads))
            (Literal.tokens [] behind) := by
  induction rest generalizing first with
  | nil =>
      obtain ⟨read, denotes, readsAs⟩ := each first (List.mem_singleton_self first)
      refine ⟨[read], .cons denotes .nil, fun before opened behind => ?_⟩
      rw [List.map_singleton, List.intercalate_singleton,
        readsAs _ _ (Literal.endsWord_closing behind), Literal.tokens, Literal.finished,
        List.nil_append, Literal.readBehind, List.reverse_cons]
  | cons second others inductionHypothesis =>
      obtain ⟨firstEach, restEach⟩ := List.forall_mem_cons.mp each
      obtain ⟨read, denotes, readsAs⟩ := firstEach
      obtain ⟨reads, denoteAll, readAll⟩ := inductionHypothesis restEach
      refine ⟨read :: reads, .cons denotes denoteAll, fun before opened behind => ?_⟩
      simp only [List.map_cons] at readAll ⊢
      rw [List.intercalate_cons_cons, List.append_assoc, List.append_assoc,
        List.singleton_append, readsAs _ _ (Literal.endsWord_comma _), Literal.tokens,
        Literal.finished, List.nil_append, Literal.readBehind, readAll, List.reverse_cons,
        List.append_assoc, List.singleton_append]

theorem exists_readsAs {value : Value} (nested : value.IsNested) :
    ∃ read : Literal, read.Denotes value ∧ value.ReadsAs read := by
  induction nested with
  | truth truth =>
      refine ⟨.truth truth, .truth truth, readsAs_of_word ?_ ?_⟩
      · cases truth <;> exact List.all_eq_true.mp rfl
      · cases truth <;> rfl
  | int number =>
      exact ⟨.whole number, .integer number,
        readsAs_of_word (isNumeral_of_mem_intText number) (Literal.ofWord?_intText number)⟩
  | float x =>
      obtain ⟨read, word, denotes⟩ := Literal.ofWord?_doubleLiteral x
      exact ⟨read, denotes, readsAs_of_word (isNumeral_of_mem_doubleLiteral x) word⟩
  | @list items _ inductionHypothesis =>
      cases items with
      | nil => exact ⟨.list [], .list .nil, fun opened rest _ => rfl⟩
      | cons first others =>
          obtain ⟨reads, denoteAll, readAll⟩ := readValue_items inductionHypothesis
          refine ⟨.list reads, .list denoteAll, fun opened rest _ => ?_⟩
          rw [toList_list_literal, List.cons_append, List.append_assoc, List.singleton_append,
            Literal.tokens, Literal.finished, List.nil_append, Literal.readValue,
            readAll [] opened rest, List.reverse_nil, List.nil_append]

/-! ## Values of one text -/

/-- The number that a value is, if it is a finite one. -/
def rational? : Value → Option ℚ
  | .int number => some number
  | .float x => if isFinite x then some (Binary64.number x) else none
  | _ => none

/-- Values that are equal but for kinds of numbers and signs of zeros. -/
inductive Alike : Value → Value → Prop
  | truth (value : Bool) : Alike (.bool value) (.bool value)
  | number {first second : Value} {number : ℚ} (firstIs : first.rational? = some number)
      (secondIs : second.rational? = some number) : Alike first second
  | notFinite {x : Float} (infinite : isFinite x = false) : Alike (.float x) (.float x)
  | list {firsts seconds : List Value} (each : List.Forall₂ Alike firsts seconds) :
      Alike (.list firsts) (.list seconds)

theorem rational?_float {x : Float} (finite : isFinite x = true) :
    rational? (.float x) = some (Binary64.number x) := if_pos finite

theorem rational?_of_exact {x : Float} {integer : Int} (finite : isFinite x = true)
    (exact : Binary64.number x = integer) : rational? (.float x) = some (integer : ℚ) := by
  rw [rational?_float finite, exact]

/-- What else the literal of a double denotes is like the double. -/
theorem alike_of_float {x : Float} {read : Literal} {second : Value}
    (denotes : read.Denotes (.float x)) (denotesToo : read.Denotes second) :
    (Value.float x).Alike second := by
  cases denotes with
  | whole nearest exact =>
      have isNumber := rational?_of_exact nearest.finite exact
      cases denotesToo with
      | integer => exact .number isNumber rfl
      | whole nearestToo exactToo =>
          exact .number isNumber (rational?_of_exact nearestToo.finite exactToo)
  | decimal nearest =>
      cases denotesToo with
      | decimal nearestToo =>
          refine .number (rational?_float nearest.finite) ?_
          rw [rational?_float nearestToo.finite, nearest.unique nearestToo]
  | infinite infinite =>
      have atLimit : isFinite x = false := decide_eq_false (infinite ▸ lt_irrefl _)
      generalize sign : isNegative x = negative at denotesToo
      cases denotesToo with
      | @infinite y infiniteToo =>
          obtain rfl : x = y := eq_of_index_eq sign (infinite.trans infiniteToo.symm)
          exact .notFinite atLimit
  | undefined unknown =>
      cases denotesToo with
      | @undefined y unknownToo =>
          obtain rfl : x = y := eq_of_isNaN unknown unknownToo
          exact .notFinite (decide_eq_false (Nat.not_lt.mpr (of_decide_eq_true unknown).le))

theorem forall₂_alike {firsts : List Value}
    (each : ∀ first ∈ firsts, ∀ {read : Literal} {second : Value}, read.Denotes first →
      read.Denotes second → first.Alike second) {reads : List Literal} {seconds : List Value}
    (denoteAll : List.Forall₂ Literal.Denotes reads firsts)
    (denoteAllToo : List.Forall₂ Literal.Denotes reads seconds) :
    List.Forall₂ Alike firsts seconds := by
  induction denoteAll generalizing seconds with
  | nil =>
      cases denoteAllToo
      exact .nil
  | cons denotes _ inductionHypothesis =>
      cases denoteAllToo with
      | cons denotesToo others =>
          obtain ⟨firstEach, restEach⟩ := List.forall_mem_cons.mp each
          exact .cons (firstEach denotes denotesToo) (inductionHypothesis restEach others)

theorem alike_of_denotes {first : Value} (nested : first.IsNested) {read : Literal}
    {second : Value} (denotes : read.Denotes first) (denotesToo : read.Denotes second) :
    first.Alike second := by
  induction nested generalizing read second with
  | truth truth =>
      cases denotes
      cases denotesToo
      exact .truth truth
  | int n =>
      cases denotes
      cases denotesToo with
      | integer => exact .number rfl rfl
      | whole nearest exact => exact .number rfl (rational?_of_exact nearest.finite exact)
  | float x => exact alike_of_float denotes denotesToo
  | list each inductionHypothesis =>
      cases denotes with
      | list denoteAll =>
          cases denotesToo with
          | list denoteAllToo =>
              exact .list (forall₂_alike inductionHypothesis denoteAll denoteAllToo)

theorem exists_read? {value : Value} (nested : value.IsNested) :
    ∃ read, Literal.read? (literal value) = some read ∧ read.Denotes value := by
  obtain ⟨read, denotes, readsAs⟩ := exists_readsAs nested
  have whole := readsAs [] [] Literal.endsWord_nil
  rw [List.append_nil] at whole
  exact ⟨read, whole, denotes⟩

/-- The literal of a nested list reads as that list, and values of one literal are alike. -/
theorem literal_decodes {first second : Value} (firstNested : first.IsNested)
    (secondNested : second.IsNested) :
    (∃ read, Literal.read? (literal first) = some read ∧ read.Denotes first) ∧
      (literal first = literal second → first.Alike second) := by
  refine ⟨exists_read? firstNested, fun same => ?_⟩
  obtain ⟨read, isRead, denotes⟩ := exists_read? firstNested
  obtain ⟨readToo, isReadToo, denotesToo⟩ := exists_read? secondNested
  rw [← same, isRead] at isReadToo
  obtain rfl := Option.some.inj isReadToo
  exact alike_of_denotes firstNested denotes denotesToo

def mixedList : Value :=
  .list [.bool true, .int 2, .list [], .list [.float (-0.0), .float 1e16, .float undefined]]

def mixedListToo : Value :=
  .list [.bool true, .float 2.0, .list [], .list [.int 0, .float 1e16, .float undefined]]

theorem mixedList_decoded : literal mixedList = "[true,2,[],[0,1e+16,NaN]]" ∧
    literal mixedListToo = "[true,2,[],[0,1e+16,NaN]]" ∧
    (∃ read, Literal.read? (literal mixedList) = some read ∧ read.Denotes mixedList) ∧
      mixedList.Alike mixedListToo := by
  have text : literal mixedList = "[true,2,[],[0,1e+16,NaN]]" := by decide +kernel
  have sameText : literal mixedListToo = "[true,2,[],[0,1e+16,NaN]]" := by decide +kernel
  have none : (Value.list []).IsNested := .list (List.forall_mem_nil _)
  have numbers : (Value.list [.float (-0.0), .float 1e16, .float undefined]).IsNested :=
    .list (by simp [IsNested.float])
  have numbersToo : (Value.list [.int 0, .float 1e16, .float undefined]).IsNested :=
    .list (by simp [IsNested.float, IsNested.int])
  have nested : mixedList.IsNested :=
    .list (by simp [IsNested.truth, IsNested.int, none, numbers])
  have nestedToo : mixedListToo.IsNested :=
    .list (by simp [IsNested.truth, IsNested.float, none, numbersToo])
  obtain ⟨decoded, alike⟩ := literal_decodes nested nestedToo
  exact ⟨text, sameText, decoded, alike (text.trans sameText.symm)⟩

end Value

end SceneComponent
