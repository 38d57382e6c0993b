import Mathlib
import SceneComponent.Proofs.Component.AttributeReading
import SceneComponent.Proofs.Inventory.Identifiers
import SceneComponent.Proofs.Value.NestedLiterals

/-!
# Scanning attributes

A scanner goes once through the attributes of a tag: names up to a space or an equals sign,
and bodies between double quotes.  A colon before a name marks code, which is a literal or the
name of a constant; any other body is a fixed text, in which entities stand for three of the
characters; a name without a body is a flag.

What is written for an entry is scanned as that entry, the parts of its transform before its
properties, whatever characters its texts are made of.
-/

set_option autoImplicit false

namespace SceneComponent

open Text

theorem Identifier.isAsciiDigit_of_isStart {c : Char} (start : isStart c = true) :
    isAsciiDigit c = false := by
  have codes : 'a'.val.toNat = 97 ∧ 'A'.val.toNat = 65 ∧ '9'.val.toNat = 57 := ⟨rfl, rfl, rfl⟩
  refine Bool.eq_false_iff.mpr fun digit => ?_
  simp only [isStart, isAsciiLetter, isAsciiDigit, Bool.or_eq_true, Bool.and_eq_true,
    decide_eq_true_eq, Char.le_def, UInt32.le_iff_toNat_le] at start digit
  rcases start with (lower | upper) | rfl
  · omega
  · omega
  · exact absurd digit.2 (by decide)

namespace Attribute

/-! ## The scanner -/

/-- An attribute as it stands in a text: its name with its mark, and its body. -/
abbrev Piece := List Char × Option (List Char)

mutual

/-- Goes on where an attribute may begin. -/
def piecesFrom : List Char → Option (List Piece)
  | [] => some []
  | ' ' :: rest => piecesFrom rest
  | '=' :: _ => none
  | c :: rest => piecesInName [c] rest

/-- Goes on within a name. -/
def piecesInName (name : List Char) : List Char → Option (List Piece)
  | [] => some [(name, none)]
  | ' ' :: rest => (piecesFrom rest).map ((name, none) :: ·)
  | '=' :: '"' :: rest => piecesInBody name [] rest
  | '=' :: _ => none
  | c :: rest => piecesInName (name ++ [c]) rest

/-- Goes on within a body, up to the next double quote. -/
def piecesInBody (name body : List Char) : List Char → Option (List Piece)
  | [] => none
  | '"' :: rest => (piecesBehind rest).map ((name, some body) :: ·)
  | c :: rest => piecesInBody name (body ++ [c]) rest

/-- Goes on behind a body, where an attribute may only begin after a space. -/
def piecesBehind : List Char → Option (List Piece)
  | [] => some []
  | ' ' :: rest => piecesFrom rest
  | _ :: _ => none

end

/-- The text that a body with entities stands for; an ampersand that begins none of them is
refused. -/
def decoded? : List Char → Option (List Char)
  | [] => some []
  | '&' :: 'a' :: 'm' :: 'p' :: ';' :: rest => (decoded? rest).map ('&' :: ·)
  | '&' :: 'q' :: 'u' :: 'o' :: 't' :: ';' :: rest => (decoded? rest).map ('"' :: ·)
  | '&' :: 'l' :: 't' :: ';' :: rest => (decoded? rest).map ('<' :: ·)
  | '&' :: _ => none
  | c :: rest => (decoded? rest).map (c :: ·)

/-- Whether a character can stand in the name of a constant: it ends no word and no body. -/
def isConstantCharacter (c : Char) : Bool :=
  !(Literal.isGap c || c = '[' || c = ']' || c = ',' || c = '"')

/-- Whether a source can be the name of a constant: no number begins as it does. -/
def namesConstant : List Char → Bool
  | [] => false
  | first :: rest =>
      !(isAsciiDigit first || first = '.' || first = '-' || first = '+') &&
        (first :: rest).all isConstantCharacter

/-- What an attribute is found to hold. -/
inductive Scanned where
  | flag
  | fixed (text : String)
  | constant (name : String)
  | literal (read : Literal)

namespace Scanned

/-- Code is a literal where it reads as one, and else the name of a constant. -/
def ofSource? (source : List Char) : Option Scanned :=
  match Literal.read? (String.ofList source) with
  | some read => some (.literal read)
  | none => if namesConstant source then some (.constant (String.ofList source)) else none

def ofPiece? : Piece → Option (String × Scanned)
  | (':' :: name, some source) => (ofSource? source).map (String.ofList name, ·)
  | (':' :: _, none) => none
  | (name, some body) =>
      (decoded? body).map fun text => (String.ofList name, .fixed (String.ofList text))
  | (name, none) => some (String.ofList name, .flag)

/-- What an attribute stands for: numbers are told by their value, and zeros not by their
signs. -/
inductive Denotes : Scanned → Value → Prop
  | flag : Denotes .flag (.bool true)
  | fixed (text : String) : Denotes (.fixed text) (.text text)
  | constant (name : String) : Denotes (.constant name) (.constant name)
  | literal {read : Literal} {value : Value} (denotes : read.Denotes value) :
      Denotes (.literal read) value

end Scanned

/-- The attributes of a text, in order. -/
def scan? (text : String) : Option (List (String × Scanned)) :=
  (piecesFrom text.toList).bind (List.mapM Scanned.ofPiece?)

/-! ## Names -/

/-- Whether a text can be the name of an attribute: it is marked by none of the characters that
a scanner looks for. -/
def IsKey (name : String) : Prop :=
  name ≠ "" ∧ name.toList.head? ≠ some ':' ∧ ∀ c ∈ name.toList, c ≠ ' ' ∧ c ≠ '='

theorem isKey_of_isIdentifier {name : String} (identifier : IsIdentifier name) : IsKey name := by
  have rest := Identifier.isRest_of_spells identifier
  refine ⟨?_, fun colon => ?_, fun c member => ?_⟩
  · rintro rfl
    cases identifier
  · exact ne_of_holds (rest ':' (List.mem_of_mem_head? colon)) (by decide) rfl
  · exact ⟨ne_of_holds (rest c member) (by decide), ne_of_holds (rest c member) (by decide)⟩

theorem isConstantCharacter_of_isRest {c : Char} (rest : Identifier.isRest c = true) :
    isConstantCharacter c = true := by
  have different : ∀ {other : Char}, Identifier.isRest other = false → c ≠ other :=
    fun outside => ne_of_holds rest outside
  simp only [isConstantCharacter, Literal.isGap, Bool.not_eq_true', Bool.or_eq_false_iff,
    decide_eq_false_iff_not]
  refine ⟨⟨⟨⟨⟨⟨⟨?_, ?_⟩, ?_⟩, ?_⟩, ?_⟩, ?_⟩, ?_⟩, ?_⟩ <;> exact different (by decide)

theorem namesConstant_of_isIdentifier {name : String} (identifier : IsIdentifier name) :
    namesConstant name.toList = true := by
  have restPlain := Identifier.isRest_of_spells identifier
  unfold IsIdentifier at identifier
  generalize name.toList = chars at identifier restPlain
  cases chars with
  | nil => cases identifier
  | cons first rest =>
      have start : Identifier.isStart first = true := (Bool.and_eq_true_iff.mp identifier).1
      rw [namesConstant, Identifier.isAsciiDigit_of_isStart start,
        decide_eq_false (ne_of_holds start (by decide)),
        decide_eq_false (ne_of_holds start (by decide)),
        decide_eq_false (ne_of_holds start (by decide))]
      exact List.all_eq_true.mpr fun c member => isConstantCharacter_of_isRest (restPlain c member)

/-! ## Pieces of a text -/

/-- Whether a piece is told from what stands around it. -/
structure IsTold (piece : Piece) : Prop where
  named : piece.1 ≠ []
  inName : ∀ c ∈ piece.1, c ≠ ' ' ∧ c ≠ '='
  inBody : ∀ body, piece.2 = some body → '"' ∉ body

theorem piecesInName_cons {c : Char} (plain : c ≠ ' ' ∧ c ≠ '=') (name rest : List Char) :
    piecesInName name (c :: rest) = piecesInName (name ++ [c]) rest := by
  rw [piecesInName]
  · exact plain.1
  · exact fun _ same _ => plain.2 same
  · exact plain.2

theorem piecesInName_append {chars : List Char} (plain : ∀ c ∈ chars, c ≠ ' ' ∧ c ≠ '=')
    (name rest : List Char) :
    piecesInName name (chars ++ rest) = piecesInName (name ++ chars) rest := by
  induction chars generalizing name with
  | nil => rw [List.nil_append, List.append_nil]
  | cons c others inductionHypothesis =>
      obtain ⟨first, rest⟩ := List.forall_mem_cons.mp plain
      rw [List.cons_append, piecesInName_cons first, inductionHypothesis rest, List.append_assoc,
        List.singleton_append]

theorem piecesInBody_append {chars : List Char} (unquoted : '"' ∉ chars)
    (name body rest : List Char) :
    piecesInBody name body (chars ++ rest) = piecesInBody name (body ++ chars) rest := by
  induction chars generalizing body with
  | nil => rw [List.nil_append, List.append_nil]
  | cons c others inductionHypothesis =>
      rw [List.cons_append, piecesInBody,
        inductionHypothesis (List.not_mem_of_not_mem_cons unquoted), List.append_assoc,
        List.singleton_append]
      exact (List.ne_of_not_mem_cons unquoted).symm

/-- A name leads to what is scanned within it from its first character on. -/
theorem piecesFrom_append {name : List Char} (named : name ≠ [])
    (plain : ∀ c ∈ name, c ≠ ' ' ∧ c ≠ '=') (rest : List Char) :
    piecesFrom (name ++ rest) = piecesInName name rest := by
  obtain ⟨first, others, rfl⟩ := List.exists_cons_of_ne_nil named
  obtain ⟨firstPlain, othersPlain⟩ := List.forall_mem_cons.mp plain
  rw [List.cons_append, piecesFrom, piecesInName_append othersPlain, List.singleton_append]
  · exact firstPlain.1
  · exact firstPlain.2

/-- A piece is found at the front of a text that goes on with a space or not at all. -/
theorem piecesFrom_piece {piece : Piece} (told : IsTold piece) {rest : List Char}
    (ends : rest = [] ∨ rest.head? = some ' ') :
    piecesFrom (piece.1 ++ assigned piece.2 ++ rest) = (piecesFrom rest).map (piece :: ·) := by
  obtain ⟨name, body⟩ := piece
  rw [List.append_assoc, piecesFrom_append told.named told.inName]
  cases body with
  | none =>
      rcases ends with rfl | spaced
      · rfl
      · obtain ⟨more, rfl⟩ := List.head?_eq_some_iff.mp spaced
        rfl
  | some body =>
      have chars : assigned (some body) ++ rest = '=' :: '"' :: (body ++ '"' :: rest) := by
        simp [assigned]
      rw [chars, piecesInName, piecesInBody_append (told.inBody body rfl), List.nil_append,
        piecesInBody]
      rcases ends with rfl | spaced
      · rfl
      · obtain ⟨more, rfl⟩ := List.head?_eq_some_iff.mp spaced
        rfl

/-- Pieces with a space before each are found in their order. -/
theorem piecesFrom_pieces {pieces : List Piece} (told : ∀ piece ∈ pieces, IsTold piece) :
    piecesFrom (pieces.flatMap fun piece => ' ' :: (piece.1 ++ assigned piece.2)) =
      some pieces := by
  induction pieces with
  | nil => rfl
  | cons piece rest inductionHypothesis =>
      obtain ⟨pieceTold, restTold⟩ := List.forall_mem_cons.mp told
      have ends : (rest.flatMap fun piece => ' ' :: (piece.1 ++ assigned piece.2)) = [] ∨
          (rest.flatMap fun piece => ' ' :: (piece.1 ++ assigned piece.2)).head? = some ' ' := by
        cases rest with
        | nil => exact .inl rfl
        | cons next others => exact .inr rfl
      rw [List.flatMap_cons, List.cons_append, piecesFrom, piecesFrom_piece pieceTold ends,
        inductionHypothesis restTold, Option.map_some]

/-! ## Fixed texts -/

theorem decoded?_escape (c : Char) (rest : List Char) :
    decoded? (attributeEscape c ++ rest) = (decoded? rest).map (c :: ·) := by
  unfold attributeEscape
  split
  · next ampersand =>
    rw [ampersand]
    rfl
  · next noAmpersand =>
    split
    · next quote =>
      rw [quote]
      rfl
    · split
      · next angle =>
        rw [angle]
        rfl
      · rw [List.singleton_append, decoded?]
        all_goals intros; contradiction

theorem decoded?_escaped (chars : List Char) :
    decoded? (chars.flatMap attributeEscape) = some chars := by
  induction chars with
  | nil => rfl
  | cons c rest inductionHypothesis =>
      rw [List.flatMap_cons, decoded?_escape, inductionHypothesis, Option.map_some]

theorem quote_not_mem_escape (c : Char) : '"' ∉ attributeEscape c := by
  unfold attributeEscape
  split
  · decide
  · split
    · decide
    · next noQuote =>
      split
      · decide
      · exact fun member => noQuote (List.mem_singleton.mp member).symm

theorem quote_not_mem_attributeText (text : String) : '"' ∉ (attributeText text).toList := by
  rw [attributeText, String.toList_ofList, List.mem_flatMap]
  rintro ⟨c, _, member⟩
  exact quote_not_mem_escape c member

/-! ## Code -/

theorem tokens_constant {chars : List Char} (plain : ∀ c ∈ chars, isConstantCharacter c = true)
    (word : List Char) : Literal.tokens word chars = Literal.finished (word ++ chars) := by
  induction chars generalizing word with
  | nil => rw [Literal.tokens, List.append_nil]
  | cons c others inductionHypothesis =>
      obtain ⟨first, rest⟩ := List.forall_mem_cons.mp plain
      simp only [isConstantCharacter, Bool.not_eq_true', Bool.or_eq_false_iff,
        decide_eq_false_iff_not] at first
      obtain ⟨⟨⟨⟨noGap, noOpening⟩, noClosing⟩, noComma⟩, _⟩ := first
      rw [Literal.tokens, noGap, if_neg Bool.false_ne_true, inductionHypothesis rest,
        List.append_assoc, List.singleton_append]
      · exact noOpening
      · exact noClosing
      · exact noComma

def reservedWords : List String := ["true", "false", "NaN", "Infinity"]

/-- The name of a constant that is no word of its own among literals is no literal. -/
theorem read?_constant {name : String} (isName : namesConstant name.toList = true)
    (unreserved : name ∉ reservedWords) : Literal.read? name = none := by
  have unnamed : ∀ word ∈ reservedWords, name.toList ≠ word.toList := fun word reserved same =>
    unreserved (String.toList_inj.mp same ▸ reserved)
  simp only [reservedWords, List.forall_mem_cons] at unnamed
  obtain ⟨noTrue, noFalse, noNaN, noInfinity, _⟩ := unnamed
  rw [Literal.read?]
  generalize name.toList = chars at isName noTrue noFalse noNaN noInfinity
  cases chars with
  | nil => cases isName
  | cons first rest =>
      obtain ⟨noNumber, plain⟩ := Bool.and_eq_true_iff.mp isName
      simp only [Bool.not_eq_true', Bool.or_eq_false_iff, decide_eq_false_iff_not] at noNumber
      obtain ⟨⟨⟨noDigit, noPoint⟩, noMinus⟩, noPlus⟩ := noNumber
      have unsigned : Decimal.splitSign (first :: rest) = (false, first :: rest) := by
        rw [Decimal.splitSign]
        · rintro _ same
          exact noMinus (List.cons.inj same).1
        · rintro _ same
          exact noPlus (List.cons.inj same).1
      have noMagnitude : Decimal.readMagnitude? (first :: rest) = none := by
        refine Option.eq_none_iff_forall_ne_some.mpr fun decimal read => ?_
        obtain ⟨_, _, same, digitOrPoint⟩ := Decimal.head_of_readMagnitude? read
        rw [← (List.cons.inj same).1, noDigit] at digitOrPoint
        exact digitOrPoint.elim Bool.false_ne_true noPoint
      have noWord : Literal.ofWord? (first :: rest) = none := by
        rw [Literal.ofWord?, unsigned]
        dsimp only
        rw [if_neg noTrue, if_neg noFalse, if_neg noNaN, if_neg noInfinity, noMagnitude,
          Option.bind_none]
      rw [tokens_constant (List.all_eq_true.mp plain), List.nil_append, Literal.finished,
        Literal.readValue, noWord, Option.bind_none]
      exact List.cons_ne_nil first rest

theorem quote_not_mem_constant {source : List Char} (isName : namesConstant source = true) :
    '"' ∉ source := by
  intro member
  cases source with
  | nil => cases member
  | cons first rest =>
      have plain := List.all_eq_true.mp (Bool.and_eq_true_iff.mp isName).2
      exact absurd (plain '"' member) (by decide)

/-! ## Values -/

end Attribute

/-- The values of properties: texts of any characters, names of constants that literals have no
word for, and nested lists of truth values and numbers. -/
inductive Value.IsProperty : Value → Prop where
  | text (content : String) : IsProperty (.text content)
  | constant {name : String} (isName : Attribute.namesConstant name.toList = true)
      (unreserved : name ∉ Attribute.reservedWords) : IsProperty (.constant name)
  | nested {value : Value} (nested : value.IsNested) : IsProperty value

namespace Attribute

/-- The piece that is written for a property. -/
def pieceOf (property : String × Value) : Piece :=
  (marked (contentOf property.2).isEvaluated property.1.toList, (contentOf property.2).body?)

theorem quote_not_mem_literal {value : Value} (nested : value.IsNested) :
    '"' ∉ value.literal.toList := fun member =>
  absurd (Value.isListed_of_mem_literal nested _ member) (by decide)

/-- A nested value is a flag, or its literal is written as code. -/
theorem contentOf_nested {value : Value} (nested : value.IsNested) :
    value = .bool true ∨ contentOf value = .code value.literal := by
  cases nested with
  | truth truth =>
      cases truth with
      | true => exact .inl rfl
      | false => exact .inr rfl
  | int number => exact .inr rfl
  | float x => exact .inr rfl
  | list each => exact .inr rfl

theorem attributeText_literal {value : Value} (nested : value.IsNested) :
    attributeText value.literal = value.literal :=
  attributeText_eq_self fun c member =>
    plain_of_isListed (Value.isListed_of_mem_literal nested c member)

theorem isTold_pieceOf {property : String × Value} (key : IsKey property.1)
    (isProperty : property.2.IsProperty) : IsTold (pieceOf property) := by
  obtain ⟨name, value⟩ := property
  obtain ⟨filled, _, plain⟩ := key
  have named : name.toList ≠ [] := mt String.toList_eq_nil_iff.mp filled
  refine ⟨?_, ?_, ?_⟩
  · unfold pieceOf marked
    split
    · exact List.cons_ne_nil _ _
    · exact named
  · unfold pieceOf marked
    split
    · exact List.forall_mem_cons.mpr ⟨by decide, plain⟩
    · exact plain
  · intro body isBody
    change (contentOf value).body? = some body at isBody
    dsimp only at isProperty
    cases isProperty with
    | text content =>
        cases isBody
        exact quote_not_mem_attributeText content
    | constant isName =>
        cases isBody
        exact quote_not_mem_constant isName
    | nested nested =>
        rcases contentOf_nested nested with flag | code
        · rw [flag] at isBody
          cases isBody
        · rw [code, AttributeContent.body?, attributeText_literal nested] at isBody
          cases isBody
          exact quote_not_mem_literal nested

theorem ofPiece?_unmarked {name : List Char} (unmarked : name.head? ≠ some ':') :
    Scanned.ofPiece? (name, none) = some (String.ofList name, .flag) ∧
      ∀ body, Scanned.ofPiece? (name, some body) =
        (decoded? body).map fun text => (String.ofList name, .fixed (String.ofList text)) := by
  cases name with
  | nil => exact ⟨rfl, fun _ => rfl⟩
  | cons first rest =>
      have noColon : first ≠ ':' := fun colon => unmarked (congrArg some colon)
      constructor
      · rw [Scanned.ofPiece?]
        exact fun _ same => noColon (List.cons.inj same).1
      · intro body
        rw [Scanned.ofPiece?]
        exact fun _ same => noColon (List.cons.inj same).1

/-- The piece of a property is read as that property. -/
theorem exists_ofPiece? {property : String × Value} (key : IsKey property.1)
    (isProperty : property.2.IsProperty) :
    ∃ scanned, Scanned.ofPiece? (pieceOf property) = some (property.1, scanned) ∧
      scanned.Denotes property.2 := by
  obtain ⟨name, value⟩ := property
  obtain ⟨flag, fixed⟩ := ofPiece?_unmarked key.2.1
  dsimp only at flag fixed isProperty
  cases isProperty with
  | text content =>
      refine ⟨.fixed content, ?_, .fixed content⟩
      change Scanned.ofPiece? (name.toList, some (attributeText content).toList) = _
      rw [fixed, attributeText, String.toList_ofList, decoded?_escaped, Option.map_some,
        String.ofList_toList, String.ofList_toList]
  | @constant source isName unreserved =>
      refine ⟨.constant source, ?_, .constant source⟩
      change (Scanned.ofSource? source.toList).map (String.ofList name.toList, ·) = _
      simp only [Scanned.ofSource?, String.ofList_toList, read?_constant isName unreserved,
        if_pos isName, Option.map_some]
  | nested nested =>
      rcases contentOf_nested nested with rfl | code
      · refine ⟨.flag, ?_, .flag⟩
        change Scanned.ofPiece? (name.toList, none) = _
        rw [flag, String.ofList_toList]
      · obtain ⟨read, isRead, denotes⟩ := Value.exists_read? nested
        refine ⟨.literal read, ?_, .literal denotes⟩
        rw [pieceOf, code]
        change (Scanned.ofSource? (attributeText value.literal).toList).map
          (String.ofList name.toList, ·) = _
        simp only [Scanned.ofSource?, attributeText_literal nested, String.ofList_toList, isRead,
          Option.map_some]

/-! ## Entries -/

theorem piecesFrom_following {properties : Properties}
    (written : ∀ property ∈ properties, IsKey property.1 ∧ property.2.IsProperty) :
    piecesFrom (following (properties.map ofProperty)).toList =
      some (properties.map pieceOf) := by
  have told : ∀ piece ∈ properties.map pieceOf, IsTold piece :=
    List.forall_mem_map.mpr fun property member =>
      isTold_pieceOf (written property member).1 (written property member).2
  have texts : ∀ property : String × Value, (ofProperty property).text.toList =
      (pieceOf property).1 ++ assigned (pieceOf property).2 := fun property =>
    toList_text (ofProperty property)
  rw [← piecesFrom_pieces told, toList_following_eq, List.flatMap_map, List.flatMap_map]
  simp only [texts]

/-- The pieces of properties are read one by one. -/
theorem exists_mapM_ofPiece? {properties : Properties}
    (written : ∀ property ∈ properties, IsKey property.1 ∧ property.2.IsProperty) :
    ∃ items, (properties.map pieceOf).mapM Scanned.ofPiece? = some items ∧
      List.Forall₂ (fun item property => item.1 = property.1 ∧ item.2.Denotes property.2)
        items properties := by
  induction properties with
  | nil => exact ⟨[], rfl, .nil⟩
  | cons property rest inductionHypothesis =>
      obtain ⟨⟨key, isProperty⟩, restWritten⟩ := List.forall_mem_cons.mp written
      obtain ⟨scanned, isRead, denotes⟩ := exists_ofPiece? key isProperty
      obtain ⟨items, areRead, denoteAll⟩ := inductionHypothesis restWritten
      refine ⟨(property.1, scanned) :: items, ?_, .cons ⟨rfl, denotes⟩ denoteAll⟩
      rw [List.map_cons, List.mapM_cons, isRead, areRead]
      rfl

end Attribute

/-- The parts of a transform that are not neutral. -/
def Transform.given (transform : Transform) : Properties :=
  [("position", transform.position), ("rotation", transform.rotation),
    ("scale", transform.scale)].filterMap fun part => part.2.map (part.1, ·)

theorem Transform.attributes_eq_given (transform : Transform) :
    transform.attributes = transform.given := by
  obtain ⟨position, rotation, scale⟩ := transform
  cases position <;> cases rotation <;> cases scale <;> rfl

namespace Attribute

theorem isKey_of_mem_given {transform : Transform} {part : String × Value}
    (member : part ∈ transform.given) : IsKey part.1 := by
  have names : ∀ name ∈ ["position", "rotation", "scale"], IsIdentifier name := by decide
  obtain ⟨listed, inList, isPart⟩ := List.mem_filterMap.mp member
  obtain ⟨_, _, rfl⟩ := Option.map_eq_some_iff.mp isPart
  exact isKey_of_isIdentifier (names listed.1 (List.mem_map_of_mem (f := Prod.fst) inList))

/-- The attributes of an entry are scanned as the parts of its transform and its properties, in
this order and with their values. -/
theorem scan?_entry {transform : Transform} {properties : Properties}
    (parts : ∀ part ∈ transform.given, part.2.IsNested)
    (written : ∀ property ∈ properties, IsKey property.1 ∧ property.2.IsProperty) :
    ∃ items, scan? (following (ofEntry properties transform)) = some items ∧
      List.Forall₂ (fun item property => item.1 = property.1 ∧ item.2.Denotes property.2)
        items (transform.given ++ properties) := by
  have allWritten : ∀ property ∈ transform.given ++ properties,
      IsKey property.1 ∧ property.2.IsProperty :=
    List.forall_mem_append.mpr
      ⟨fun part member => ⟨isKey_of_mem_given member, .nested (parts part member)⟩, written⟩
  obtain ⟨items, areRead, denoteAll⟩ := exists_mapM_ofPiece? allWritten
  refine ⟨items, ?_, denoteAll⟩
  rw [scan?, ofEntry, Transform.attributes_eq_given, piecesFrom_following allWritten,
    Option.bind_some, areRead]

def labelledEntry : Properties :=
  [("transparent", .bool true), ("label", .text "&amp;\" :side=\"<"),
    ("side", .constant "DoubleSide"), ("visible", .bool false),
    ("data_1", .list [.float (-0.0), .list [], .list [.bool true, .int (-2)]])]

def shiftedPlace : Transform :=
  { position := some (.triple 10.0 Binary64.undefined 2.5), scale := some (.triple 1.0 1.0 2.0) }

theorem labelledEntry_scanned :
    following (ofEntry labelledEntry shiftedPlace) =
      " :position=\"[10,NaN,2.5]\" :scale=\"[1,1,2]\" transparent" ++
        " label=\"&amp;amp;&quot; :side=&quot;&lt;\" :side=\"DoubleSide\" :visible=\"false\"" ++
        " :data_1=\"[0,[],[true,-2]]\"" ∧
      ∃ items, scan? (following (ofEntry labelledEntry shiftedPlace)) = some items ∧
        List.Forall₂ (fun item property => item.1 = property.1 ∧ item.2.Denotes property.2)
          items (shiftedPlace.given ++ labelledEntry) := by
  have triple : ∀ x y z, (Value.triple x y z).IsNested := fun x y z =>
    .list (by simp [Value.IsNested.float])
  have data : (Value.list [.float (-0.0), .list [], .list [.bool true, .int (-2)]]).IsNested :=
    .list (by
      simp [Value.IsNested.float, Value.IsNested.list, Value.IsNested.truth, Value.IsNested.int])
  refine ⟨by decide +kernel, scan?_entry ?_ ?_⟩
  · intro part member
    have isPart : part = ("position", .triple 10.0 Binary64.undefined 2.5) ∨
        part = ("scale", .triple 1.0 1.0 2.0) := by
      simpa [shiftedPlace, Transform.given] using member
    rcases isPart with rfl | rfl <;> exact triple _ _ _
  · have keys : ∀ property ∈ labelledEntry, IsIdentifier property.1 := by decide
    refine fun property member => ⟨isKey_of_isIdentifier (keys property member), ?_⟩
    simp only [labelledEntry, List.mem_cons, List.not_mem_nil, or_false] at member
    rcases member with rfl | rfl | rfl | rfl | rfl
    · exact .nested (.truth true)
    · exact .text _
    · exact .constant (namesConstant_of_isIdentifier (by decide)) (by decide)
    · exact .nested (.truth false)
    · exact .nested data

end Attribute

end SceneComponent
