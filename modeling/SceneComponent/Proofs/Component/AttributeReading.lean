import Mathlib
import SceneComponent.Component.Element
import SceneComponent.Proofs.Inventory.Contents
import SceneComponent.Proofs.Text.Trimming
import SceneComponent.Proofs.Value.Literals

/-!
# Reading attributes

The text of an attribute is a mark, a name and perhaps a body between quotes.  From it
the name and the value can be told, for the values that surveys give to properties.  So
from the beginning of an element's line its tag and its properties can be told.
-/

set_option autoImplicit false

namespace SceneComponent

open Text Binary64

/-! ## Values that can be told from their texts -/

/-- The values of the properties of entries: flags, colours, sides, numbers and lists of
numbers, where no zero has a sign. -/
inductive Value.IsExact : Value → Prop where
  | flag : IsExact (.bool true)
  | color (digits : List Char) (alphanumeric : ∀ c ∈ digits, isAsciiAlphanumeric c = true) :
      IsExact (.text ("#" ++ String.ofList digits))
  | side (side : Side) : IsExact (.constant side.name)
  | number (x : Float) (unsigned : ¬ IsNegativeZero x) : IsExact (.float x)
  | numbers (xs : List Float) (unsigned : Value.AreUnsigned xs) : IsExact (.list (xs.map .float))

def Text.isNameCharacter (c : Char) : Bool := isAsciiAlphanumeric c || c = '-'

/-- Whether a text can be the name of an attribute. -/
def IsAttributeName (name : String) : Prop :=
  name.toList ≠ [] ∧ ∀ c ∈ name.toList, isNameCharacter c = true

instance (name : String) : Decidable (IsAttributeName name) :=
  decidable_of_iff (name.toList ≠ [] ∧ name.toList.all isNameCharacter = true)
    (and_congr_right fun _ => List.all_eq_true)

/-- Properties under names of attributes with values that can be told from their texts. -/
def Properties.AreExact (properties : Properties) : Prop :=
  ∀ property ∈ properties, IsAttributeName property.1 ∧ property.2.IsExact

/-! ## Parts of an attribute -/

namespace AttributeContent

def isEvaluated : AttributeContent → Bool
  | .flag => false
  | .fixed _ => false
  | .constant _ => true
  | .code _ => true

def body? : AttributeContent → Option (List Char)
  | .flag => none
  | .fixed text => some (attributeText text).toList
  | .constant name => some name.toList
  | .code source => some (attributeText source).toList

end AttributeContent

namespace Attribute

/-- A name as it is written, with a colon before it where the value is evaluated. -/
def marked (evaluated : Bool) (name : List Char) : List Char :=
  if evaluated then ':' :: name else name

def assigned : Option (List Char) → List Char
  | none => []
  | some body => '=' :: '"' :: (body ++ ['"'])

theorem toList_text (item : Attribute) :
    item.text.toList =
      marked item.content.isEvaluated item.name.toList ++ assigned item.content.body? := by
  have quote : "\"".toList = ['"'] := rfl
  have opening : "=\"".toList = ['=', '"'] := rfl
  have colon : ":".toList = [':'] := rfl
  unfold text
  cases item.content with
  | flag => simp [marked, AttributeContent.isEvaluated, AttributeContent.body?, assigned]
  | fixed content =>
      simp [marked, AttributeContent.isEvaluated, AttributeContent.body?, assigned, quote, opening]
  | constant name =>
      simp [marked, AttributeContent.isEvaluated, AttributeContent.body?, assigned, quote, opening,
        colon]
  | code source =>
      simp [marked, AttributeContent.isEvaluated, AttributeContent.body?, assigned, quote, opening,
        colon]

theorem assigned_injective : Function.Injective assigned := by
  intro left right same
  cases left with
  | none =>
      cases right with
      | none => rfl
      | some body => simp [assigned] at same
  | some body =>
      cases right with
      | none => simp [assigned] at same
      | some other => simpa [assigned] using same

theorem head?_assigned {body : Option (List Char)} {c : Char}
    (head : (assigned body).head? = some c) : c = '=' := by
  cases body with
  | none => cases head
  | some body => exact (Option.some.inj head).symm

theorem marked_injective {left right : Bool} {name other : List Char}
    (named : name.head? ≠ some ':') (otherNamed : other.head? ≠ some ':')
    (same : marked left name = marked right other) : left = right ∧ name = other := by
  cases left with
  | true =>
      cases right with
      | true => exact ⟨rfl, (List.cons.inj same).2⟩
      | false => exact absurd (congrArg List.head? same).symm otherNamed
  | false =>
      cases right with
      | true => exact absurd (congrArg List.head? same) named
      | false => exact ⟨rfl, same⟩

theorem ne_of_mem_name {name : String} (named : IsAttributeName name) {c other : Char}
    (member : c ∈ name.toList) (excluded : isNameCharacter other = false) : c ≠ other := by
  rintro rfl
  rw [named.2 c member] at excluded
  cases excluded

/-- Mark, name and body are told from the text: the name holds no colon and no equals
sign. -/
theorem parts_of_text {left right : Attribute} (leftName : IsAttributeName left.name)
    (rightName : IsAttributeName right.name) (same : left.text = right.text) :
    left.name = right.name ∧ left.content.isEvaluated = right.content.isEvaluated ∧
      left.content.body? = right.content.body? := by
  have chars := congrArg String.toList same
  rw [toList_text, toList_text] at chars
  have inside : ∀ (evaluated : Bool) {name : String}, IsAttributeName name →
      ∀ c ∈ marked evaluated name.toList, (c != '=') = true := by
    intro evaluated name named c member
    rw [bne_iff_ne]
    cases evaluated with
    | true =>
        rcases List.mem_cons.mp member with rfl | inName
        · decide
        · exact ne_of_mem_name named inName (by decide)
    | false => exact ne_of_mem_name named member (by decide)
  have stop : ∀ (body : Option (List Char)) (c : Char), (assigned body).head? = some c →
      (c != '=') = false := by
    intro body c head
    rw [head?_assigned head]
    rfl
  have fronts := congrArg (List.takeWhile (· != '=')) chars
  have backs := congrArg (List.dropWhile (· != '=')) chars
  rw [takeWhile_cut (inside _ leftName) (stop _), takeWhile_cut (inside _ rightName) (stop _)]
    at fronts
  rw [dropWhile_cut (inside _ leftName) (stop _), dropWhile_cut (inside _ rightName) (stop _)]
    at backs
  have unmarked : ∀ {name : String}, IsAttributeName name → name.toList.head? ≠ some ':' :=
    fun named head => ne_of_mem_name named (List.mem_of_mem_head? head) (by decide) rfl
  obtain ⟨marks, names⟩ := marked_injective (unmarked leftName) (unmarked rightName) fronts
  exact ⟨String.toList_inj.mp names, marks, assigned_injective backs⟩

/-! ## Values from bodies -/

/-- Characters that need no entity stand for themselves. -/
theorem attributeText_eq_self {text : String}
    (plain : ∀ c ∈ text.toList, c ≠ '&' ∧ c ≠ '"' ∧ c ≠ '<') : attributeText text = text := by
  have kept : text.toList.flatMap attributeEscape = text.toList.flatMap fun c => [c] := by
    refine List.flatMap_congr fun c member => ?_
    obtain ⟨noAmpersand, noQuote, noAngle⟩ := plain c member
    rw [attributeEscape, if_neg noAmpersand, if_neg noQuote, if_neg noAngle]
  rw [attributeText, kept, List.flatMap_singleton', String.ofList_toList]

theorem plain_of_isListed {c : Char} (listed : isListed c = true) :
    c ≠ '&' ∧ c ≠ '"' ∧ c ≠ '<' := by
  refine ⟨?_, ?_, ?_⟩
  all_goals
    rintro rfl
    exact absurd listed (by decide)

theorem body?_color {digits : List Char}
    (alphanumeric : ∀ c ∈ digits, isAsciiAlphanumeric c = true) :
    (contentOf (.text ("#" ++ String.ofList digits))).body? = some ('#' :: digits) := by
  have chars : ("#" ++ String.ofList digits).toList = '#' :: digits := by simp
  have plain : ∀ c ∈ '#' :: digits, c ≠ '&' ∧ c ≠ '"' ∧ c ≠ '<' := by
    refine List.forall_mem_cons.mpr ⟨by decide, fun c member => ?_⟩
    exact plain_of_isListed (isListed_of_isNumeral
      (isNumeral_of_isAlphanumeric (alphanumeric c member)))
  rw [contentOf, AttributeContent.body?, attributeText_eq_self (chars.symm ▸ plain), chars]

theorem body?_number (x : Float) :
    (contentOf (.float x)).body? = some (Value.doubleLiteral x).toList := by
  have plain : ∀ c ∈ (Value.doubleLiteral x).toList, c ≠ '&' ∧ c ≠ '"' ∧ c ≠ '<' := fun c member =>
    plain_of_isListed (isListed_of_isNumeral (Value.isNumeral_of_mem_doubleLiteral x c member))
  change some (attributeText (Value.doubleLiteral x)).toList = _
  rw [attributeText_eq_self plain]

theorem body?_numbers (xs : List Float) :
    (contentOf (.list (xs.map .float))).body? =
      some (Value.literal (.list (xs.map .float))).toList := by
  have plain : ∀ c ∈ (Value.literal (.list (xs.map .float))).toList,
      c ≠ '&' ∧ c ≠ '"' ∧ c ≠ '<' := fun c member =>
    plain_of_isListed (Value.isListed_of_mem_list_literal xs c member)
  change some (attributeText (Value.literal (.list (xs.map .float)))).toList = _
  rw [attributeText_eq_self plain]

/-- The value of an attribute from its mark and body. -/
def valueOf : Bool → Option (List Char) → Value
  | _, none => .bool true
  | true, some body => .ofSource body
  | false, some body => .text (String.ofList body)

theorem valueOf_contentOf {value : Value} (told : value.IsExact) :
    valueOf (contentOf value).isEvaluated (contentOf value).body? = value := by
  cases told with
  | flag => rfl
  | color digits alphanumeric =>
      have fixed : (contentOf (.text ("#" ++ String.ofList digits))).isEvaluated = false := rfl
      rw [fixed, body?_color alphanumeric, valueOf]
      exact congrArg Value.text (String.toList_inj.mp (by simp))
  | side side => cases side <;> rfl
  | number x unsigned =>
      have evaluated : (contentOf (.float x)).isEvaluated = true := rfl
      rw [evaluated, body?_number, valueOf, Value.ofSource_number unsigned]
  | numbers xs unsigned =>
      have evaluated : (contentOf (.list (xs.map .float))).isEvaluated = true := rfl
      rw [evaluated, body?_numbers, valueOf, Value.ofSource_numbers unsigned]

/-- Name and value of a property are told from the text of its attribute. -/
theorem ofProperty_injective {left right : String × Value} (leftName : IsAttributeName left.1)
    (leftExact : left.2.IsExact) (rightName : IsAttributeName right.1)
    (rightExact : right.2.IsExact) (same : (ofProperty left).text = (ofProperty right).text) :
    left = right := by
  obtain ⟨names, evaluated, body⟩ := parts_of_text leftName rightName same
  refine Prod.ext names ?_
  calc left.2 = valueOf (contentOf left.2).isEvaluated (contentOf left.2).body? :=
        (valueOf_contentOf leftExact).symm
    _ = valueOf (contentOf right.2).isEvaluated (contentOf right.2).body? :=
        congrArg₂ valueOf evaluated body
    _ = right.2 := valueOf_contentOf rightExact

/-! ## Beginnings of elements -/

/-- Attributes stand behind a tag with a space before each. -/
theorem toList_following_eq (attributes : List Attribute) :
    (following attributes).toList = attributes.flatMap fun item => ' ' :: item.text.toList := by
  induction attributes with
  | nil => rfl
  | cons first rest inductionHypothesis =>
      rw [List.flatMap_cons, ← inductionHypothesis]
      cases rest <;> simp [following, joined]

theorem toList_following (tag : String) (attributes : List Attribute) :
    (tag ++ following attributes).toList =
      [' '].intercalate (tag.toList :: attributes.map fun item => item.text.toList) := by
  have blank : " ".toList = [' '] := rfl
  unfold following joined
  cases attributes with
  | nil => simp
  | cons first rest =>
      rw [if_neg (by simp), String.toList_append, String.toList_append, String.toList_intercalate,
        List.map_map, List.map_cons, List.map_cons, List.intercalate_cons_cons, blank,
        List.append_assoc]
      rfl

theorem blank_not_mem_marked {name : String} (named : IsAttributeName name) (evaluated : Bool) :
    ' ' ∉ marked evaluated name.toList := by
  intro member
  cases evaluated with
  | true =>
      rcases List.mem_cons.mp member with colon | inName
      · exact absurd colon (by decide)
      · exact ne_of_mem_name named inName (by decide) rfl
  | false => exact ne_of_mem_name named member (by decide) rfl

theorem blank_not_mem_body {value : Value} (told : value.IsExact) {body : List Char}
    (isBody : (contentOf value).body? = some body) : ' ' ∉ body := by
  cases told with
  | flag => cases isBody
  | color digits alphanumeric =>
      rw [body?_color alphanumeric] at isBody
      cases isBody
      exact List.not_mem_cons_of_ne_of_not_mem (by decide) fun member =>
        absurd (alphanumeric _ member) (by decide)
  | side side =>
      cases isBody
      cases side <;> decide
  | number x =>
      rw [body?_number] at isBody
      cases isBody
      exact fun member => absurd (Value.isNumeral_of_mem_doubleLiteral x _ member) (by decide)
  | numbers xs =>
      rw [body?_numbers] at isBody
      cases isBody
      exact fun member => absurd (Value.isListed_of_mem_list_literal xs _ member) (by decide)

theorem blank_not_mem_text {property : String × Value} (named : IsAttributeName property.1)
    (told : property.2.IsExact) : ' ' ∉ (ofProperty property).text.toList := by
  rw [toList_text]
  intro member
  rcases List.mem_append.mp member with front | back
  · exact blank_not_mem_marked named _ front
  · change ' ' ∈ assigned (contentOf property.2).body? at back
    cases body : (contentOf property.2).body? with
    | none => simp [body, assigned] at back
    | some chars =>
        simp [body, assigned] at back
        exact blank_not_mem_body told body back

theorem text_ne_nil {property : String × Value} (named : IsAttributeName property.1) :
    (ofProperty property).text.toList ≠ [] := by
  rw [toList_text]
  intro empty
  have nameEmpty := (List.append_eq_nil_iff.mp empty).1
  unfold marked at nameEmpty
  split at nameEmpty
  · cases nameEmpty
  · exact named.1 nameEmpty

theorem texts_injective {left right : Properties} (leftExact : left.AreExact)
    (rightExact : right.AreExact)
    (same : left.map ((fun item => item.text.toList) ∘ ofProperty) =
      right.map ((fun item => item.text.toList) ∘ ofProperty)) : left = right := by
  refine eq_of_map_eq (fun property inLeft other inRight texts => ?_) same
  obtain ⟨named, value⟩ := leftExact property inLeft
  obtain ⟨otherNamed, otherValue⟩ := rightExact other inRight
  exact ofProperty_injective named value otherNamed otherValue (String.toList_inj.mp texts)

/-- Tag and properties of an element are told from the beginning of its line. -/
theorem following_injective {tag other : String} {left right : Properties}
    (tagFilled : tag ≠ "") (tagSolid : ' ' ∉ tag.toList) (otherFilled : other ≠ "")
    (otherSolid : ' ' ∉ other.toList) (leftExact : left.AreExact) (rightExact : right.AreExact)
    (same : tag ++ following (left.map ofProperty) = other ++ following (right.map ofProperty)) :
    tag = other ∧ left = right := by
  have chars := congrArg String.toList same
  rw [toList_following, toList_following, List.map_map, List.map_map] at chars
  have solid : ∀ {properties : Properties}, properties.AreExact →
      ∀ piece ∈ properties.map ((fun item => item.text.toList) ∘ ofProperty), ' ' ∉ piece :=
    fun told => List.forall_mem_map.mpr fun property member =>
      blank_not_mem_text (told property member).1 (told property member).2
  have filled : ∀ {properties : Properties}, properties.AreExact →
      ∀ piece ∈ properties.map ((fun item => item.text.toList) ∘ ofProperty), piece ≠ [] :=
    fun told => List.forall_mem_map.mpr fun property member =>
      text_ne_nil (told property member).1
  have nonempty : ∀ {text : String}, text ≠ "" → text.toList ≠ [] := fun filled empty =>
    filled (String.toList_eq_nil_iff.mp empty)
  have pieces := congrArg (piecesAt ' ') chars
  rw [piecesAt_intercalate (List.forall_mem_cons.mpr ⟨tagSolid, solid leftExact⟩)
      (List.forall_mem_cons.mpr ⟨nonempty tagFilled, filled leftExact⟩),
    piecesAt_intercalate (List.forall_mem_cons.mpr ⟨otherSolid, solid rightExact⟩)
      (List.forall_mem_cons.mpr ⟨nonempty otherFilled, filled rightExact⟩)] at pieces
  obtain ⟨tags, texts⟩ := List.cons.inj pieces
  exact ⟨String.toList_inj.mp tags, texts_injective leftExact rightExact texts⟩

end Attribute

end SceneComponent
