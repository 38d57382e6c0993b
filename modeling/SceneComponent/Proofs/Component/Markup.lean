import Mathlib
import SceneComponent.Proofs.Component.TemplateLines
import SceneComponent.Proofs.Inventory.Identifiers
import SceneComponent.Proofs.Text.Marks

/-!
# Markup of elements

The less-than signs of a laid out element open its tags, close them and begin its
remarks.  There are no others, for what an attribute holds is escaped, unless it is a
script constant, and the names, constants and remarks of a template hold none.  So a
reader of such signs reads the tags of an element in their order, and those of a
template whose type names are words.
-/

set_option autoImplicit false

namespace SceneComponent

open Text

def IsUnmarked (text : String) : Prop := '<' ∉ text.toList

instance : DecidablePred IsUnmarked := fun text =>
  inferInstanceAs (Decidable ('<' ∉ text.toList))

theorem isUnmarked_attributeText (text : String) : IsUnmarked (attributeText text) := by
  rw [IsUnmarked, attributeText, String.toList_ofList]
  intro member
  obtain ⟨c, _, escaped⟩ := List.mem_flatMap.mp member
  unfold attributeEscape at escaped
  split at escaped
  · simp at escaped
  · split at escaped
    · simp at escaped
    · split at escaped
      · simp at escaped
      · next different => exact different (List.mem_singleton.mp escaped).symm

theorem isUnmarked_of_isRest {text : String}
    (rest : ∀ c ∈ text.toList, Identifier.isRest c = true) : IsUnmarked text :=
  fun member => absurd (rest _ member) (by decide)

/-- An attribute holds no less-than sign unless its name does, or a constant in it. -/
theorem Attribute.isUnmarked_text {item : Attribute} (name : IsUnmarked item.name)
    (constant : ∀ name, item.content = .constant name → IsUnmarked name) :
    IsUnmarked item.text := by
  unfold IsUnmarked at name
  unfold IsUnmarked text
  cases made : item.content with
  | flag => exact name
  | fixed content => simpa using ⟨name, isUnmarked_attributeText content⟩
  | constant bound => simpa using ⟨name, constant bound made⟩
  | code source => simpa using ⟨name, isUnmarked_attributeText source⟩

/-! ## Tags read off their signs -/

section

variable {β : Type} {read : List Char → Option β} {opened : String → Option β}

/-- Whether a reader tells the opening tags of elements, line by line, and passes over
their remarks. -/
structure ReadsOpenings (read : List Char → Option β) (opened : String → Option β) : Prop where
  stops : StopsAt read '\n'
  remark : ∀ text, read ('!' :: text) = none
  opening : ∀ tag, IsIdentifier tag → ∀ back : List Char,
    (∀ c, back.head? = some c → Identifier.isRest c = false) →
      read (tag.toList ++ back) = opened tag

/-- Whether a reader passes over the closing tag of an element. -/
def PassesClosing (read : List Char → Option β) (tag : String) : Prop :=
  read ("/" ++ tag ++ ">").toList = none

namespace ReadsOpenings

theorem remarkLine (reads : ReadsOpenings read opened) {text : String}
    (plain : IsUnmarked text) : afterMarks read (Element.remarkLine text) = [] := by
  have front : ("!-- " ++ text ++ " -->").toList = '!' :: ("-- " ++ text ++ " -->").toList := by
    simp
  have unmarked : '<' ∉ ("!-- " ++ text ++ " -->").toList := by
    simpa [IsUnmarked] using plain
  rw [Element.remarkLine, afterMarks_mark, afterMarks_unmarked unmarked, front, reads.remark]
  rfl

theorem tagLine (reads : ReadsOpenings read opened) {tag back : String}
    {attributes : List Attribute} (tagged : IsIdentifier tag)
    (plain : ∀ item ∈ attributes, IsUnmarked item.text)
    (ends : ∀ c, back.toList.head? = some c → Identifier.isRest c = false)
    (backPlain : IsUnmarked back) :
    afterMarks read (Element.tagLine tag attributes back) = (opened tag).toList := by
  have following := Attribute.not_mem_following (by decide) plain
  have name := isUnmarked_of_isRest (Identifier.isRest_of_spells tagged)
  have unmarked : '<' ∉ (tag ++ Attribute.following attributes ++ back).toList := by
    unfold IsUnmarked at name backPlain
    simp [following, name, backPlain]
  have stop : ∀ c, ((Attribute.following attributes).toList ++
      back.toList).head? = some c → Identifier.isRest c = false := by
    intro c head
    rcases LineKind.head?_following head with rfl | inBack
    · decide
    · exact ends c inBack
  rw [Element.tagLine, afterMarks_mark, afterMarks_unmarked unmarked, List.append_nil,
    String.toList_append, String.toList_append, List.append_assoc, reads.opening tag tagged _ stop]

theorem closingLine {tag : String} (tagged : IsIdentifier tag) (passes : PassesClosing read tag) :
    afterMarks read (Element.closingLine tag) = [] := by
  have name := isUnmarked_of_isRest (Identifier.isRest_of_spells tagged)
  have unmarked : '<' ∉ ("/" ++ tag ++ ">").toList := by
    simpa [IsUnmarked] using name
  rw [Element.closingLine, afterMarks_mark, afterMarks_unmarked unmarked, passes]
  rfl

mutual

theorem lines (reads : ReadsOpenings read opened) : ∀ element : Element,
    (∀ tag ∈ element.tags, IsIdentifier tag ∧ PassesClosing read tag) →
    (∀ item ∈ element.attributesIn, IsUnmarked item.text) →
    (∀ text ∈ element.remarks, IsUnmarked text) →
      element.lines.flatMap (afterMarks read) = element.tags.filterMap opened
  | .blank, _, _, _ => rfl
  | .comment text, _, _, remarks => by
      rw [Element.lines_comment, List.flatMap_singleton,
        reads.remarkLine (remarks text (List.mem_singleton_self _))]
      rfl
  | .leaf tag attributes, tagged, plain, _ => by
      rw [Element.attributesIn] at plain
      rw [Element.lines_leaf, List.flatMap_singleton,
        reads.tagLine (tagged tag (List.mem_singleton_self _)).1 plain endsLeaf (by decide),
        Element.tags, List.filterMap_cons]
      cases opened tag <;> rfl
  | .branch tag attributes content, tagged, plain, remarks => by
      obtain ⟨⟨spelled, passes⟩, contentTagged⟩ := List.forall_mem_cons.mp tagged
      obtain ⟨own, contentPlain⟩ := List.forall_mem_append.mp plain
      rw [Element.lines_branch, List.flatMap_append, List.flatMap_cons, List.flatMap_singleton,
        reads.tagLine spelled own endsOpening (by decide),
        reads.linesOf content contentTagged contentPlain remarks, closingLine spelled passes,
        List.append_nil, Element.tags, List.filterMap_cons]
      cases opened tag <;> rfl

theorem linesOf (reads : ReadsOpenings read opened) : ∀ elements : List Element,
    (∀ tag ∈ Element.tagsOf elements, IsIdentifier tag ∧ PassesClosing read tag) →
    (∀ item ∈ Element.attributesOf elements, IsUnmarked item.text) →
    (∀ text ∈ Element.remarksOf elements, IsUnmarked text) →
      (Element.linesOf elements).flatMap (afterMarks read) =
        (Element.tagsOf elements).filterMap opened
  | [], _, _, _ => rfl
  | element :: rest, tagged, plain, remarks => by
      obtain ⟨firstTagged, restTagged⟩ := List.forall_mem_append.mp tagged
      obtain ⟨firstPlain, restPlain⟩ := List.forall_mem_append.mp plain
      obtain ⟨firstRemarks, restRemarks⟩ := List.forall_mem_append.mp remarks
      rw [Element.linesOf_cons, List.flatMap_append,
        reads.lines element firstTagged firstPlain firstRemarks,
        reads.linesOf rest restTagged restPlain restRemarks, Element.tagsOf,
        List.filterMap_append]

end

theorem laidOut (reads : ReadsOpenings read opened) {element : Element} (level : Int)
    (tagged : ∀ tag ∈ element.tags, IsIdentifier tag ∧ PassesClosing read tag)
    (plain : ∀ item ∈ element.attributesIn, IsUnmarked item.text)
    (remarks : ∀ text ∈ element.remarks, IsUnmarked text) :
    afterMarks read (laidOut level element.steps).toList = element.tags.filterMap opened := by
  rw [afterMarks_laidOut reads.stops, ← reads.lines element tagged plain remarks, Element.lines,
    List.flatMap_assoc]
  rfl

end ReadsOpenings

end

/-! ## Names of tags -/

namespace Text

/-- The letters, digits and underscores at the front, if there are any. -/
def leadingWord? (text : List Char) : Option String :=
  let word := text.takeWhile Identifier.isRest
  if word.isEmpty then none else some (String.ofList word)

theorem stopsAt_leadingWord? {stop : Char} (separates : Identifier.isRest stop = false) :
    StopsAt leadingWord? stop := by
  intro front back
  have same : (front ++ stop :: back).takeWhile Identifier.isRest =
      front.takeWhile Identifier.isRest := by
    induction front with
    | nil => simp [separates]
    | cons c rest inductionHypothesis =>
        rw [List.cons_append, List.takeWhile_cons, List.takeWhile_cons, inductionHypothesis]
  unfold leadingWord?
  rw [same]

theorem leadingWord?_none {c : Char} (separates : Identifier.isRest c = false)
    (rest : List Char) : leadingWord? (c :: rest) = none := by
  simp [leadingWord?, separates]

theorem leadingWord?_append {word : String} (spelled : IsIdentifier word) {back : List Char}
    (ends : ∀ c, back.head? = some c → Identifier.isRest c = false) :
    leadingWord? (word.toList ++ back) = some word := by
  have filled : word.toList.isEmpty = false := by
    refine List.isEmpty_eq_false_iff.mpr ?_
    intro none
    rw [IsIdentifier, none] at spelled
    cases spelled
  unfold leadingWord?
  rw [takeWhile_cut (Identifier.isRest_of_spells spelled) ends]
  simp only [filled, Bool.false_eq_true, if_false, String.ofList_toList]

/-- The names of the tags that a text opens. -/
def openedTags (text : String) : List String := afterMarks leadingWord? text.toList

theorem readsOpenings_leadingWord? : ReadsOpenings leadingWord? some where
  stops := stopsAt_leadingWord? (by decide)
  remark := leadingWord?_none (by decide)
  opening := fun _ spelled _ => leadingWord?_append spelled

end Text

/-- The tags of an element are read back from its text. -/
theorem Element.openedTags_laidOut {element : Element} (level : Int)
    (tagged : ∀ tag ∈ element.tags, IsIdentifier tag)
    (plain : ∀ item ∈ element.attributesIn, IsUnmarked item.text)
    (remarks : ∀ text ∈ element.remarks, IsUnmarked text) :
    openedTags (laidOut level element.steps) = element.tags := by
  have passes : ∀ tag, PassesClosing leadingWord? tag := by
    intro tag
    have front : ("/" ++ tag ++ ">").toList = '/' :: (tag ++ ">").toList := by simp
    rw [PassesClosing, front]
    exact leadingWord?_none (by decide) _
  rw [openedTags, readsOpenings_leadingWord?.laidOut level
    (fun tag member => ⟨tagged tag member, passes tag⟩) plain remarks, List.filterMap_some]

/-! ## Templates -/

theorem IsWord.isUnmarked {text : String} (word : IsWord text) : IsUnmarked text :=
  isUnmarked_of_isRest fun c member => Identifier.isRest_of_isAlphanumeric (word c member)

namespace Template

open Element

variable {inventory : Inventory}

theorem isUnmarked_sources : HoldsOfSources fun item => IsUnmarked item.text where
  fixed := by decide
  property := by
    intro name value word regular
    refine Attribute.isUnmarked_text word.isUnmarked ?_
    intro constant made
    cases regular with
    | side side =>
        obtain rfl : side.name = constant := AttributeContent.constant.inj made
        cases side <;> decide
    | _ => cases made
  numbers := by
    intro name numbers word
    refine Attribute.isUnmarked_text word.isUnmarked ?_
    intro constant made
    cases made

theorem isUnmarked_remarks {IsType : String → Prop} (regular : inventory.IsRegular IsType)
    (style : Style) : ∀ text ∈ (root inventory style).remarks, IsUnmarked text := by
  rw [remarks_root, List.forall_mem_append, List.forall_mem_map, List.forall_mem_singleton]
  exact ⟨fun entry member => isUnmarked_of_isRest
    (Identifier.isRest_of_spells (regular.meshes entry member).name), by decide⟩

/-- All tags but that of the whole scene begin with the stem. -/
theorem stem_of_mem_tags (regular : inventory.IsRegular IsTypeName) {style : Style}
    {tag : String} (member : tag ∈ (root inventory style).tags) :
    tag = "primitive" ∨ ∃ rest : String,
      (∀ c ∈ rest.toList, Identifier.isRest c = true) ∧ tag = tagStem ++ rest := by
  rw [tags_root, List.mem_cons, List.mem_append, List.mem_singleton] at member
  rcases member with rfl | inEntries | rfl
  · have plain : "Group".toList.all Identifier.isRest = true := by decide
    exact .inr ⟨"Group", List.all_eq_true.mp plain, rfl⟩
  · have restPlain := regular.isRest_of_mem_entryTags inEntries
    obtain ⟨rest, chars⟩ := List.isPrefixOf_iff_prefix.mp
      (regular.isFrameworkName_of_mem_entryTags inEntries)
    obtain rfl : tagStem ++ String.ofList rest = tag := by
      apply String.toList_inj.mp
      simpa using chars
    rw [String.toList_append, List.forall_mem_append] at restPlain
    exact .inr ⟨String.ofList rest, restPlain.2, rfl⟩
  · exact .inl rfl

theorem isIdentifier_of_mem_tags (regular : inventory.IsRegular IsTypeName) {style : Style}
    {tag : String} (member : tag ∈ (root inventory style).tags) : IsIdentifier tag := by
  rcases stem_of_mem_tags regular member with rfl | ⟨rest, plain, rfl⟩
  · decide
  · exact isIdentifier_frameworkName plain

/-- The tags of a template are read back from its text. -/
theorem openedTags_block (regular : inventory.IsRegular IsTypeName) (style : Style) :
    openedTags (block inventory style) = (root inventory style).tags :=
  openedTags_laidOut 1 (fun _ => isIdentifier_of_mem_tags regular)
    (isUnmarked_sources.root regular style) (isUnmarked_remarks regular style)

end Template

end SceneComponent
