import Mathlib
import SceneComponent.Component.Template
import SceneComponent.Proofs.Inventory.Exactness

/-!
# Lines of templates

An entry is laid out as one line, a mesh as five.  The last letter of a tag tells the lines
of lights, cameras, meshes, geometries and materials apart, and remarks begin with a mark
of their own, so that the lines of a template can be sorted by what they show.
-/

set_option autoImplicit false

namespace SceneComponent

open Text

/-! ## Lines of elements -/

namespace Element

def lines (element : Element) : List (List Char) := element.steps.flatMap LayoutStep.bare

def linesOf (elements : List Element) : List (List Char) :=
  (stepsOf elements).flatMap LayoutStep.bare

/-- The line of a tag with attributes and what ends it. -/
def tagLine (tag : String) (attributes : List Attribute) (back : String) : List Char :=
  '<' :: (tag ++ Attribute.following attributes ++ back).toList

def remarkLine (text : String) : List Char := '<' :: ("!-- " ++ text ++ " -->").toList

def closingLine (tag : String) : List Char := '<' :: ("/" ++ tag ++ ">").toList

theorem bare_markup (chars : List Char) :
    LayoutStep.bare (.line (String.ofList ('<' :: chars))) = ['<' :: chars] := by
  rw [LayoutStep.bare, String.toList_ofList, unindented_visible (by simp)]

theorem lines_comment (text : String) : (Element.comment text).lines = [remarkLine text] := by
  have chars : "<!-- " ++ text ++ " -->" = String.ofList (remarkLine text) := by
    apply String.toList_inj.mp
    simp [remarkLine]
  rw [lines, steps, List.flatMap_singleton, chars]
  exact bare_markup _

theorem lines_leaf (tag : String) (attributes : List Attribute) :
    (Element.leaf tag attributes).lines = [tagLine tag attributes " />"] := by
  have chars : "<" ++ tag ++ Attribute.following attributes ++ " />" =
      String.ofList (tagLine tag attributes " />") := by
    apply String.toList_inj.mp
    simp [tagLine]
  rw [lines, steps, List.flatMap_singleton, chars]
  exact bare_markup _

theorem lines_branch (tag : String) (attributes : List Attribute) (content : List Element) :
    (Element.branch tag attributes content).lines =
      tagLine tag attributes ">" :: linesOf content ++ [closingLine tag] := by
  have opening : "<" ++ tag ++ Attribute.following attributes ++ ">" =
      String.ofList (tagLine tag attributes ">") := by
    apply String.toList_inj.mp
    simp [tagLine]
  have closing : "</" ++ tag ++ ">" = String.ofList (closingLine tag) := by
    apply String.toList_inj.mp
    simp [closingLine]
  rw [lines, steps, List.flatMap_append, List.flatMap_cons, flatMap_bare_deeper,
    List.flatMap_singleton, opening, closing, closingLine, tagLine, bare_markup, bare_markup]
  rfl

theorem linesOf_cons (element : Element) (rest : List Element) :
    linesOf (element :: rest) = element.lines ++ linesOf rest := by
  rw [linesOf, stepsOf, List.flatMap_append]
  rfl

theorem linesOf_eq (elements : List Element) : linesOf elements = elements.flatMap lines := by
  induction elements with
  | nil => rfl
  | cons element rest inductionHypothesis =>
      rw [linesOf_cons, inductionHypothesis, List.flatMap_cons]

/-- Tag and properties are told from a line. -/
theorem tagLine_injective {ending tag other back : String} {left right : Properties}
    (filled : ending.toList ≠ []) (tagged : IsTagOf ending tag) (otherTagged : IsTagOf ending other)
    (leftExact : left.AreExact) (rightExact : right.AreExact)
    (same : tagLine tag (left.map Attribute.ofProperty) back =
      tagLine other (right.map Attribute.ofProperty) back) : tag = other ∧ left = right := by
  have solid : ∀ {text : String}, IsTagOf ending text → ' ' ∉ text.toList :=
    fun isTag member => absurd (isTag.characters _ member) (by decide)
  have texts := String.toList_inj.mp (List.cons.inj same).2
  exact Attribute.following_injective (tagged.ne_empty filled) (solid tagged)
    (otherTagged.ne_empty filled) (solid otherTagged) leftExact rightExact
    (String.append_left_inj _ |>.mp texts)

end Element

/-! ## Kinds of lines -/

inductive LineKind where
  | light
  | camera
  | mesh
  | geometry
  | material
  | remark
  | other
  deriving DecidableEq

namespace LineKind

/-- The kind of an element by the last letter of its tag. -/
def ofLetter : Option Char → LineKind
  | some 't' => .light
  | some 'a' => .camera
  | some 'h' => .mesh
  | some 'y' => .geometry
  | some 'l' => .material
  | _ => .other

def ofLine (line : List Char) : LineKind :=
  if (line.drop 1).head? = some '!' then .remark
  else ofLetter ((line.drop 1).takeWhile Identifier.isRest).getLast?

theorem ofLine_remark (text : String) : ofLine (Element.remarkLine text) = .remark := by
  simp [ofLine, Element.remarkLine]

theorem ofLine_closing (tag : String) : ofLine (Element.closingLine tag) = .other := by
  simp [ofLine, Element.closingLine, ofLetter, Identifier.isRest, isAsciiAlphanumeric,
    isAsciiLetter, isAsciiDigit]

theorem head?_following {attributes : List Attribute} {back : List Char} {c : Char}
    (head : ((Attribute.following attributes).toList ++ back).head? = some c) :
    c = ' ' ∨ back.head? = some c := by
  unfold Attribute.following at head
  split at head
  · exact .inr (by simpa using head)
  · left
    simpa using head.symm

/-- The kind of a line is told by the last letter of its tag. -/
theorem ofLine_tagLine {tag back : String} {attributes : List Attribute} (filled : tag ≠ "")
    (characters : ∀ c ∈ tag.toList, Identifier.isRest c = true)
    (ends : ∀ c, back.toList.head? = some c → Identifier.isRest c = false) :
    ofLine (Element.tagLine tag attributes back) = ofLetter tag.toList.getLast? := by
  have stop : ∀ c, ((Attribute.following attributes).toList ++
      back.toList).head? = some c → Identifier.isRest c = false := by
    intro c head
    rcases head?_following head with rfl | inBack
    · decide
    · exact ends c inBack
  have shape : (Element.tagLine tag attributes back).drop 1 =
      tag.toList ++ ((Attribute.following attributes).toList ++
        back.toList) := by
    simp [Element.tagLine]
  have noRemark : (tag.toList ++ ((Attribute.following attributes).toList ++
      back.toList)).head? ≠ some '!' := by
    intro head
    cases chars : tag.toList with
    | nil => exact filled (String.toList_eq_nil_iff.mp chars)
    | cons first rest =>
        rw [chars] at head
        have same : first = '!' := Option.some.inj head
        have isRest := characters first (chars ▸ List.mem_cons_self ..)
        rw [same] at isRest
        exact absurd isRest (by decide)
  rw [ofLine, shape, if_neg noRemark, takeWhile_cut characters stop]

end LineKind

theorem endsLeaf : ∀ c, " />".toList.head? = some c → Identifier.isRest c = false := by
  rintro c ⟨⟩
  decide

theorem endsOpening : ∀ c, ">".toList.head? = some c → Identifier.isRest c = false := by
  rintro c ⟨⟩
  decide

/-! ## Lines of a template -/

theorem IsTagOf.ofLine_tagLine {ending tag : String} {attributes : List Attribute}
    (tagged : IsTagOf ending tag) (filled : ending.toList ≠ []) {back : String}
    (ends : ∀ c, back.toList.head? = some c → Identifier.isRest c = false) :
    LineKind.ofLine (Element.tagLine tag attributes back) =
      LineKind.ofLetter ending.toList.getLast? := by
  have nonempty := tagged.ne_empty filled
  obtain ⟨characters, stem, rfl⟩ := tagged
  rw [LineKind.ofLine_tagLine nonempty characters ends, String.toList_append,
    List.getLast?_append_of_ne_nil _ filled]

namespace Template

open Element LineKind

def entryLine (entry : Entry) : List Char :=
  tagLine entry.tag ((entry.transform.attributes ++ entry.properties).map Attribute.ofProperty) " />"

def shadowProperties (style : Style) (entry : MeshEntry) : Properties :=
  if style.shadows then
    (if entry.castShadow.isTruthy then [("cast-shadow", .bool true)] else []) ++
      (if entry.receiveShadow.isTruthy then [("receive-shadow", .bool true)] else [])
  else []

def meshLine (style : Style) (entry : MeshEntry) : List Char :=
  tagLine meshTag
    ((entry.transform.attributes ++ shadowProperties style entry).map Attribute.ofProperty) ">"

def argumentProperties (entry : GeometryEntry) : Properties :=
  if entry.arguments.isEmpty then [] else [("args", .list entry.arguments)]

def geometryLine (entry : MeshEntry) : List Char :=
  tagLine entry.geometry.tag ((argumentProperties entry.geometry).map Attribute.ofProperty) " />"

def materialLine (entry : MeshEntry) : List Char :=
  tagLine entry.material.tag (entry.material.properties.map Attribute.ofProperty) " />"

def meshLines (style : Style) (entry : MeshEntry) : List (List Char) :=
  [remarkLine entry.name, meshLine style entry, geometryLine entry, materialLine entry,
    closingLine meshTag]

theorem lines_entryElement (entry : Entry) : (entryElement entry).lines = [entryLine entry] :=
  lines_leaf _ _

theorem linesOf_meshElements (style : Style) (entry : MeshEntry) :
    linesOf (meshElements style entry) = meshLines style entry := by
  have placed : Attribute.ofEntry [] entry.transform ++ shadowAttributes style entry =
      (entry.transform.attributes ++ shadowProperties style entry).map Attribute.ofProperty := by
    unfold Attribute.ofEntry shadowAttributes shadowProperties
    rw [List.append_nil, List.map_append, List.append_cancel_left_eq]
    cases style.shadows <;> cases entry.castShadow.isTruthy <;>
      cases entry.receiveShadow.isTruthy <;> rfl
  have content : linesOf [geometryElement entry.geometry, materialElement entry.material] =
      [geometryLine entry, materialLine entry] := by
    rw [linesOf_eq, List.flatMap_cons, List.flatMap_singleton]
    exact congrArg₂ (· ++ ·) (lines_leaf _ _) (lines_leaf _ _)
  rw [meshElements, placed, linesOf_eq, List.flatMap_cons, List.flatMap_singleton, lines_comment,
    lines_branch, content]
  rfl

/-- Whether a line is one of the group around the entries, or shows the whole scene. -/
def IsFrameLine (line : List Char) : Prop := LineKind.ofLine line = LineKind.other

theorem isFrameLine_tagLine {tag back : String} {attributes : List Attribute}
    (filled : tag ≠ "") (characters : ∀ c ∈ tag.toList, Identifier.isRest c = true)
    (ends : ∀ c, back.toList.head? = some c → Identifier.isRest c = false)
    (letter : ofLetter tag.toList.getLast? = LineKind.other) :
    IsFrameLine (tagLine tag attributes back) := by
  rw [IsFrameLine, ofLine_tagLine filled characters ends, letter]

/-- The lines of a template, part after part. -/
theorem lines_root (inventory : Inventory) (style : Style) :
    ∃ opening primitive closing : List Char,
      IsFrameLine opening ∧ IsFrameLine primitive ∧ IsFrameLine closing ∧
      (root inventory style).lines = opening :: (inventory.lights.map entryLine ++
        inventory.meshes.flatMap (meshLines style) ++ inventory.cameras.map entryLine ++
          [remarkLine "GLTF scene", primitive]) ++ [closing] := by
  have ofEntries : ∀ entries : List Entry,
      (entries.map entryElement).flatMap Element.lines = entries.map entryLine := by
    intro entries
    rw [List.flatMap_map, List.map_eq_flatMap]
    exact List.flatMap_congr fun entry _ => lines_entryElement entry
  have ofMeshes : (inventory.meshes.flatMap (meshElements style)).flatMap Element.lines =
      inventory.meshes.flatMap (meshLines style) := by
    rw [List.flatMap_assoc]
    refine List.flatMap_congr fun entry _ => ?_
    rw [← linesOf_eq, linesOf_meshElements]
  have ofScene : sceneElements.flatMap Element.lines =
      [remarkLine "GLTF scene", tagLine "primitive" [⟨"object", .code "scene"⟩] " />"] := by
    rw [sceneElements, List.flatMap_cons, List.flatMap_singleton, lines_comment, lines_leaf]
    rfl
  refine ⟨tagLine Imports.groupTag (if inventory.hasClips then [⟨"ref", .fixed "group"⟩] else []) ">",
    tagLine "primitive" [⟨"object", .code "scene"⟩] " />", closingLine Imports.groupTag,
    isFrameLine_tagLine (by decide) (List.all_eq_true.mp rfl) endsOpening (by decide),
    isFrameLine_tagLine (by decide) (List.all_eq_true.mp rfl) endsLeaf (by decide), ofLine_closing _, ?_⟩
  rw [root, lines_branch, linesOf_eq, List.flatMap_append, List.flatMap_append,
    List.flatMap_append, ofEntries, ofEntries, ofMeshes, ofScene]

end Template

end SceneComponent
