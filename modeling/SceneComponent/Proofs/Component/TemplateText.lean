import Mathlib
import SceneComponent.Proofs.Component.Attributes
import SceneComponent.Proofs.Component.ImportLines

/-!
# The text of a template

Every line of a laid out element begins with its tag, so that none is an import
statement, as long as no name or value brings in a line feed.  The entries of a
survey bring in none, but for the type names of geometries, which are those of
the scene.
-/

set_option autoImplicit false

namespace SceneComponent

open Text

/-- Whether a step writes single lines, none of which is an import statement. -/
def Text.LayoutStep.IsOther (step : LayoutStep) : Prop :=
  step.IsSingle ∧ ∀ line ∈ step.bare, ImportLine.isImport line = false

instance : DecidablePred LayoutStep.IsOther := fun step =>
  inferInstanceAs (Decidable (step.IsSingle ∧ ∀ line ∈ step.bare, ImportLine.isImport line = false))

theorem isOther_enter : LayoutStep.enter.IsOther := by decide

theorem isOther_leave : LayoutStep.leave.IsOther := by decide

theorem ImportLine.isImport_of_head? {line : List Char} (other : line.head? ≠ some 'i') :
    isImport line = false := by
  have pattern : "import ".toList = 'i' :: "mport ".toList := rfl
  rw [isImport, pattern]
  cases line with
  | nil => rfl
  | cons first rest =>
      have different : ¬ 'i' = first := by
        rintro rfl
        exact other rfl
      rw [afterPattern?, if_neg different]
      rfl

/-- A single line whose first character neither indents nor begins an import. -/
theorem isOther_line {text : String} (single : '\n' ∉ text.toList)
    (visible : text.toList.head? ≠ some ' ') (other : text.toList.head? ≠ some 'i') :
    (LayoutStep.line text).IsOther := by
  refine ⟨single, ?_⟩
  intro line member
  rw [LayoutStep.bare, List.mem_singleton, unindented_visible visible] at member
  rw [member]
  exact ImportLine.isImport_of_head? other

theorem importLines_steps {steps : List LayoutStep} (others : ∀ step ∈ steps, step.IsOther) :
    (steps.flatMap LayoutStep.bare).filter ImportLine.isImport = [] := by
  rw [List.filter_eq_nil_iff]
  intro line member
  obtain ⟨step, inSteps, inLines⟩ := List.mem_flatMap.mp member
  simp [(others step inSteps).2 line inLines]

theorem importLines_laidOut {level : Int} {steps : List LayoutStep}
    (others : ∀ step ∈ steps, step.IsOther) (written : steps.flatMap LayoutStep.bare ≠ []) :
    importLines (laidOut level steps) = [] := by
  rw [importLines, bareLines_laidOut (fun step member => (others step member).1) written]
  exact importLines_steps others

/-! ## Templates -/

theorem feed_not_mem_attributeText {text : String} (single : '\n' ∉ text.toList) :
    '\n' ∉ (attributeText text).toList := by
  rw [attributeText, String.toList_ofList]
  intro member
  obtain ⟨c, inText, escaped⟩ := List.mem_flatMap.mp member
  unfold attributeEscape at escaped
  split at escaped
  · simp at escaped
  · split at escaped
    · simp at escaped
    · split at escaped
      · simp at escaped
      · rw [← List.mem_singleton.mp escaped] at inText
        exact single inText

def Attribute.IsInline (item : Attribute) : Prop := '\n' ∉ item.text.toList

def AttributeContent.IsInline : AttributeContent → Prop
  | .flag => True
  | .fixed text => '\n' ∉ text.toList
  | .constant name => '\n' ∉ name.toList
  | .code source => '\n' ∉ source.toList

theorem Attribute.isInline_of_parts {item : Attribute} (name : '\n' ∉ item.name.toList)
    (content : item.content.IsInline) : item.IsInline := by
  unfold IsInline text
  cases made : item.content with
  | flag => exact name
  | fixed text =>
      rw [made] at content
      simpa using ⟨name, feed_not_mem_attributeText content⟩
  | constant text =>
      rw [made] at content
      simpa using ⟨name, content⟩
  | code source =>
      rw [made] at content
      simpa using ⟨name, feed_not_mem_attributeText content⟩

/-- Only attributes bring a character into what follows a tag, unless it is a blank. -/
theorem Attribute.not_mem_following {attributes : List Attribute} {c : Char} (notBlank : c ≠ ' ')
    (lacking : ∀ item ∈ attributes, c ∉ item.text.toList) : c ∉ (following attributes).toList := by
  unfold following joined
  split
  · simp
  · rw [String.toList_append, String.toList_intercalate, List.mem_append]
    rintro (blank | inItems)
    · exact notBlank (List.mem_singleton.mp blank)
    · rcases mem_intercalate inItems with blank | ⟨piece, inPieces, inPiece⟩
      · exact notBlank (List.mem_singleton.mp blank)
      · simp only [List.map_map, List.mem_map, Function.comp_apply] at inPieces
        obtain ⟨item, inAttributes, rfl⟩ := inPieces
        exact lacking item inAttributes inPiece

namespace Element

mutual

/-- Whether the tags, attributes and remarks of an element are written on one line
each. -/
def IsInline : Element → Prop
  | .blank => True
  | .comment text => '\n' ∉ text.toList
  | .leaf tag attributes => '\n' ∉ tag.toList ∧ ∀ item ∈ attributes, item.IsInline
  | .branch tag attributes content =>
      ('\n' ∉ tag.toList ∧ ∀ item ∈ attributes, item.IsInline) ∧ AreInline content

def AreInline : List Element → Prop
  | [] => True
  | element :: rest => IsInline element ∧ AreInline rest

end

mutual

theorem isInline_of_parts : ∀ {element : Element}, (∀ tag ∈ element.tags, '\n' ∉ tag.toList) →
    (∀ item ∈ element.attributesIn, item.IsInline) →
    (∀ text ∈ element.remarks, '\n' ∉ text.toList) → element.IsInline
  | .blank, _, _, _ => trivial
  | .comment text, _, _, remarks => remarks text (List.mem_singleton_self _)
  | .leaf tag _, tags, attributes, _ => ⟨tags tag (List.mem_singleton_self _), attributes⟩
  | .branch _ _ _, tags, attributes, remarks => by
      obtain ⟨tag, contentTags⟩ := List.forall_mem_cons.mp tags
      obtain ⟨own, contentAttributes⟩ := List.forall_mem_append.mp attributes
      exact ⟨⟨tag, own⟩, areInline_of_parts contentTags contentAttributes remarks⟩

theorem areInline_of_parts : ∀ {elements : List Element},
    (∀ tag ∈ tagsOf elements, '\n' ∉ tag.toList) →
    (∀ item ∈ attributesOf elements, item.IsInline) →
    (∀ text ∈ remarksOf elements, '\n' ∉ text.toList) → AreInline elements
  | [], _, _, _ => trivial
  | _ :: _, tags, attributes, remarks => by
      obtain ⟨firstTags, restTags⟩ := List.forall_mem_append.mp tags
      obtain ⟨firstAttributes, restAttributes⟩ := List.forall_mem_append.mp attributes
      obtain ⟨firstRemarks, restRemarks⟩ := List.forall_mem_append.mp remarks
      exact ⟨isInline_of_parts firstTags firstAttributes firstRemarks,
        areInline_of_parts restTags restAttributes restRemarks⟩

end

theorem isOther_markup {text : String} (markup : text.toList.head? = some '<')
    (single : '\n' ∉ text.toList) : (LayoutStep.line text).IsOther := by
  refine isOther_line single ?_ ?_
  · simp [markup]
  · simp [markup]

theorem isOther_forall_singleton {text : String} (other : (LayoutStep.line text).IsOther) :
    ∀ step ∈ [LayoutStep.line text], step.IsOther := by
  simpa using other

mutual

theorem isOther_of_mem_steps : ∀ {element : Element}, element.IsInline →
    ∀ step ∈ steps element, step.IsOther
  | .blank, _ => by decide
  | .comment text, inline => by
      rw [IsInline] at inline
      refine isOther_forall_singleton (isOther_markup (by simp) ?_)
      simpa using inline
  | .leaf tag attributes, inline => by
      rw [IsInline] at inline
      have following := Attribute.not_mem_following (by decide) inline.2
      refine isOther_forall_singleton (isOther_markup (by simp) ?_)
      simpa using ⟨inline.1, following⟩
  | .branch tag attributes content, inline => by
      rw [IsInline] at inline
      obtain ⟨⟨tagInline, attributesInline⟩, contentInline⟩ := inline
      have following := Attribute.not_mem_following (by decide) attributesInline
      have opening := isOther_forall_singleton (isOther_markup
        (by simp : ("<" ++ tag ++ Attribute.following attributes ++ ">").toList.head? = some '<')
        (by simpa using ⟨tagInline, following⟩))
      have closing := isOther_forall_singleton (isOther_markup
        (by simp : ("</" ++ tag ++ ">").toList.head? = some '<') (by simpa using tagInline))
      have inner := forall_mem_deeper isOther_enter isOther_leave
        (isOther_of_mem_stepsOf contentInline)
      rw [steps]
      exact List.forall_mem_append.mpr ⟨List.forall_mem_append.mpr ⟨opening, inner⟩, closing⟩

theorem isOther_of_mem_stepsOf : ∀ {elements : List Element}, AreInline elements →
    ∀ step ∈ stepsOf elements, step.IsOther
  | [], _ => by simp [stepsOf]
  | element :: rest, inline => by
      rw [AreInline] at inline
      rw [stepsOf]
      exact List.forall_mem_append.mpr
        ⟨isOther_of_mem_steps inline.1, isOther_of_mem_stepsOf inline.2⟩

end

theorem bare_steps_ne_nil (element : Element) :
    element.steps.flatMap LayoutStep.bare ≠ [] := by
  cases element <;> simp [steps, LayoutStep.bare]

end Element

/-! ## Regular entries are written inline -/

theorem IsWord.single {text : String} (word : IsWord text) : '\n' ∉ text.toList :=
  feed_not_mem word (by decide)

theorem Value.IsRegular.isInline {content : Value} (regular : content.IsRegular) :
    (Attribute.contentOf content).IsInline := by
  cases regular with
  | flag => trivial
  | number x => exact feed_not_mem (Value.isNumeral_of_mem_doubleLiteral x) (by decide)
  | color digits alphanumeric =>
      have single := feed_not_mem alphanumeric (by decide)
      change '\n' ∉ ("#" ++ String.ofList digits).toList
      simpa using single
  | side side =>
      change '\n' ∉ side.name.toList
      cases side <;> decide

theorem Template.isInline_sources : HoldsOfSources Attribute.IsInline where
  fixed := by
    simp [fixedAttributes, Attribute.IsInline, Attribute.text, attributeText, attributeEscape]
  property := fun word regular => Attribute.isInline_of_parts word.single regular.isInline
  numbers := fun numbers word => Attribute.isInline_of_parts word.single
    (feed_not_mem (Value.isListed_of_mem_list_literal numbers) (by decide))

/-! ## Tags of geometries -/

def IsTypeName (name : String) : Prop := ∀ c ∈ name.toList, Identifier.isRest c = true

theorem Text.mem_of_mem_removePattern {pattern : List Char} {pending : Nat} {text : List Char}
    {c : Char} (member : c ∈ removePattern pattern pending text) : c ∈ text := by
  induction text generalizing pending with
  | nil => cases member
  | cons first rest inductionHypothesis =>
      cases pending with
      | succ pending =>
          rw [removePattern] at member
          exact List.mem_cons_of_mem _ (inductionHypothesis member)
      | zero =>
          unfold removePattern at member
          split at member
          · exact List.mem_cons_of_mem _ (inductionHypothesis member)
          · rcases List.mem_cons.mp member with rfl | inRest
            · exact List.mem_cons_self ..
            · exact List.mem_cons_of_mem _ (inductionHypothesis inRest)

theorem isTypeName_stemOf {typeName : String} (typed : IsTypeName typeName) :
    IsTypeName (Geometry.stemOf typeName) := by
  unfold Geometry.stemOf
  dsimp only
  split
  · exact List.all_eq_true.mp rfl
  · intro c member
    rw [withoutPattern, String.toList_ofList] at member
    exact typed c (mem_of_mem_removePattern member)

theorem isRest_of_mem_tagOf {typeName : String} (stem : IsTypeName (Geometry.stemOf typeName)) :
    ∀ c ∈ (GeometryEntry.tagOf typeName).toList, Identifier.isRest c = true := by
  have front : ∀ c ∈ tagStem.toList, Identifier.isRest c = true := List.all_eq_true.mp rfl
  have back : ∀ c ∈ "Geometry".toList, Identifier.isRest c = true := List.all_eq_true.mp rfl
  rw [GeometryEntry.tagOf, String.toList_append, String.toList_append]
  exact List.forall_mem_append.mpr ⟨List.forall_mem_append.mpr ⟨front, stem⟩, back⟩

theorem isRest_of_mem_frameworkTag {word : String} (isWord : IsWord word) :
    ∀ c ∈ (tagStem ++ word).toList, Identifier.isRest c = true := by
  rw [String.toList_append]
  refine List.forall_mem_append.mpr ⟨List.all_eq_true.mp rfl, fun c member => ?_⟩
  exact Identifier.isRest_of_isAlphanumeric (isWord c member)

namespace Inventory.IsRegular

variable {inventory : Inventory}

theorem isRest_of_mem_entryTags (regular : inventory.IsRegular IsTypeName) {tag : String}
    (member : tag ∈ inventory.entryTags) : ∀ c ∈ tag.toList, Identifier.isRest c = true := by
  rcases regular.tag_cases member with ⟨word, isWord, rfl⟩ | ⟨entry, inMeshes, rfl⟩
  · exact isRest_of_mem_frameworkTag isWord
  · obtain ⟨typeName, typed, tag⟩ := (regular.meshes entry inMeshes).geometry
    rw [tag]
    exact isRest_of_mem_tagOf (isTypeName_stemOf typed)

theorem feed_not_mem_tag (regular : inventory.IsRegular IsTypeName) {tag : String}
    (member : tag ∈ inventory.entryTags) : '\n' ∉ tag.toList :=
  feed_not_mem (regular.isRest_of_mem_entryTags member) (by decide)

end Inventory.IsRegular

namespace Template

open Element

variable {inventory : Inventory}

theorem isInline_root (regular : inventory.IsRegular IsTypeName) (style : Style) :
    (root inventory style).IsInline := by
  have tags : ∀ tag ∈ (root inventory style).tags, '\n' ∉ tag.toList := by
    rw [tags_root, List.forall_mem_cons, List.forall_mem_append, List.forall_mem_singleton]
    exact ⟨by decide, fun tag => regular.feed_not_mem_tag, by decide⟩
  have remarks : ∀ text ∈ (root inventory style).remarks, '\n' ∉ text.toList := by
    rw [remarks_root, List.forall_mem_append, List.forall_mem_map, List.forall_mem_singleton]
    exact ⟨fun entry member => feed_not_mem
      (Identifier.isRest_of_spells (regular.meshes entry member).name) (by decide), by decide⟩
  exact isInline_of_parts tags (isInline_sources.root regular style) remarks

theorem importLines_block (regular : inventory.IsRegular IsTypeName) (style : Style) :
    importLines (block inventory style) = [] :=
  importLines_laidOut (isOther_of_mem_steps (isInline_root regular style))
    (bare_steps_ne_nil (root inventory style))

end Template

end SceneComponent
