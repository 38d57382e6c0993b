import Mathlib
import SceneComponent.Inventory.Extraction
import SceneComponent.Proofs.Inventory.Totality
import SceneComponent.Proofs.Text.Removal

/-!
# Tags and arguments of geometries

The kind of a geometry, which settles its arguments, is told from the type name without one
suffix, and its tag from the type name without any occurrence of the same word.  The two
readings agree on every type name but those from which more than one occurrence, or one that
is no suffix, is taken out and the name of a kind is left: there the tag is that of a kind
whose arguments are missing.
-/

set_option autoImplicit false

namespace SceneComponent

open Checked Text

namespace GeometryKind

def tag (kind : GeometryKind) : String := tagStem ++ kind.name ++ "Geometry"

/-- The number of arguments that a geometry of a kind is built from. -/
def argumentCount : GeometryKind → Nat
  | .box => 3
  | .sphere => 3
  | .plane => 2
  | .cylinder => 3
  | .other => 0

theorem length_argumentNames {kind : GeometryKind} {names : List String}
    (known : kind.argumentNames? = some names) : names.length = kind.argumentCount := by
  cases kind <;> cases known <;> rfl

/-- A kind with arguments goes by its name, with the suffix or without it. -/
theorem ofTypeName_eq_iff {typeName : String} {kind : GeometryKind} (parametric : kind ≠ .other) :
    ofTypeName typeName = kind ↔ typeName = kind.name ∨ typeName = kind.name ++ "Geometry" := by
  have bare : hasSuffix "Geometry" kind.name = false := by cases kind <;> decide
  rw [← withoutSuffix_eq_iff bare, ofTypeName]
  constructor
  · intro settled
    cases found : all.find? (fun known => known.name == withoutSuffix "Geometry" typeName) with
    | none =>
        rw [found] at settled
        exact absurd settled.symm parametric
    | some known =>
        rw [found] at settled
        obtain rfl : known = kind := settled
        have same := List.find?_some found
        exact (beq_iff_eq.mp same).symm
  · intro stem
    rw [stem]
    cases kind <;> rfl

end GeometryKind

namespace Geometry

theorem stemOf_eq_iff {typeName : String} {kind : GeometryKind} :
    stemOf typeName = kind.name ↔ Stripped "Geometry".toList typeName.toList kind.name.toList := by
  have filled : kind.name.isEmpty = false := by cases kind <;> rfl
  have notBuffer : "Buffer" ≠ kind.name := by cases kind <;> decide
  rw [← withoutPattern_eq_iff (by decide : "Geometry" ≠ ""), stemOf]
  by_cases empty : (withoutPattern "Geometry" typeName).isEmpty = true
  · rw [if_pos empty]
    refine iff_of_false notBuffer fun left => ?_
    rw [left, filled] at empty
    exact Bool.false_ne_true empty
  · rw [if_neg empty]

/-- Whether the name of a kind is left of a type name that is no name of this kind, when the
word is taken out wherever it stands. -/
def IsMisnamed (typeName : String) : Prop :=
  ∃ kind : GeometryKind, kind ≠ .other ∧
    Stripped "Geometry".toList typeName.toList kind.name.toList ∧
    typeName ≠ kind.name ∧ typeName ≠ kind.name ++ "Geometry"

/-- What an argument of a kind has to be: the rounded parameter of its name, or the rounded
default where the parameter is missing or null. -/
inductive IsArgument (kind : GeometryKind) (geometry : Geometry) (places : Value)
    (name : String) : Value → Prop where
  | given {table : Table} {value : Value} {number : Float}
      (parameters : geometry.parameters = some table)
      (found : table.get? (.text name) = some value) (present : value.isNull = false)
      (rounded : value.round places = .ok number) :
      IsArgument kind geometry places name (.float number)
  | standard {table : Table} {value : Value} {number : Float}
      (parameters : geometry.parameters = some table)
      (missing : ∀ found, table.get? (.text name) = some found → found = .null)
      (registered : Default.getValue kind.entity name = .ok value)
      (rounded : value.round places = .ok number) :
      IsArgument kind geometry places name (.float number)

end Geometry

namespace GeometryEntry

/-- Whether an entry lists all arguments of a kind, in their order. -/
structure Lists (kind : GeometryKind) (geometry : Geometry) (places : Value)
    (entry : GeometryEntry) : Prop where
  count : entry.arguments.length = kind.argumentCount
  arguments : List.Forall₂ (geometry.IsArgument kind places) (kind.argumentNames?.getD [])
    entry.arguments

/-- Whether the tag of an entry and its arguments belong to the same kind, that of the type
name. -/
structure Agrees (typeName : String) (geometry : Geometry) (places : Value)
    (entry : GeometryEntry) : Prop where
  tag : ∀ kind ≠ .other, entry.tag = kind.tag ↔ GeometryKind.ofTypeName typeName = kind
  arguments : ∀ kind : GeometryKind, kind ≠ .other → entry.tag = kind.tag →
    entry.Lists kind geometry places
  bare : (∀ kind : GeometryKind, kind ≠ .other → entry.tag ≠ kind.tag) → entry.arguments = []

theorem tagOf_eq_iff {typeName : String} {kind : GeometryKind} :
    tagOf typeName = kind.tag ↔
      Stripped "Geometry".toList typeName.toList kind.name.toList := by
  rw [tagOf, GeometryKind.tag, String.append_left_inj, String.append_right_inj,
    Geometry.stemOf_eq_iff]

theorem stripped_of_ofTypeName {typeName : String} {kind : GeometryKind}
    (parametric : kind ≠ .other) (settled : GeometryKind.ofTypeName typeName = kind) :
    Stripped "Geometry".toList typeName.toList kind.name.toList := by
  rw [← withoutPattern_eq_iff (by decide : "Geometry" ≠ "")]
  rcases (GeometryKind.ofTypeName_eq_iff parametric).mp settled with rfl | rfl
  · cases kind <;> decide
  · cases kind <;> decide

theorem isArgument_of_argument {kind : GeometryKind} {geometry : Geometry} {places : Value}
    {name : String} {content : Value} (made : argument kind geometry places name = .ok content) :
    geometry.IsArgument kind places name content := by
  unfold argument at made
  obtain ⟨looked, parameter, made⟩ := bind_eq_ok.mp made
  unfold Geometry.parameter at parameter
  cases parameters : geometry.parameters with
  | none => simp [parameters] at parameter
  | some table =>
      simp only [parameters] at parameter
      have read := Except.ok.inj parameter
      dsimp only at made
      split at made
      · next null =>
          obtain ⟨value, registered, made⟩ := bind_eq_ok.mp made
          obtain ⟨number, rounded, made⟩ := bind_eq_ok.mp made
          rw [← return_eq_ok.mp made]
          refine .standard parameters (fun found atName => ?_) registered rounded
          rw [atName, Option.getD_some] at read
          exact Value.eq_null_of_isNull (read ▸ null)
      · next present =>
          obtain ⟨value, chosen, made⟩ := bind_eq_ok.mp made
          obtain ⟨number, rounded, made⟩ := bind_eq_ok.mp made
          rw [← Except.ok.inj chosen] at rounded
          rw [← return_eq_ok.mp made]
          cases atName : table.get? (.text name) with
          | none =>
              rw [atName, Option.getD_none] at read
              exact absurd (read ▸ rfl) present
          | some found =>
              rw [atName, Option.getD_some] at read
              rw [← read] at present rounded
              exact .given parameters atName (by simpa using present) rounded

theorem lists_of_mapM {kind : GeometryKind} {geometry : Geometry} {places : Value}
    {names : List String} {entry : GeometryEntry} (known : kind.argumentNames? = some names)
    (made : names.mapM (argument kind geometry places) = .ok entry.arguments) :
    entry.Lists kind geometry places := by
  have related := mapM_eq_ok.mp made
  refine ⟨?_, ?_⟩
  · rw [← related.length_eq, GeometryKind.length_argumentNames known]
  · rw [known, Option.getD_some]
    exact related.imp fun _ _ => isArgument_of_argument

theorem contents_of_ofGeometry {typeName : String} {geometry : Geometry} {places : Value}
    {entry : GeometryEntry} {records : List Record} (named : geometry.typeName = .text typeName)
    (made : ofGeometry geometry places = .ok (entry, records)) :
    entry.tag = tagOf typeName ∧
      (∀ kind : GeometryKind, kind ≠ .other → GeometryKind.ofTypeName typeName = kind →
        entry.Lists kind geometry places) ∧
      (GeometryKind.ofTypeName typeName = .other → entry.arguments = []) := by
  obtain ⟨given, isText, tag, cases⟩ := ofGeometry_inversion made
  obtain rfl : given = typeName := Value.text.inj (isText.symm.trans named)
  refine ⟨tag, ?_, ?_⟩
  · rintro kind parametric rfl
    obtain ⟨other, _, _⟩ | ⟨names, known, listed, _⟩ := cases
    · exact absurd other parametric
    · exact lists_of_mapM known listed
  · intro other
    obtain ⟨_, bare, _⟩ | ⟨names, known, _, _⟩ := cases
    · exact bare
    · rw [GeometryKind.argumentNames?_eq_none.mpr other] at known
      cases known

/-- A tag and its arguments belong to the kind of the type name, unless the word is taken out
of the type name to leave the name of a kind that it does not name: then the tag is that of
this kind, without its arguments. -/
theorem agrees_iff {typeName : String} {geometry : Geometry} {places : Value}
    {entry : GeometryEntry} {records : List Record} (named : geometry.typeName = .text typeName)
    (made : ofGeometry geometry places = .ok (entry, records)) :
    (entry.Agrees typeName geometry places ↔ ¬ Geometry.IsMisnamed typeName) ∧
      (∀ kind : GeometryKind, kind ≠ .other → GeometryKind.ofTypeName typeName = kind →
        entry.tag = kind.tag ∧ entry.Lists kind geometry places) ∧
      (GeometryKind.ofTypeName typeName = .other → entry.arguments = []) := by
  obtain ⟨tag, listed, bare⟩ := contents_of_ofGeometry named made
  have tagged : ∀ kind : GeometryKind, kind ≠ .other → GeometryKind.ofTypeName typeName = kind →
      entry.tag = kind.tag := by
    intro kind parametric settled
    rw [tag]
    exact tagOf_eq_iff.mpr (stripped_of_ofTypeName parametric settled)
  refine ⟨⟨?_, ?_⟩, fun kind parametric settled =>
    ⟨tagged kind parametric settled, listed kind parametric settled⟩, bare⟩
  · rintro agrees ⟨kind, parametric, stripped, notName, notSuffixed⟩
    have settled := (agrees.tag kind parametric).mp (tag.trans (tagOf_eq_iff.mpr stripped))
    rcases (GeometryKind.ofTypeName_eq_iff parametric).mp settled with name | suffixed
    · exact notName name
    · exact notSuffixed suffixed
  · intro named
    have settles : ∀ kind : GeometryKind, kind ≠ .other → entry.tag = kind.tag →
        GeometryKind.ofTypeName typeName = kind := by
      intro kind parametric same
      have stripped := tagOf_eq_iff.mp (tag.symm.trans same)
      refine (GeometryKind.ofTypeName_eq_iff parametric).mpr ?_
      by_contra unlisted
      obtain ⟨notName, notSuffixed⟩ := not_or.mp unlisted
      exact named ⟨kind, parametric, stripped, notName, notSuffixed⟩
    refine {
      tag := fun kind parametric => ⟨settles kind parametric, tagged kind parametric⟩
      arguments := fun kind parametric same =>
        listed kind parametric (settles kind parametric same)
      bare := fun unlisted => bare ?_ }
    by_contra parametric
    exact unlisted _ parametric (tagged _ parametric rfl)

/-- A cylinder with one parameter to round, one that is null and one that is missing. -/
def taperedCylinder : Geometry :=
  { typeName := .text "CylinderGeometry"
    parameters := some [(.text "height", .float 2.0005), (.text "radiusTop", .null)] }

theorem not_isMisnamed_cylinder : ¬ Geometry.IsMisnamed "CylinderGeometry" := by
  rintro ⟨kind, parametric, stripped, notName, notSuffixed⟩
  rw [← withoutPattern_eq_iff (by decide : "Geometry" ≠ "")] at stripped
  cases kind with
  | cylinder => exact notSuffixed rfl
  | _ => exact absurd stripped (by decide)

theorem taperedCylinder_agrees : ∃ entry records,
    ofGeometry taperedCylinder = .ok (entry, records) ∧ entry.tag = "TresCylinderGeometry" ∧
      entry.arguments.length = 3 ∧
      entry.Agrees "CylinderGeometry" taperedCylinder Value.usualPlaces := by
  have read : (ofGeometry taperedCylinder).toOption.map
      (fun result => (result.1.tag, result.1.arguments.length)) =
        some ("TresCylinderGeometry", 3) := by decide +kernel
  obtain ⟨⟨entry, records⟩, made, same⟩ := ok_of_map_toOption read
  obtain ⟨tag, count⟩ := Prod.mk.inj same
  exact ⟨entry, records, made, tag, count, (agrees_iff rfl made).1.mpr not_isMisnamed_cylinder⟩

def doubledBox : Geometry := { typeName := .text "BoxGeometryGeometry" }

/-- A type name with the word twice is of no kind with arguments, and its tag is that of a
box. -/
theorem doubledBox_disagrees : ∃ entry records,
    ofGeometry doubledBox = .ok (entry, records) ∧ entry.tag = GeometryKind.box.tag ∧
      entry.arguments = [] ∧ GeometryKind.ofTypeName "BoxGeometryGeometry" = .other ∧
      ¬ entry.Agrees "BoxGeometryGeometry" doubledBox Value.usualPlaces := by
  refine ⟨_, _, rfl, by decide, rfl, rfl, fun agrees => ?_⟩
  have settled := (agrees.tag .box (by decide)).mp (by decide)
  exact absurd settled (by decide)

end GeometryEntry

end SceneComponent
