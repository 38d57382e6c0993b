import Mathlib
import SceneComponent.Proofs.Inventory.Contents
import SceneComponent.Proofs.Value.HalfUp

/-!
# Settled numbers

All numbers that an inventory holds, among the arguments of geometries, the values of
properties and the parts of transforms, are results of rounding.  Such a result is not changed
by rounding it again to as many places or more, so that the numbers of an inventory are
settled.
-/

set_option autoImplicit false

namespace SceneComponent

open Checked Binary64

/-! ## The numbers of an inventory -/

namespace Value

mutual

/-- The numbers of a value in order, at any depth. -/
def numbers : Value → List Float
  | .float x => [x]
  | .list items => itemNumbers items
  | .map entries => entryNumbers entries
  | _ => []

def itemNumbers : List Value → List Float
  | [] => []
  | item :: rest => numbers item ++ itemNumbers rest

def entryNumbers : List (String × Value) → List Float
  | [] => []
  | (_, value) :: rest => numbers value ++ entryNumbers rest

end

end Value

namespace Properties

def numbers (properties : Properties) : List Float :=
  properties.flatMap fun property => property.2.numbers

end Properties

def Entry.numbers (entry : Entry) : List Float :=
  entry.properties.numbers ++ entry.transform.attributes.numbers

def MeshEntry.numbers (entry : MeshEntry) : List Float :=
  entry.geometry.arguments.flatMap Value.numbers ++ entry.material.properties.numbers ++
    entry.transform.attributes.numbers

def Inventory.numbers (inventory : Inventory) : List Float :=
  inventory.meshes.flatMap MeshEntry.numbers ++ inventory.lights.flatMap Entry.numbers ++
    inventory.cameras.flatMap Entry.numbers

/-! ## They are results of rounding -/

variable {places : Value}

/-- Whether all numbers of a list are results of rounding. -/
def AreRounded (places : Value) (numbers : List Float) : Prop :=
  ∀ x ∈ numbers, places.IsRounded x

theorem areRounded_nil : AreRounded places [] := List.forall_mem_nil _

theorem AreRounded.append {front back : List Float} (frontRounded : AreRounded places front)
    (backRounded : AreRounded places back) : AreRounded places (front ++ back) :=
  List.forall_mem_append.mpr ⟨frontRounded, backRounded⟩

theorem areRounded_flatMap {Item : Type} {items : List Item} {numbers : Item → List Float}
    (each : ∀ item ∈ items, AreRounded places (numbers item)) :
    AreRounded places (items.flatMap numbers) := by
  intro x member
  obtain ⟨item, inItems, inNumbers⟩ := List.mem_flatMap.mp member
  exact each item inItems x inNumbers

theorem areRounded_float {x : Float} (rounded : places.IsRounded x) :
    AreRounded places (Value.float x).numbers := by
  rw [Value.numbers]
  exact List.forall_mem_singleton.mpr rounded

theorem areRounded_triple {x y z : Float} (first : places.IsRounded x)
    (second : places.IsRounded y) (third : places.IsRounded z) :
    AreRounded places (Value.triple x y z).numbers := by
  simp only [Value.triple, Value.numbers, Value.itemNumbers]
  exact List.forall_mem_cons.mpr ⟨first, List.forall_mem_cons.mpr ⟨second,
    List.forall_mem_singleton.mpr third⟩⟩

theorem areRounded_named {name : String} {value : Option Value}
    (rounded : ∀ content, value = some content → AreRounded places content.numbers) :
    AreRounded places (MaterialEntry.named name value).numbers := by
  refine areRounded_flatMap fun property member => ?_
  obtain ⟨content, isContent, rfl⟩ := Option.map_eq_some_iff.mp (Option.mem_toList.mp member)
  exact rounded content isContent

theorem Properties.numbers_append (front back : Properties) :
    Properties.numbers (front ++ back) = front.numbers ++ back.numbers := List.flatMap_append

theorem Transform.areRounded_of_ofNode {node : Node} {transform : Transform}
    (success : Transform.ofNode node places = .ok transform) :
    AreRounded places transform.attributes.numbers := by
  unfold Transform.ofNode at success
  obtain ⟨position, positionPart, success⟩ := bind_eq_ok.mp success
  obtain ⟨rotation, rotationPart, success⟩ := bind_eq_ok.mp success
  obtain ⟨scale, scalePart, success⟩ := bind_eq_ok.mp success
  cases return_eq_ok.mp success
  have ofPart : ∀ {given neutral : Value} {part : Option Value} (name : String),
      Transform.part given neutral places = .ok part →
        AreRounded places (MaterialEntry.named name part).numbers := by
    intro given neutral part name made
    refine areRounded_named fun value isValue => ?_
    obtain ⟨x, y, z, rfl, first, second, third⟩ := triple_of_part (isValue ▸ made)
    exact areRounded_triple first second third
  rw [Transform.attributes, Properties.numbers_append, Properties.numbers_append]
  exact ((ofPart "position" positionPart).append (ofPart "rotation" rotationPart)).append
    (ofPart "scale" scalePart)

/-- A colour is a text. -/
theorem areRounded_of_colorProperty? {entity property : String} {color : Value}
    {content : Option Value} (success : colorProperty? entity property color = .ok content) :
    ∀ value, content = some value → AreRounded places value.numbers := by
  rintro value rfl
  unfold colorProperty? at success
  obtain ⟨digits, _, success⟩ := bind_eq_ok.mp success
  have chosen := return_eq_ok.mp success
  split at chosen
  · cases chosen
  · cases chosen
    exact areRounded_nil

theorem areRounded_of_numberProperty? {entity property : String} {number : Value}
    {content : Option Value}
    (success : numberProperty? entity property number places = .ok content) :
    ∀ value, content = some value → AreRounded places value.numbers := by
  rintro value rfl
  obtain ⟨x, rfl, rounded⟩ := number_of_numberProperty? success
  exact areRounded_float rounded

theorem MaterialProperty.areRounded_of_value? {property : MaterialProperty} {entity : String}
    {material : Material} {content : Option Value}
    (success : property.value? entity material places = .ok content) :
    ∀ value, content = some value → AreRounded places value.numbers := by
  cases property with
  | emissive => exact areRounded_of_colorProperty? success
  | _ => exact areRounded_of_numberProperty? success

namespace MaterialEntry

theorem areRounded_of_kindProperties {entity : String} {material : Material}
    {names : List MaterialProperty} {properties : Properties}
    (success : kindProperties entity material places names = .ok properties) :
    AreRounded places properties.numbers := by
  induction names generalizing properties with
  | nil =>
      cases success
      exact areRounded_nil
  | cons property rest inductionHypothesis =>
      rw [kindProperties] at success
      obtain ⟨value, written, success⟩ := bind_eq_ok.mp success
      obtain ⟨others, remaining, success⟩ := bind_eq_ok.mp success
      cases return_eq_ok.mp success
      rw [Properties.numbers_append]
      exact (areRounded_named (MaterialProperty.areRounded_of_value? written)).append
        (inductionHypothesis remaining)

/-- Flags and sides are no numbers. -/
theorem areRounded_of_propertiesOf {kind : MaterialKind} {material : Material}
    {properties : Properties} (success : propertiesOf kind material places = .ok properties) :
    AreRounded places properties.numbers := by
  unfold propertiesOf at success
  obtain ⟨color, colored, success⟩ := bind_eq_ok.mp success
  obtain ⟨ofKind, ofKindWritten, success⟩ := bind_eq_ok.mp success
  obtain ⟨opacity, opaqueness, success⟩ := bind_eq_ok.mp success
  cases return_eq_ok.mp success
  have ofFlag : AreRounded places (Properties.numbers (named "transparent"
      (if material.transparent.isTruthy then some (.bool true) else none))) := by
    split <;> exact areRounded_nil
  have ofSide : AreRounded places (Properties.numbers (named "side"
      (sideProperty? material.side))) := by
    cases material.side <;> exact areRounded_nil
  simp only [Properties.numbers_append]
  exact ((((areRounded_named (areRounded_of_colorProperty? colored)).append
    (areRounded_of_kindProperties ofKindWritten)).append ofFlag).append
      (areRounded_named (areRounded_of_numberProperty? opaqueness))).append ofSide

theorem areRounded_of_ofSurface {surface : Surface} {entry : MaterialEntry}
    {records : List Record} (success : ofSurface surface places = .ok (entry, records)) :
    AreRounded places entry.properties.numbers := by
  unfold ofSurface at success
  obtain ⟨kind, _, success⟩ := bind_eq_ok.mp success
  obtain ⟨properties, written, success⟩ := bind_eq_ok.mp success
  cases return_eq_ok.mp success
  exact areRounded_of_propertiesOf written

end MaterialEntry

namespace Entry

theorem areRounded_of_roundedProperties {numbers properties : Properties}
    (success : roundedProperties places numbers = .ok properties) :
    AreRounded places properties.numbers := by
  refine areRounded_flatMap fun property member => ?_
  obtain ⟨_, _, _, x, isNumber, rounded⟩ :=
    exists_of_mem_right (numbers_of_roundedProperties success) member
  rw [isNumber]
  exact areRounded_float rounded

theorem areRounded_of_ofLight? {node : Node} {entry : Entry}
    (success : ofLight? node places = .ok (some entry)) : AreRounded places entry.numbers := by
  unfold ofLight? at success
  obtain ⟨kind, _, success⟩ := bind_eq_ok.mp success
  split at success
  · obtain ⟨numbers, rounded, success⟩ := bind_eq_ok.mp success
    obtain ⟨color, colored, success⟩ := bind_eq_ok.mp success
    obtain ⟨transform, placed, success⟩ := bind_eq_ok.mp success
    cases return_eq_ok.mp success
    rw [Entry.numbers, Properties.numbers_append]
    exact ((areRounded_of_roundedProperties rounded).append
      (areRounded_named (areRounded_of_colorProperty? colored))).append
        (Transform.areRounded_of_ofNode placed)
  · cases return_eq_ok.mp success

theorem areRounded_of_ofCamera? {node : Node} {entry : Entry}
    (success : ofCamera? node places = .ok (some entry)) : AreRounded places entry.numbers := by
  unfold ofCamera? at success
  obtain ⟨kind, _, success⟩ := bind_eq_ok.mp success
  split at success
  · obtain ⟨numbers, rounded, success⟩ := bind_eq_ok.mp success
    obtain ⟨transform, placed, success⟩ := bind_eq_ok.mp success
    cases return_eq_ok.mp success
    exact (areRounded_of_roundedProperties rounded).append (Transform.areRounded_of_ofNode placed)
  · cases return_eq_ok.mp success

end Entry

theorem MeshEntry.areRounded_of_describes {shadows : Value} {index : Nat} {node : Node}
    {entry : MeshEntry} (described : entry.Describes places shadows index node) :
    AreRounded places entry.numbers := by
  obtain ⟨_, shaped⟩ := described.geometry
  obtain ⟨_, covered⟩ := described.material
  obtain ⟨numbers, rounded, written⟩ := GeometryEntry.numbers_of_ofGeometry shaped
  have ofArguments : AreRounded places (entry.geometry.arguments.flatMap Value.numbers) := by
    rw [written]
    exact areRounded_flatMap (List.forall_mem_map.mpr fun x member =>
      areRounded_float (rounded x member))
  exact (ofArguments.append (MaterialEntry.areRounded_of_ofSurface covered)).append
    (Transform.areRounded_of_ofNode described.transform)

namespace Inventory

theorem areRounded_of_survey {root : Node} {clips : List Clip} {shadows : Value}
    {inventory : Inventory} {records : List Record}
    (success : survey root clips places shadows = .ok (inventory, records)) :
    AreRounded places inventory.numbers := by
  obtain ⟨findings, slots, along, _, rfl⟩ := survey_trace success
  refine ((areRounded_flatMap fun entry member => ?_).append
    (areRounded_flatMap fun entry member => ?_)).append
      (areRounded_flatMap fun entry member => ?_)
  · obtain ⟨_, _, described⟩ := exists_of_mem_right along.meshes member
    exact MeshEntry.areRounded_of_describes described
  · obtain ⟨_, _, given⟩ := exists_of_mem_right along.lights member
    exact Entry.areRounded_of_ofLight? given
  · obtain ⟨_, _, given⟩ := exists_of_mem_right along.cameras member
    exact Entry.areRounded_of_ofCamera? given

/-! ## They are settled -/

/-- Rounding a second time, to as many places or more, changes no double that was rounded,
and none of the numbers of an inventory. -/
theorem numbers_settled {places finer : Value} {count finerCount : Int}
    (integer : places.toInteger = .ok count) (finerInteger : finer.toInteger = .ok finerCount)
    (nonnegative : 0 ≤ count) (ordered : count ≤ finerCount) (bounded : finerCount ≤ 1000000) :
    (∀ x, isFinite x = true → ∃ rounded, Value.roundDouble x places = .ok rounded ∧
      Value.roundDouble rounded finer = .ok rounded) ∧
    ∀ root clips shadows inventory records,
      survey root clips places shadows = .ok (inventory, records) →
        ∀ x ∈ inventory.numbers, Value.roundDouble x finer = .ok x := by
  constructor
  · intro x finite
    have success := Value.roundDouble_of_finite finite integer nonnegative
      (ordered.trans bounded)
    have rounded : places.IsRounded (Decimal.roundFinite x count) := ⟨x, success⟩
    exact ⟨_, success, rounded.settled integer finerInteger nonnegative ordered bounded⟩
  · intro root clips shadows inventory records surveyed x member
    exact (areRounded_of_survey surveyed x member).settled integer finerInteger nonnegative
      ordered bounded

/-- A box that is moved by numbers with more places than are kept. -/
def unevenBox : Node where
  children := [{ kind := .mesh, position := .triple 9.9995 (-0.0005) 1.00049 }]

theorem unevenBox_settled :
    (∃ rounded, Value.roundDouble 2.0005 Value.usualPlaces = .ok rounded ∧
      Value.roundDouble rounded (.int 5) = .ok rounded) ∧
    ∃ inventory records, survey unevenBox [] = .ok (inventory, records) ∧
      inventory.numbers.map doubleText = ["10.0", "-0.001", "1.0"] ∧
      ∀ x ∈ inventory.numbers, Value.roundDouble x (.int 5) = .ok x := by
  have texts : (survey unevenBox []).toOption.map
      (fun result => result.1.numbers.map doubleText) = some ["10.0", "-0.001", "1.0"] := by
    decide +kernel
  obtain ⟨⟨inventory, records⟩, made, written⟩ := ok_of_map_toOption texts
  have places : Value.usualPlaces.toInteger = .ok 3 := rfl
  have finer : (Value.int 5).toInteger = .ok 5 := rfl
  obtain ⟨stable, settled⟩ := numbers_settled places finer (by decide) (by decide) (by decide)
  exact ⟨stable 2.0005 (by decide +kernel), inventory, records, made, written,
    settled unevenBox [] (.bool false) inventory records made⟩

end Inventory

end SceneComponent
