import Mathlib
import SceneComponent.Proofs.Clips
import SceneComponent.Proofs.Inventory.Roles
import SceneComponent.Proofs.Scene.Decoding

/-!
# When surveys succeed

A survey of a loaded scene comes to its end exactly when every node below the root
is convertible: the arguments of a mesh are numbers where they are given, and the
colours that are written have no undefined channel.  Nothing else that a document
holds can stop a survey, whatever the size and the shape of the scene.
-/

set_option autoImplicit false

namespace SceneComponent

open Checked

/-! ## Convertible nodes -/

def Geometry.IsUsable (geometry : Geometry) (name : String) : Prop :=
  ∃ value, geometry.parameter name = .ok value ∧
    (value = .null ∨ Succeeds value.numberDouble)

def Geometry.IsConvertible (geometry : Geometry) : Prop :=
  ∀ typeName names, geometry.typeName = .text typeName →
    (GeometryKind.ofTypeName typeName).argumentNames? = some names →
      ∀ name ∈ names, geometry.IsUsable name

/-- Whether the colours that are written of a material are defined. -/
def Material.IsConvertible (material : Material) : Prop :=
  Color.IsDefined material.color ∧ ∀ kind, material.kind = .ok kind →
    .emissive ∈ kind.properties → Color.IsDefined material.emissive

def Light.IsConvertible (light : Light) : Prop :=
  ∀ kind, light.kind = .ok kind → kind ≠ .other → Color.IsDefined light.color

def Node.IsConvertible (node : Node) : Prop :=
  match node.kind with
  | .mesh => (node.geometry.getD {}).IsConvertible ∧
      (MaterialEntry.chosen node.surface).IsConvertible
  | .light => (Entry.lightOf node).IsConvertible
  | .camera => True
  | .group => True
  | .other => True

variable {places : Value}

/-! ## Transforms -/

namespace Transform

theorem succeeds_part (usual : places.ArePlaces) {given neutral : Value}
    (triple : given.IsTriple) (neutralTriple : neutral.IsTriple) :
    Succeeds (part given neutral places) := by
  obtain ⟨x, y, z, rfl⟩ := triple
  obtain ⟨x', y', z', rfl⟩ := neutralTriple
  obtain ⟨⟨first, second, third⟩, rounded⟩ := Value.succeeds_roundComponents usual x y z
  rw [part, rounded, ok_bind]
  exact succeeds_bind_pure.mpr (succeeds_ok _)

theorem succeeds_ofNode (usual : places.ArePlaces) {node : Node} (decoded : node.IsDecoded) :
    Succeeds (ofNode node places) := by
  have origin : Value.IsTriple (.triple 0.0 0.0 0.0) := ⟨_, _, _, rfl⟩
  have unit : Value.IsTriple (.triple 1.0 1.0 1.0) := ⟨_, _, _, rfl⟩
  obtain ⟨position, placed⟩ := succeeds_part usual decoded.position origin
  obtain ⟨rotation, turned⟩ := succeeds_part usual decoded.rotation origin
  obtain ⟨scale, scaled⟩ := succeeds_part usual decoded.scale unit
  rw [ofNode, placed, turned, scaled]
  exact succeeds_ok _

end Transform

/-! ## Geometries -/

theorem Value.succeeds_intDouble_small {number : Int}
    (small : (Binary64.ofInt? number).isSome = true) :
    Succeeds (Value.int number).numberDouble := by
  -- rewriting instead of unfolding: the double itself is never computed here
  obtain ⟨double, made⟩ := Option.isSome_iff_exists.mp small
  refine ⟨double, ?_⟩
  rw [numberDouble, intDouble, made]
  rfl

theorem Value.eq_null_of_isNull {value : Value} (null : value.isNull = true) : value = .null := by
  cases value with
  | null => rfl
  | _ => cases null

/-- Every argument of a kind of geometry has a default, which is a number. -/
theorem GeometryKind.default_isNumber {kind : GeometryKind} {names : List String}
    (parametric : kind.argumentNames? = some names) :
    ∀ name ∈ names, ∃ value, Default.getValue kind.entity name = .ok value ∧
      Succeeds value.numberDouble := by
  have one : Succeeds (Value.int 1).numberDouble :=
    Value.succeeds_intDouble_small (by decide +kernel)
  have sixteen : Succeeds (Value.int 16).numberDouble :=
    Value.succeeds_intDouble_small (by decide +kernel)
  have thirtyTwo : Succeeds (Value.int 32).numberDouble :=
    Value.succeeds_intDouble_small (by decide +kernel)
  cases kind with
  | box =>
      cases parametric
      simp only [List.forall_mem_cons]
      exact ⟨⟨_, rfl, one⟩, ⟨_, rfl, one⟩, ⟨_, rfl, one⟩, by simp⟩
  | sphere =>
      cases parametric
      simp only [List.forall_mem_cons]
      exact ⟨⟨_, rfl, one⟩, ⟨_, rfl, thirtyTwo⟩, ⟨_, rfl, sixteen⟩, by simp⟩
  | plane =>
      cases parametric
      simp only [List.forall_mem_cons]
      exact ⟨⟨_, rfl, one⟩, ⟨_, rfl, one⟩, by simp⟩
  | cylinder =>
      cases parametric
      simp only [List.forall_mem_cons]
      exact ⟨⟨_, rfl, one⟩, ⟨_, rfl, one⟩, ⟨_, rfl, one⟩, by simp⟩
  | other => cases parametric

namespace GeometryEntry

theorem succeeds_argument (usual : places.ArePlaces) {kind : GeometryKind} {geometry : Geometry}
    {names : List String} (parametric : kind.argumentNames? = some names) {name : String}
    (member : name ∈ names) :
    Succeeds (argument kind geometry places name) ↔ geometry.IsUsable name := by
  obtain ⟨standard, registered, standardNumber⟩ :=
    GeometryKind.default_isNumber parametric name member
  have written : ∀ value : Value,
      Succeeds (do return Value.float (← value.round places)) ↔ Succeeds value.numberDouble := by
    intro value
    rw [succeeds_bind_pure, Value.succeeds_round usual]
  unfold argument Geometry.IsUsable
  rw [succeeds_bind]
  refine exists_congr fun given => and_congr Iff.rfl ?_
  -- a missing parameter is replaced by its default, which is a number of its own
  by_cases missing : given = .null
  · subst missing
    refine iff_of_true ?_ (.inl rfl)
    rw [Value.isNull, if_pos rfl, registered]
    exact (written standard).mpr standardNumber
  · have isGiven : given.isNull = false :=
      Bool.eq_false_iff.mpr fun null => missing (Value.eq_null_of_isNull null)
    rw [isGiven, or_iff_right missing]
    exact written given

theorem succeeds_ofGeometry (usual : places.ArePlaces) {geometry : Geometry}
    (decoded : geometry.IsDecoded) :
    Succeeds (ofGeometry geometry places) ↔ geometry.IsConvertible := by
  obtain ⟨typeName, named⟩ := decoded.typeName
  have condition : geometry.IsConvertible ↔
      ∀ names, (GeometryKind.ofTypeName typeName).argumentNames? = some names →
        ∀ name ∈ names, geometry.IsUsable name := by
    unfold Geometry.IsConvertible
    rw [named]
    constructor
    · intro convertible names
      exact convertible typeName names rfl
    · rintro each other names same
      cases same
      exact each names
  rw [condition]
  cases parametric : (GeometryKind.ofTypeName typeName).argumentNames? with
  | none =>
      have bare : Succeeds (ofGeometry geometry places) := by
        unfold ofGeometry
        simp only [named, Value.toText, ok_bind, parametric]
        exact succeeds_ok _
      simpa using bare
  | some names =>
      have built : Succeeds (ofGeometry geometry places) ↔
          Succeeds (names.mapM (argument (GeometryKind.ofTypeName typeName) geometry places)) := by
        unfold ofGeometry
        simp only [named, Value.toText, ok_bind, parametric]
        exact succeeds_bind_pure
      rw [built, succeeds_mapM]
      simp only [Option.some.injEq, forall_eq']
      exact forall₂_congr fun name member => succeeds_argument usual parametric member

end GeometryEntry

/-! ## Materials -/

theorem succeeds_colorProperty? {entity property : String} {color : Value}
    (triple : color.IsTriple) :
    Succeeds (colorProperty? entity property color) ↔ Color.IsDefined color := by
  unfold colorProperty?
  rw [succeeds_bind_pure, Color.succeeds_toHex triple]

theorem succeeds_numberProperty? (usual : places.ArePlaces) {entity property : String}
    {number standard : Value} (double : number.IsDouble)
    (registered : Default.getValue entity property = .ok standard)
    (standardNumber : Succeeds standard.numberDouble) :
    Succeeds (numberProperty? entity property number places) := by
  unfold numberProperty?
  rw [registered, ok_bind, succeeds_bind_pure]
  exact Value.succeeds_roundUnlessDefault usual double.isNumber standardNumber

/-- Every number among the properties of a kind of material has a default, which is a
number. -/
theorem MaterialProperty.default_isNumber {kind : MaterialKind} {property : MaterialProperty}
    (member : property ∈ kind.properties) (number : property ≠ .emissive) :
    ∃ value, Default.getValue kind.entity property.name = .ok value ∧
      Succeeds value.numberDouble := by
  cases kind with
  | physical =>
      cases property with
      | emissive => exact absurd rfl number
      | _ => exact ⟨_, rfl, succeeds_ok _⟩
  | standard =>
      cases property with
      | emissive => exact absurd rfl number
      | clearcoat => simp [MaterialKind.properties] at member
      | _ => exact ⟨_, rfl, succeeds_ok _⟩
  | lambert => exact absurd (by simpa [MaterialKind.properties] using member) number
  | basic => simp [MaterialKind.properties] at member

theorem MaterialProperty.succeeds_value? (usual : places.ArePlaces) {material : Material}
    (decoded : material.IsDecoded) {kind : MaterialKind} {property : MaterialProperty}
    (member : property ∈ kind.properties) :
    Succeeds (property.value? kind.entity material places) ↔
      (property = .emissive → Color.IsDefined material.emissive) := by
  by_cases colored : property = .emissive
  · subst colored
    rw [value?, succeeds_colorProperty? decoded.emissive, imp_iff_right rfl]
  · obtain ⟨standard, registered, standardNumber⟩ := default_isNumber member colored
    refine iff_of_true ?_ fun isColor => absurd isColor colored
    cases property with
    | roughness =>
        exact succeeds_numberProperty? usual decoded.roughness registered standardNumber
    | metalness =>
        exact succeeds_numberProperty? usual decoded.metalness registered standardNumber
    | clearcoat =>
        exact succeeds_numberProperty? usual decoded.clearcoat registered standardNumber
    | emissive => exact absurd rfl colored

namespace MaterialEntry

theorem succeeds_kindProperties {entity : String} {material : Material}
    {properties : List MaterialProperty} :
    Succeeds (kindProperties entity material places properties) ↔
      ∀ property ∈ properties, Succeeds (property.value? entity material places) := by
  induction properties with
  | nil => exact iff_of_true (succeeds_ok []) (by simp)
  | cons property rest inductionHypothesis =>
      rw [kindProperties, List.forall_mem_cons, ← inductionHypothesis]
      exact succeeds_bind_iff_and fun value => succeeds_bind_pure

theorem succeeds_propertiesOf (usual : places.ArePlaces) {material : Material}
    (decoded : material.IsDecoded) {kind : MaterialKind} :
    Succeeds (propertiesOf kind material places) ↔
      Color.IsDefined material.color ∧
        (.emissive ∈ kind.properties → Color.IsDefined material.emissive) := by
  have ofKind : Succeeds (kindProperties kind.entity material places kind.properties) ↔
      (.emissive ∈ kind.properties → Color.IsDefined material.emissive) := by
    rw [succeeds_kindProperties]
    constructor
    · intro each member
      exact (MaterialProperty.succeeds_value? usual decoded member).mp (each _ member) rfl
    · intro defined property member
      apply (MaterialProperty.succeeds_value? usual decoded member).mpr
      rintro rfl
      exact defined member
  have opacity : Succeeds (numberProperty? "material" "opacity" material.opacity places) :=
    succeeds_numberProperty? usual decoded.opacity rfl (succeeds_ok _)
  obtain ⟨opacity, written⟩ := opacity
  rw [← ofKind, ← succeeds_colorProperty? decoded.color]
  unfold propertiesOf
  simp only [written, ok_bind]
  exact succeeds_bind_iff_and fun color => succeeds_bind_pure

theorem succeeds_ofSurface (usual : places.ArePlaces) {surface : Surface}
    (decoded : surface.IsDecoded) :
    Succeeds (ofSurface surface places) ↔ (chosen surface).IsConvertible := by
  have chosenDecoded := decoded.chosen
  obtain ⟨typeName, named⟩ := chosenDecoded.typeName
  have kind : (chosen surface).kind = .ok (MaterialKind.ofTypeName typeName) := by
    rw [Material.kind, named]
    rfl
  unfold ofSurface Material.IsConvertible
  simp only [kind, ok_bind, Except.ok.injEq, forall_eq']
  rw [succeeds_bind_pure, succeeds_propertiesOf usual chosenDecoded]

end MaterialEntry

/-! ## Lights and cameras -/

namespace Entry

theorem succeeds_roundedProperties (usual : places.ArePlaces) {properties : Properties}
    (doubles : ∀ entry ∈ properties, entry.2.IsDouble) :
    Succeeds (roundedProperties places properties) := by
  induction properties with
  | nil => exact succeeds_ok []
  | cons entry rest inductionHypothesis =>
      obtain ⟨double, others⟩ := List.forall_mem_cons.mp doubles
      obtain ⟨number, rounded⟩ := (Value.succeeds_round usual).mpr double.isNumber
      rw [roundedProperties, rounded, ok_bind, succeeds_bind_pure]
      exact inductionHypothesis others

theorem succeeds_ofLight? (usual : places.ArePlaces) {node : Node} (decoded : node.IsDecoded)
    (isLight : node.kind = .light) :
    Succeeds (ofLight? node places) ↔ (lightOf node).IsConvertible := by
  have payload := decoded.payload
  simp only [Node.HasPayload, isLight] at payload
  obtain ⟨light, given, lightDecoded⟩ := payload
  obtain ⟨typeName, named⟩ := lightDecoded.typeName
  have same : lightOf node = light := by rw [lightOf, given, Option.getD_some]
  have kind : light.kind = .ok (LightKind.ofTypeName typeName) := by
    rw [Light.kind, named]
    rfl
  obtain ⟨transform, placed⟩ := Transform.succeeds_ofNode usual decoded
  unfold ofLight? Light.IsConvertible
  simp only [same, kind, ok_bind, Except.ok.injEq, forall_eq']
  cases modelled : (LightKind.ofTypeName typeName).properties? with
  | none =>
      have other := LightKind.properties?_eq_none.mp modelled
      exact iff_of_true (succeeds_ok _) fun supported => absurd other supported
  | some properties =>
      have supported : LightKind.ofTypeName typeName ≠ .other := by
        intro other
        rw [LightKind.properties?_eq_none.mpr other] at modelled
        cases modelled
      obtain ⟨numbers, rounded⟩ := succeeds_roundedProperties usual
        (List.forall_mem_map.mpr fun property _ => lightDecoded.numbers property :
          ∀ entry ∈ properties.map fun property => (property.name, property.value light),
            entry.2.IsDouble)
      simp only [rounded, placed, ok_bind, imp_iff_right supported]
      rw [succeeds_bind_pure, succeeds_colorProperty? lightDecoded.color]

theorem succeeds_ofCamera? (usual : places.ArePlaces) {node : Node} (decoded : node.IsDecoded)
    (isCamera : node.kind = .camera) : Succeeds (ofCamera? node places) := by
  have payload := decoded.payload
  simp only [Node.HasPayload, isCamera] at payload
  obtain ⟨camera, given, cameraDecoded⟩ := payload
  obtain ⟨typeName, named⟩ := cameraDecoded.typeName
  have same : cameraOf node = camera := by rw [cameraOf, given, Option.getD_some]
  have kind : camera.kind = .ok (CameraKind.ofTypeName typeName) := by
    rw [Camera.kind, named]
    rfl
  obtain ⟨transform, placed⟩ := Transform.succeeds_ofNode usual decoded
  unfold ofCamera?
  simp only [same, kind, ok_bind]
  cases (CameraKind.ofTypeName typeName).properties? with
  | none => exact succeeds_ok _
  | some properties =>
      obtain ⟨numbers, rounded⟩ := succeeds_roundedProperties usual
        (List.forall_mem_map.mpr fun property _ => cameraDecoded.numbers property :
          ∀ entry ∈ properties.map fun property => (property.name, property.value camera),
            entry.2.IsDouble)
      simp only [rounded, placed, ok_bind]
      exact succeeds_ok _

end Entry

/-! ## Nodes -/

theorem Value.IsText.succeeds_toName {value : Value} (text : value.IsText) :
    Succeeds value.toName := by
  obtain ⟨content, rfl⟩ := text
  unfold toName givenOr
  by_cases given : (text content).isTruthy
  · rw [if_pos given]
    exact succeeds_ok content
  · rw [if_neg given]
    exact succeeds_ok ""

theorem MeshEntry.succeeds_ofNode (usual : places.ArePlaces) {shadows : Value} {index : Nat}
    {node : Node} (decoded : node.IsDecoded) (isMesh : node.kind = .mesh) :
    Succeeds (ofNode node index places shadows) ↔
      (node.geometry.getD {}).IsConvertible ∧
        (MaterialEntry.chosen node.surface).IsConvertible := by
  have payload := decoded.payload
  simp only [Node.HasPayload, isMesh] at payload
  obtain ⟨⟨geometry, given, geometryDecoded⟩, surfaceDecoded⟩ := payload
  obtain ⟨name, named⟩ := decoded.name.succeeds_toName
  obtain ⟨transform, placed⟩ := Transform.succeeds_ofNode usual decoded
  rw [given, Option.getD_some, ← GeometryEntry.succeeds_ofGeometry usual geometryDecoded,
    ← MaterialEntry.succeeds_ofSurface usual surfaceDecoded]
  unfold ofNode
  simp only [named, given, Option.getD_some, ok_bind, placed]
  exact succeeds_bind_iff_and fun shaped => succeeds_bind_pure

namespace Visit

/-- The step lemma: a visit to a decoded node succeeds exactly when it is convertible. -/
theorem succeeds_ofNode (usual : places.ArePlaces) {shadows : Value} {meshCount : Nat}
    {node : Node} (decoded : node.IsDecoded) :
    Succeeds (ofNode places shadows meshCount node) ↔ node.IsConvertible := by
  unfold ofNode Node.IsConvertible
  cases kind : node.kind with
  | mesh => exact succeeds_bind_pure.trans (MeshEntry.succeeds_ofNode usual decoded kind)
  | light => exact succeeds_bind_pure.trans (Entry.succeeds_ofLight? usual decoded kind)
  | camera =>
      exact iff_of_true (succeeds_bind_pure.mpr (Entry.succeeds_ofCamera? usual decoded kind))
        trivial
  | group => exact iff_of_true (succeeds_ok _) trivial
  | other => exact iff_of_true (succeeds_ok _) trivial

/-- The run lemma: visits to decoded nodes succeed exactly when all are convertible. -/
theorem succeeds_ofNodes (usual : places.ArePlaces) {shadows : Value} {meshCount : Nat}
    {nodes : List Node} (decoded : ∀ node ∈ nodes, node.IsDecoded) :
    Succeeds (ofNodes places shadows meshCount nodes) ↔ ∀ node ∈ nodes, node.IsConvertible := by
  induction nodes generalizing meshCount with
  | nil => exact iff_of_true (succeeds_ok []) (by simp)
  | cons node rest inductionHypothesis =>
      obtain ⟨nodeDecoded, restDecoded⟩ := List.forall_mem_cons.mp decoded
      rw [ofNodes, List.forall_mem_cons, ← inductionHypothesis restDecoded,
        ← succeeds_ofNode usual nodeDecoded]
      exact succeeds_bind_iff_and fun visit => succeeds_bind_pure

end Visit

/-! ## Surveys -/

/-- A survey of a loaded scene succeeds exactly when every node below the root is
convertible. -/
theorem Inventory.succeeds_survey (usual : places.ArePlaces) {root : Node} {clips : List Clip}
    {shadows : Value} (decoded : ∀ node ∈ root.properDescendants, node.IsDecoded)
    (named : ∀ clip ∈ clips, clip.name.IsText) :
    Succeeds (survey root clips places shadows) ↔
      ∀ node ∈ root.properDescendants, node.IsConvertible := by
  have visited : Succeeds (Visit.ofNodes places shadows 0 root.properDescendants) ↔
      ∀ node ∈ root.properDescendants, node.IsConvertible :=
    Visit.succeeds_ofNodes usual decoded
  obtain ⟨slots, slotted⟩ := Clip.succeeds_slots fun clip member =>
    (named clip member).succeeds_toName
  rw [← visited]
  unfold survey
  rw [Node.descendants_eq_proper, slotted]
  exact succeeds_bind_pure

end SceneComponent
