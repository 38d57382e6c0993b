import Mathlib
import SceneComponent.Inventory.Extraction
import SceneComponent.Proofs.Value.Rounded

/-!
# Left-out defaults

A property stands for its payload, a rounded number, a colour, a flag or a side, and
is left out when the payload is the default of the engine.  Nothing is lost in this
way: what is left out, read as the default, is the payload again.  And nothing is
written in vain: no written value equals the default of its name.
-/

set_option autoImplicit false

namespace SceneComponent

open Checked Binary64

/-! ## Payloads -/

/-- A default as the value of a property. -/
def Default.written : Default → Value
  | .triple x y z => .triple x y z
  | .value (.text digits) => .text ("#" ++ digits)
  | .value content => content
  | .side face => .constant face.name

/-- What a property stands for, and the entity whose default it has when it is left
out. -/
structure Payload where
  entity : String
  name : String
  value : Value

namespace Payload

def standard? (payload : Payload) : Option Value :=
  (Default.find? payload.entity payload.name).map Default.written

def isUsual (payload : Payload) : Bool :=
  payload.standard?.any fun standard => payload.value.sameScalar standard

def kept? (payload : Payload) : Option Value :=
  if payload.isUsual then none else some payload.value

def written (payloads : List Payload) : Properties :=
  payloads.flatMap fun payload => MaterialEntry.named payload.name payload.kept?

/-- A payload that is its default whenever it equals it as a number or a text. -/
def IsFaithful (payload : Payload) : Prop :=
  payload.isUsual = true → payload.standard? = some payload.value

end Payload

/-- Properties that stand for payloads: one that is left out is read as its default, and
only payloads that differ from their defaults are written. -/
structure Properties.Elide (properties : Properties) (payloads : List Payload) : Prop where
  distinct : (payloads.map Payload.name).Nodup
  ordered : (properties.map Prod.fst).Sublist (payloads.map Payload.name)
  lossless : ∀ payload ∈ payloads,
    (properties.lookup payload.name).or payload.standard? = some payload.value
  minimal : ∀ property ∈ properties, ∃ payload ∈ payloads,
    property = (payload.name, payload.value) ∧ payload.isUsual = false

namespace Payload

theorem kept?_or_standard? {payload : Payload} (faithful : payload.IsFaithful) :
    payload.kept?.or payload.standard? = some payload.value := by
  by_cases usual : payload.isUsual = true
  · rw [kept?, if_pos usual, Option.none_or, faithful usual]
  · rw [kept?, if_neg usual, Option.some_or]

theorem lookup_named (name other : String) (value : Option Value) :
    (MaterialEntry.named name value).lookup other = if other = name then value else none := by
  cases value with
  | none => simp [MaterialEntry.named]
  | some content =>
      by_cases same : other = name
      · simp [MaterialEntry.named, same]
      · have different : (other == name) = false := beq_false_of_ne same
        simp [MaterialEntry.named, List.lookup_cons, different, same]

theorem lookup_written_eq_none {payloads : List Payload} {name : String}
    (fresh : name ∉ payloads.map Payload.name) : (written payloads).lookup name = none := by
  induction payloads with
  | nil => rfl
  | cons first rest inductionHypothesis =>
      rw [List.map_cons, List.mem_cons, not_or] at fresh
      rw [written, List.flatMap_cons, List.lookup_append, lookup_named, if_neg fresh.1,
        Option.none_or]
      exact inductionHypothesis fresh.2

theorem lookup_written {payloads : List Payload}
    (distinct : (payloads.map Payload.name).Nodup) {payload : Payload}
    (member : payload ∈ payloads) : (written payloads).lookup payload.name = payload.kept? := by
  induction payloads with
  | nil => cases member
  | cons first rest inductionHypothesis =>
      obtain ⟨fresh, restDistinct⟩ := List.nodup_cons.mp distinct
      rw [written, List.flatMap_cons, List.lookup_append, lookup_named]
      rcases List.mem_cons.mp member with rfl | inRest
      · rw [if_pos rfl]
        exact (congrArg _ (lookup_written_eq_none fresh)).trans (Option.or_none)
      · have other : payload.name ≠ first.name := by
          intro same
          exact fresh (same ▸ List.mem_map_of_mem inRest)
        rw [if_neg other, Option.none_or]
        exact inductionHypothesis restDistinct inRest

theorem ordered_written (payloads : List Payload) :
    ((written payloads).map Prod.fst).Sublist (payloads.map Payload.name) := by
  induction payloads with
  | nil => exact List.Sublist.refl _
  | cons first rest inductionHypothesis =>
      rw [written, List.flatMap_cons, List.map_append]
      cases kept : first.kept? with
      | none => exact inductionHypothesis.cons _
      | some value => exact inductionHypothesis.cons_cons _

/-- The payloads that differ from their defaults stand for all of them. -/
theorem written_elide {payloads : List Payload}
    (distinct : (payloads.map Payload.name).Nodup)
    (faithful : ∀ payload ∈ payloads, payload.IsFaithful) : (written payloads).Elide payloads := by
  refine {
    distinct
    ordered := ordered_written payloads
    lossless := ?_
    minimal := ?_ }
  · intro payload member
    rw [lookup_written distinct member]
    exact kept?_or_standard? (faithful payload member)
  · intro property member
    obtain ⟨payload, inPayloads, inNamed⟩ := List.mem_flatMap.mp member
    rw [MaterialEntry.named, Option.mem_toList, Option.map_eq_some_iff] at inNamed
    obtain ⟨value, kept, rfl⟩ := inNamed
    rw [kept?] at kept
    split at kept
    · cases kept
    · next unusual =>
        cases kept
        exact ⟨payload, inPayloads, rfl, Bool.eq_false_iff.mpr unusual⟩

end Payload

/-! ## Payloads of materials -/

/-- Three channels, none of which is undefined. -/
def Color.HasDefinedChannels (color : Value) : Prop :=
  ∃ x y z, NumberArray.ofValue color = .ok ⟨[3], [x, y, z]⟩ ∧
    isNaN x = false ∧ isNaN y = false ∧ isNaN z = false

theorem Color.HasDefinedChannels.succeeds_toHex {color : Value}
    (defined : HasDefinedChannels color) : Succeeds (toHex color) := by
  obtain ⟨x, y, z, read, first, second, third⟩ := defined
  have digits : Succeeds (channelDigits [x, y, z]) :=
    succeeds_channelDigits.mpr (by simp [first, second, third])
  rw [toHex, read, ok_bind]
  exact succeeds_bind_pure.mpr digits

def colorPayload (color : Value) : Except Failure Value := do
  return .text ("#" ++ (← Color.toHex color))

def numberPayload (number places : Value) : Except Failure Value := do
  return .float (← number.round places)

def MaterialProperty.payload (property : MaterialProperty) (material : Material)
    (places : Value) : Except Failure Value :=
  match property with
  | .roughness => numberPayload material.roughness places
  | .metalness => numberPayload material.metalness places
  | .clearcoat => numberPayload material.clearcoat places
  | .emissive => colorPayload material.emissive

/-- The payloads of a material in their order, around those of its kind. -/
def Material.payloadsAround (material : Material) (color : Value) (ofKind : List Payload)
    (opacity : Value) : List Payload :=
  ⟨"material", "color", color⟩ :: ofKind ++
    [⟨"material", "transparent", .bool material.transparent.isTruthy⟩,
      ⟨"material", "opacity", opacity⟩,
      ⟨"material", "side", .constant material.side.name⟩]

/-- What the properties of a material of a kind stand for.  The properties of the kind have
the defaults of the kind, the others those of materials in general. -/
def Material.payloads (kind : MaterialKind) (material : Material) (places : Value) :
    Except Failure (List Payload) := do
  let color ← colorPayload material.color
  let ofKind ← kind.properties.mapM fun property => do
    return ⟨kind.entity, property.name, ← property.payload material places⟩
  let opacity ← numberPayload material.opacity places
  return material.payloadsAround color ofKind opacity

/-- A material with colours of three defined channels and numbers where they belong. -/
structure Material.IsComplete (material : Material) : Prop where
  color : Color.HasDefinedChannels material.color
  emissive : Color.HasDefinedChannels material.emissive
  roughness : Succeeds material.roughness.numberDouble
  metalness : Succeeds material.metalness.numberDouble
  clearcoat : Succeeds material.clearcoat.numberDouble
  opacity : Succeeds material.opacity.numberDouble

variable {places : Value}

namespace Payload

/-- An extracted property is a payload that is kept unless it is the default. -/
def IsExtracted (payload : Payload) (outcome : Except Failure (Option Value)) : Prop :=
  outcome = .ok payload.kept? ∧ payload.IsFaithful

variable {payload : Payload} {standard : Default}

theorem isUsual_of_registered
    (registered : Default.find? payload.entity payload.name = some standard) :
    payload.isUsual = payload.value.sameScalar standard.written := by
  rw [isUsual, standard?, registered]
  rfl

theorem isFaithful_of_registered
    (registered : Default.find? payload.entity payload.name = some standard)
    (same : payload.value.sameScalar standard.written = true →
      payload.value = standard.written) : payload.IsFaithful := by
  intro usual
  rw [isUsual_of_registered registered] at usual
  rw [standard?, registered, same usual]
  rfl

end Payload

/-- A written colour stands for its digits, whatever else the colour holds. -/
theorem colorProperty?_extracts_digits {entity property usual digits : String} {color : Value}
    (hexadecimal : Color.toHex color = .ok digits)
    (registered : Default.find? entity property = some (.value (.text usual))) :
    Payload.IsExtracted ⟨entity, property, .text ("#" ++ digits)⟩
      (colorProperty? entity property color) := by
  refine ⟨?_, ?_⟩
  · have same : Payload.isUsual ⟨entity, property, .text ("#" ++ digits)⟩ =
        Default.isDefault entity property (.value (.text digits)) := by
      rw [Payload.isUsual_of_registered registered, Default.isDefault, registered]
      simp only [Default.written, Default.same, Value.sameScalar]
      rw [Bool.eq_iff_iff, beq_iff_eq, beq_iff_eq, String.append_right_inj, eq_comm]
    rw [colorProperty?, hexadecimal, ok_bind, Payload.kept?, same]
    rfl
  · refine Payload.isFaithful_of_registered registered fun same => ?_
    simp only [Default.written, Value.sameScalar, beq_iff_eq] at same
    rw [Default.written, same]

theorem colorProperty?_extracts {entity property usual : String} {color : Value}
    (defined : Color.HasDefinedChannels color)
    (registered : Default.find? entity property = some (.value (.text usual))) :
    ∃ value, colorPayload color = .ok value ∧
      Payload.IsExtracted ⟨entity, property, value⟩ (colorProperty? entity property color) := by
  obtain ⟨digits, hexadecimal⟩ := defined.succeeds_toHex
  exact ⟨.text ("#" ++ digits), by rw [colorPayload, hexadecimal]; rfl,
    colorProperty?_extracts_digits hexadecimal registered⟩

theorem numberProperty?_extracts (usual : places.ArePlaces) {entity property : String}
    {number : Value} {standard : Float} (numeric : Succeeds number.numberDouble)
    (registered : Default.find? entity property = some (.value (.float standard)))
    (settled : Value.roundDouble standard places = .ok standard) :
    ∃ value, numberPayload number places = .ok value ∧
      Payload.IsExtracted ⟨entity, property, value⟩
        (numberProperty? entity property number places) := by
  obtain ⟨rounded, isRounded⟩ := (Value.succeeds_round usual).mpr numeric
  refine ⟨.float rounded, by rw [numberPayload, isRounded]; rfl, ?_, ?_⟩
  · have found : Default.getValue entity property = .ok (.float standard) := by
      rw [Default.getValue, Default.get, registered]
      rfl
    have standardRounded : (Value.float standard).round places = .ok standard := settled
    have same : Payload.isUsual ⟨entity, property, .float rounded⟩ = equals rounded standard := by
      rw [Payload.isUsual_of_registered registered]
      rfl
    rw [numberProperty?, found, ok_bind, Value.roundUnlessDefault, isRounded, ok_bind,
      standardRounded, ok_bind, Payload.kept?, same]
    by_cases equal : equals rounded standard = true
    · rw [if_pos equal, if_pos equal]
      rfl
    · rw [if_neg equal, if_neg equal]
      rfl
  · refine Payload.isFaithful_of_registered registered fun same => ?_
    exact congrArg Value.float (eq_of_equals (Value.isRounded_of_round isRounded).unsigned
      (Value.not_isNegativeZero_of_roundDouble settled) same)

theorem MaterialProperty.value?_extracts (usual : places.ArePlaces) {material : Material}
    (complete : material.IsComplete) {kind : MaterialKind} {property : MaterialProperty}
    (member : property ∈ kind.properties) :
    ∃ value, property.payload material places = .ok value ∧
      Payload.IsExtracted ⟨kind.entity, property.name, value⟩
        (property.value? kind.entity material places) := by
  have one := Value.roundDouble_one usual
  have zero := Value.roundDouble_zero usual
  cases kind with
  | physical =>
      cases property with
      | roughness => exact numberProperty?_extracts usual complete.roughness rfl one
      | metalness => exact numberProperty?_extracts usual complete.metalness rfl zero
      | clearcoat => exact numberProperty?_extracts usual complete.clearcoat rfl zero
      | emissive => exact colorProperty?_extracts complete.emissive rfl
  | standard =>
      cases property with
      | roughness => exact numberProperty?_extracts usual complete.roughness rfl one
      | metalness => exact numberProperty?_extracts usual complete.metalness rfl zero
      | clearcoat => simp [MaterialKind.properties] at member
      | emissive => exact colorProperty?_extracts complete.emissive rfl
  | lambert =>
      obtain rfl : property = .emissive := by simpa [MaterialKind.properties] using member
      exact colorProperty?_extracts complete.emissive rfl
  | basic => simp [MaterialKind.properties] at member

namespace MaterialEntry

/-- The properties of a kind, one after the other. -/
theorem kindProperties_extract (usual : places.ArePlaces) {material : Material}
    (complete : material.IsComplete) {kind : MaterialKind} {properties : List MaterialProperty}
    (ofKind : ∀ property ∈ properties, property ∈ kind.properties) :
    ∃ payloads : List Payload,
      (properties.mapM fun property => do
        return (⟨kind.entity, property.name, ← property.payload material places⟩ : Payload)) =
          .ok payloads ∧
      payloads.map Payload.name = properties.map MaterialProperty.name ∧
      (∀ payload ∈ payloads, payload.IsFaithful) ∧
      kindProperties kind.entity material places properties = .ok (Payload.written payloads) := by
  induction properties with
  | nil => exact ⟨[], rfl, rfl, by simp, rfl⟩
  | cons property rest inductionHypothesis =>
      obtain ⟨member, others⟩ := List.forall_mem_cons.mp ofKind
      obtain ⟨value, given, extracted, faithful⟩ :=
        MaterialProperty.value?_extracts usual complete member
      obtain ⟨payloads, givenRest, names, faithfulRest, written⟩ := inductionHypothesis others
      refine ⟨⟨kind.entity, property.name, value⟩ :: payloads, ?_, ?_, ?_, ?_⟩
      · rw [List.mapM_cons, given, givenRest]
        rfl
      · rw [List.map_cons, List.map_cons, names]
      · exact List.forall_mem_cons.mpr ⟨faithful, faithfulRest⟩
      · rw [kindProperties, extracted, written]
        rfl

theorem kept?_flag (truth : Bool) :
    (Payload.mk "material" "transparent" (.bool truth)).kept? =
      if truth then some (.bool true) else none := by
  cases truth <;> rfl

theorem kept?_side (side : Side) :
    (Payload.mk "material" "side" (.constant side.name)).kept? = sideProperty? side := by
  cases side <;> rfl

theorem isFaithful_flag (truth : Bool) :
    (Payload.mk "material" "transparent" (.bool truth)).IsFaithful := by
  cases truth with
  | true => exact fun usual => absurd usual (by decide)
  | false => exact fun _ => rfl

theorem isFaithful_side (side : Side) :
    (Payload.mk "material" "side" (.constant side.name)).IsFaithful := by
  cases side with
  | front => exact fun _ => rfl
  | back => exact fun usual => absurd usual (by decide)
  | double => exact fun usual => absurd usual (by decide)

theorem nodup_propertyNames (kind : MaterialKind) :
    ("color" :: kind.properties.map MaterialProperty.name ++
      ["transparent", "opacity", "side"]).Nodup := by
  cases kind <;> decide

theorem propertiesOf_elide (usual : places.ArePlaces) {material : Material}
    (complete : material.IsComplete) (kind : MaterialKind) :
    ∃ payloads, material.payloads kind places = .ok payloads ∧
      ∃ properties, propertiesOf kind material places = .ok properties ∧
        properties.Elide payloads := by
  have white : Default.find? "material" "color" = some (.value (.text "ffffff")) := rfl
  have full : Default.find? "material" "opacity" = some (.value (.float 1.0)) := rfl
  obtain ⟨color, colorGiven, colorExtracted, colorFaithful⟩ :=
    colorProperty?_extracts complete.color white
  obtain ⟨opacity, opacityGiven, opacityExtracted, opacityFaithful⟩ :=
    numberProperty?_extracts usual complete.opacity full (Value.roundDouble_one usual)
  obtain ⟨ofKind, kindGiven, kindNames, kindFaithful, kindExtracted⟩ :=
    kindProperties_extract usual complete (fun _ member => member : ∀ property ∈ kind.properties,
      property ∈ kind.properties)
  have given : material.payloads kind places =
      .ok (material.payloadsAround color ofKind opacity) := by
    rw [Material.payloads, colorGiven, ok_bind, kindGiven, ok_bind, opacityGiven]
    rfl
  have extracted : propertiesOf kind material places =
      .ok (Payload.written (material.payloadsAround color ofKind opacity)) := by
    rw [propertiesOf, colorExtracted, ok_bind, kindExtracted, ok_bind, opacityExtracted, ok_bind,
      ← kept?_flag, ← kept?_side]
    simp [Material.payloadsAround, Payload.written, pure, Except.pure]
  have distinct : ((material.payloadsAround color ofKind opacity).map Payload.name).Nodup := by
    have names := nodup_propertyNames kind
    rw [← kindNames] at names
    simpa [Material.payloadsAround] using names
  have faithful : ∀ payload ∈ material.payloadsAround color ofKind opacity,
      payload.IsFaithful := by
    simp only [Material.payloadsAround, List.cons_append, List.forall_mem_cons,
      List.forall_mem_append]
    exact ⟨colorFaithful, kindFaithful, isFaithful_flag _, opacityFaithful, isFaithful_side _,
      by simp⟩
  exact ⟨_, given, _, extracted, Payload.written_elide distinct faithful⟩

end MaterialEntry

/-! ## Transforms -/

/-- A node with three numbers in each part of its transform. -/
structure Node.IsPlaced (node : Node) : Prop where
  position : Succeeds node.position.components
  rotation : Succeeds node.rotation.components
  scale : Succeeds node.scale.components

/-- A part of a transform that stands for rounded components: it is left out when they are
the neutral ones, and only then. -/
structure Transform.ElidesPart (part : Option Value) (given neutral places : Value) : Prop where
  lossless : ∃ x y z, given.roundComponents places = .ok (x, y, z) ∧
    part.getD neutral = .triple x y z
  minimal : ∀ value, part = some value → value.sameNumbers neutral = .ok false

structure Transform.Elides (transform : Transform) (node : Node) (places : Value) : Prop where
  position : ElidesPart transform.position node.position (.triple 0.0 0.0 0.0) places
  rotation : ElidesPart transform.rotation node.rotation (.triple 0.0 0.0 0.0) places
  scale : ElidesPart transform.scale node.scale (.triple 1.0 1.0 1.0) places

namespace Transform

theorem sameNumbers_triple (first second third standard : Float) :
    (Value.triple first second third).sameNumbers (.triple standard standard standard) =
      .ok (equals first standard && (equals second standard && equals third standard)) := by
  rw [Value.sameNumbers, Value.ofValue_triple, Value.ofValue_triple]
  simp [NumberArray.equals, bind, Except.bind, pure, Except.pure]

/-- A part that is made elides; that it can be made is another matter. -/
theorem elidesPart_of_part {given : Value} {standard : Float} {part : Option Value}
    (unsigned : ¬ IsNegativeZero standard)
    (success : Transform.part given (.triple standard standard standard) places = .ok part) :
    ElidesPart part given (.triple standard standard standard) places := by
  obtain ⟨⟨first, second, third⟩, rounded, success⟩ := bind_eq_ok.mp success
  obtain ⟨firstRounded, secondRounded, thirdRounded⟩ := Value.isRounded_of_roundComponents rounded
  dsimp only at success
  rw [sameNumbers_triple, ok_bind] at success
  by_cases neutral : (equals first standard && (equals second standard && equals third standard))
      = true
  · rw [if_pos neutral] at success
    cases return_eq_ok.mp success
    refine ⟨⟨first, second, third, rounded, ?_⟩, by simp⟩
    simp only [Bool.and_eq_true] at neutral
    obtain ⟨firstNeutral, secondNeutral, thirdNeutral⟩ := neutral
    rw [eq_of_equals firstRounded.unsigned unsigned firstNeutral,
      eq_of_equals secondRounded.unsigned unsigned secondNeutral,
      eq_of_equals thirdRounded.unsigned unsigned thirdNeutral]
    rfl
  · rw [if_neg neutral] at success
    cases return_eq_ok.mp success
    refine ⟨⟨first, second, third, rounded, rfl⟩, ?_⟩
    intro value present
    cases present
    rw [sameNumbers_triple, Bool.eq_false_iff.mpr neutral]

theorem elides_of_ofNode {node : Node} {transform : Transform}
    (success : ofNode node places = .ok transform) : transform.Elides node places := by
  have zero : ¬ IsNegativeZero 0.0 := fun signed => absurd signed.1 (by decide)
  have one : ¬ IsNegativeZero 1.0 := fun signed => absurd signed.1 (by decide)
  unfold ofNode at success
  obtain ⟨position, positionPart, success⟩ := bind_eq_ok.mp success
  obtain ⟨rotation, rotationPart, success⟩ := bind_eq_ok.mp success
  obtain ⟨scale, scalePart, success⟩ := bind_eq_ok.mp success
  cases return_eq_ok.mp success
  exact ⟨elidesPart_of_part zero positionPart, elidesPart_of_part zero rotationPart,
    elidesPart_of_part one scalePart⟩

theorem succeeds_part_of_components (usual : places.ArePlaces) {given : Value}
    (numeric : Succeeds given.components) (standard : Float) :
    Succeeds (Transform.part given (.triple standard standard standard) places) := by
  obtain ⟨⟨x, y, z⟩, components⟩ := numeric
  obtain ⟨first, firstRounded⟩ := Value.succeeds_roundDouble usual x
  obtain ⟨second, secondRounded⟩ := Value.succeeds_roundDouble usual y
  obtain ⟨third, thirdRounded⟩ := Value.succeeds_roundDouble usual z
  have rounded : given.roundComponents places = .ok (first, second, third) := by
    rw [Value.roundComponents, components, ok_bind]
    simp only [firstRounded, secondRounded, thirdRounded, ok_bind]
    rfl
  rw [part, rounded, ok_bind]
  dsimp only
  rw [sameNumbers_triple, ok_bind]
  exact succeeds_ok _

theorem ofNode_elides (usual : places.ArePlaces) {node : Node} (placed : node.IsPlaced) :
    ∃ transform, ofNode node places = .ok transform ∧ transform.Elides node places := by
  obtain ⟨position, positionPart⟩ := succeeds_part_of_components usual placed.position 0.0
  obtain ⟨rotation, rotationPart⟩ := succeeds_part_of_components usual placed.rotation 0.0
  obtain ⟨scale, scalePart⟩ := succeeds_part_of_components usual placed.scale 1.0
  have made : ofNode node places = .ok ⟨position, rotation, scale⟩ := by
    rw [ofNode, positionPart, ok_bind, rotationPart, ok_bind, scalePart]
    rfl
  exact ⟨_, made, elides_of_ofNode made⟩

end Transform

/-! ## Meshes -/

/-- What a mesh leaves out of its transform and its material is read back from the
defaults, and nothing that equals its default is written.  The numbers may be infinite;
only the channels of the colours have to be defined. -/
theorem Node.defaults_elided (usual : places.ArePlaces) {node : Node} (placed : node.IsPlaced)
    {material : Material} (covered : MaterialEntry.chosen node.surface = material)
    (complete : material.IsComplete) {kind : MaterialKind} (known : material.kind = .ok kind) :
    (∃ transform, Transform.ofNode node places = .ok transform ∧ transform.Elides node places) ∧
      ∃ payloads entry records, material.payloads kind places = .ok payloads ∧
        MaterialEntry.ofSurface node.surface places = .ok (entry, records) ∧
        entry.properties.Elide payloads := by
  obtain ⟨payloads, given, properties, extracted, elided⟩ :=
    MaterialEntry.propertiesOf_elide usual complete kind
  refine ⟨Transform.ofNode_elides usual placed, payloads, ?_⟩
  refine ⟨⟨kind.entity, meshTag ++ kind.name ++ "Material", properties⟩,
    MaterialEntry.severalRecords node.surface, given, ?_, elided⟩
  rw [MaterialEntry.ofSurface, covered, known, ok_bind, extracted]
  rfl

/-- A mesh that is moved by less than what is kept, with a rough material. -/
def roughMesh : Node where
  kind := .mesh
  position := .triple 0.0004 0.0 0.0
  surface := .single { typeName := .text "MeshStandardMaterial", roughness := .float 0.5 }

theorem roughMesh_elided :
    (∃ transform, Transform.ofNode roughMesh = .ok transform ∧
      transform.Elides roughMesh Value.usualPlaces) ∧
      ∃ payloads entry records,
        (MaterialEntry.chosen roughMesh.surface).payloads .standard Value.usualPlaces =
          .ok payloads ∧
        MaterialEntry.ofSurface roughMesh.surface = .ok (entry, records) ∧
        entry.properties.Elide payloads := by
  have placed : roughMesh.IsPlaced :=
    { position := ⟨_, rfl⟩, rotation := ⟨_, rfl⟩, scale := ⟨_, rfl⟩ }
  have white : Color.HasDefinedChannels Color.white :=
    ⟨1.0, 1.0, 1.0, rfl, by decide +kernel, by decide +kernel, by decide +kernel⟩
  have black : Color.HasDefinedChannels Color.black :=
    ⟨0.0, 0.0, 0.0, rfl, by decide +kernel, by decide +kernel, by decide +kernel⟩
  have complete : (MaterialEntry.chosen roughMesh.surface).IsComplete := {
    color := white
    emissive := black
    roughness := succeeds_ok _
    metalness := succeeds_ok _
    clearcoat := succeeds_ok _
    opacity := succeeds_ok _ }
  exact Node.defaults_elided Value.arePlaces_usual placed rfl complete rfl

end SceneComponent
