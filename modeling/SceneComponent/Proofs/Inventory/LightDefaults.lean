import Mathlib
import SceneComponent.Proofs.Inventory.Elision
import SceneComponent.Proofs.Inventory.Partition

/-!
# Defaults of lights

Of a light only the colour is left out where it is the default of the engine.  Its
numbers are written whatever they are, so the properties of a light are free of defaults
exactly when none of its numbers, the intensity aside, is rounded to the rounded default
of its name.
-/

set_option autoImplicit false

namespace SceneComponent

open Checked Binary64

/-! ## Rounded defaults -/

namespace Payload

/-- The default of a payload as it is compared with written values: a number is rounded
like they are. -/
def roundedStandard? (payload : Payload) (places : Value) : Option Value :=
  payload.standard?.bind fun standard =>
    match standard with
    | .float number => (Value.roundDouble number places).toOption.map Value.float
    | other => some other

def equalsDefault (payload : Payload) (places : Value) : Bool :=
  (payload.roundedStandard? places).any fun standard => payload.value.sameScalar standard

variable {payload : Payload} {places : Value} {usual : String}

/-- A default that is a text is compared as it is. -/
theorem roundedStandard?_text
    (registered : Default.find? payload.entity payload.name = some (.value (.text usual))) :
    payload.roundedStandard? places = payload.standard? := by
  rw [roundedStandard?, standard?, registered]
  rfl

theorem equalsDefault_text
    (registered : Default.find? payload.entity payload.name = some (.value (.text usual))) :
    payload.equalsDefault places = payload.isUsual := by
  rw [equalsDefault, roundedStandard?_text registered, isUsual]

end Payload

/-! ## Payloads of lights -/

namespace LightProperty

/-- The entity under which the default of a number of lights is registered. -/
def entity : LightProperty → String
  | .intensity => "light"
  | .distance => "light"
  | .angle => "spot"
  | .penumbra => "spot"

def payload (property : LightProperty) (light : Light) (places : Value) :
    Except Failure Payload := do
  return ⟨property.entity, property.name, ← numberPayload (property.value light) places⟩

end LightProperty

def Light.colorPayload (color : Value) : Payload := ⟨"light", "color", color⟩

/-- What the properties of a light stand for: some of its numbers, rounded, and its
colour. -/
def Light.payloads (light : Light) (properties : List LightProperty) (places : Value) :
    Except Failure (List Payload) := do
  let numbers ← properties.mapM fun property => property.payload light places
  let color ← SceneComponent.colorPayload light.color
  return numbers ++ [Light.colorPayload color]

/-- Properties that stand for the payloads of a light.  A number is there in any case; what
is absent is read as its rounded default. -/
structure Properties.StandForLight (properties : Properties) (payloads : List Payload)
    (places : Value) : Prop where
  ordered : (properties.map Prod.fst).Sublist (payloads.map Payload.name)
  numbers : ∀ payload ∈ payloads, payload.name ≠ "color" →
    properties.lookup payload.name = some payload.value
  lossless : ∀ payload ∈ payloads,
    (properties.lookup payload.name).or (payload.roundedStandard? places) = some payload.value

/-- No property but the intensity equals the rounded default of its name. -/
def Properties.AreFreeOfDefaults (properties : Properties) (payloads : List Payload)
    (places : Value) : Prop :=
  ∀ payload ∈ payloads, payload.name ≠ "intensity" →
    (properties.lookup payload.name).isSome = true → payload.equalsDefault places = false

/-! ## The properties of a light -/

namespace Light

/-- The properties that are written for numbers and for a colour. -/
def written (numbers : List Payload) (color : Payload) : Properties :=
  numbers.map (fun payload => (payload.name, payload.value)) ++
    MaterialEntry.named "color" color.kept?

variable {numbers : List Payload} {places color : Value}

theorem lookup_number (distinct : (numbers.map Payload.name).Nodup) (back : Properties)
    {payload : Payload} (member : payload ∈ numbers) :
    (numbers.map (fun payload => (payload.name, payload.value)) ++ back).lookup payload.name =
      some payload.value := by
  induction numbers with
  | nil => cases member
  | cons first rest inductionHypothesis =>
      obtain ⟨fresh, restDistinct⟩ := List.nodup_cons.mp distinct
      rw [List.map_cons, List.cons_append, List.lookup_cons]
      rcases List.mem_cons.mp member with rfl | inRest
      · rw [beq_self_eq_true]
      · have apart : (payload.name == first.name) = false := by
          refine beq_false_of_ne fun same => fresh ?_
          rw [← same]
          exact List.mem_map_of_mem inRest
        rw [apart]
        exact inductionHypothesis restDistinct inRest

theorem lookup_color (absent : "color" ∉ numbers.map Payload.name) (color : Payload) :
    (written numbers color).lookup "color" = color.kept? := by
  have nowhere : (numbers.map fun payload => (payload.name, payload.value)).lookup "color" =
      none := by
    rw [List.lookup_eq_none_iff]
    intro property member
    obtain ⟨payload, inNumbers, rfl⟩ := List.mem_map.mp member
    refine bne_iff_ne.mpr fun same => absent ?_
    rw [same]
    exact List.mem_map_of_mem inNumbers
  rw [written, List.lookup_append, nowhere, Payload.lookup_named, if_pos rfl, Option.none_or]

theorem white_registered :
    Default.find? (colorPayload color).entity (colorPayload color).name =
      some (.value (.text "ffffff")) := rfl

variable (distinct : (numbers.map Payload.name ++ ["color"]).Nodup)

include distinct

theorem lookup_written {payload : Payload} (member : payload ∈ numbers) (color : Payload) :
    (written numbers color).lookup payload.name = some payload.value :=
  lookup_number (List.nodup_append.mp distinct).1 _ member

theorem color_not_mem : "color" ∉ numbers.map Payload.name := fun member =>
  (List.nodup_append.mp distinct).2.2 "color" member "color" (List.mem_singleton_self _) rfl

theorem standForLight_written (faithful : (colorPayload color).IsFaithful) :
    (written numbers (colorPayload color)).StandForLight (numbers ++ [colorPayload color])
      places := by
  refine {
    ordered := ?_
    numbers := ?_
    lossless := ?_ }
  · have last : ((MaterialEntry.named "color" (colorPayload color).kept?).map Prod.fst).Sublist
        ["color"] := by
      cases (colorPayload color).kept? <;> simp [MaterialEntry.named]
    rw [written, List.map_append, List.map_append, List.map_map]
    exact (List.Sublist.refl _).append last
  · intro payload member notColor
    rcases List.mem_append.mp member with inNumbers | last
    · exact lookup_written distinct inNumbers _
    · rw [List.mem_singleton.mp last] at notColor
      exact absurd rfl notColor
  · intro payload member
    rcases List.mem_append.mp member with inNumbers | last
    · rw [lookup_written distinct inNumbers, Option.some_or]
    · rw [List.mem_singleton.mp last, Payload.roundedStandard?_text white_registered]
      exact (congrArg (Option.or · _) (lookup_color (color_not_mem distinct) _)).trans
        (Payload.kept?_or_standard? faithful)

/-- The numbers are all written and the colour only where it is not the default, so that
the numbers alone decide. -/
theorem areFreeOfDefaults_written_iff :
    (written numbers (colorPayload color)).AreFreeOfDefaults (numbers ++ [colorPayload color])
        places ↔
      ∀ payload ∈ numbers ++ [colorPayload color], payload.name ∉ ["intensity", "color"] →
        payload.equalsDefault places = false := by
  constructor
  · intro free payload member other
    simp only [List.mem_cons, List.not_mem_nil, or_false, not_or] at other
    rcases List.mem_append.mp member with inNumbers | last
    · exact free payload member other.1 (by rw [lookup_written distinct inNumbers]; rfl)
    · rw [List.mem_singleton.mp last] at other
      exact absurd rfl other.2
  · intro unusual payload member notIntensity present
    rcases List.mem_append.mp member with inNumbers | last
    · refine unusual payload member ?_
      simp only [List.mem_cons, List.not_mem_nil, or_false, not_or]
      refine ⟨notIntensity, fun same => color_not_mem distinct ?_⟩
      rw [← same]
      exact List.mem_map_of_mem inNumbers
    · rw [List.mem_singleton.mp last] at present ⊢
      rw [Payload.equalsDefault_text white_registered]
      refine Bool.eq_false_iff.mpr fun usual => ?_
      have kept : (colorPayload color).kept?.isSome = true :=
        lookup_color (color_not_mem distinct) (colorPayload color) ▸ present
      rw [Payload.kept?, if_pos usual] at kept
      cases kept

end Light

/-! ## The entry of a light -/

namespace Entry

variable {places : Value} {light : Light}

theorem roundedProperties_payloads {properties : List LightProperty} {numbers : Properties}
    (success : roundedProperties places
      (properties.map fun property => (property.name, property.value light)) = .ok numbers) :
    ∃ payloads, (properties.mapM fun property => property.payload light places) = .ok payloads ∧
      payloads.map Payload.name = properties.map LightProperty.name ∧
      numbers = payloads.map fun payload => (payload.name, payload.value) := by
  induction properties generalizing numbers with
  | nil =>
      cases success
      exact ⟨[], rfl, rfl, rfl⟩
  | cons property rest inductionHypothesis =>
      rw [List.map_cons, roundedProperties] at success
      obtain ⟨number, rounded, success⟩ := bind_eq_ok.mp success
      obtain ⟨others, remaining, success⟩ := bind_eq_ok.mp success
      cases return_eq_ok.mp success
      obtain ⟨payloads, given, names, rfl⟩ := inductionHypothesis remaining
      refine ⟨⟨property.entity, property.name, .float number⟩ :: payloads, ?_, ?_, rfl⟩
      · rw [List.mapM_cons, given, LightProperty.payload, numberPayload, rounded]
        rfl
      · rw [List.map_cons, List.map_cons, names]

/-- What the entry of a light says of the light of a node: which payloads its properties
stand for, and when they are free of defaults. -/
def ShowsLight (places : Value) (node : Node) (entry : Entry) : Prop :=
  ∃ kind properties payloads, (lightOf node).kind = .ok kind ∧
    kind.properties? = some properties ∧
    (lightOf node).payloads properties places = .ok payloads ∧
    entry.properties.StandForLight payloads places ∧
    (entry.properties.AreFreeOfDefaults payloads places ↔
      ∀ payload ∈ payloads, payload.name ∉ ["intensity", "color"] →
        payload.equalsDefault places = false)

theorem nodup_lightNames {kind : LightKind} {properties : List LightProperty}
    (modelled : kind.properties? = some properties) :
    (properties.map LightProperty.name ++ ["color"]).Nodup := by
  cases kind with
  | other => cases modelled
  | _ =>
      cases modelled
      decide

theorem showsLight_of_ofLight? {node : Node} {entry : Entry}
    (success : ofLight? node places = .ok (some entry)) : entry.ShowsLight places node := by
  unfold ofLight? at success
  obtain ⟨kind, settled, success⟩ := bind_eq_ok.mp success
  cases modelled : kind.properties? with
  | none =>
      rw [modelled] at success
      cases return_eq_ok.mp success
  | some properties =>
      simp only [modelled] at success
      obtain ⟨numbers, rounded, success⟩ := bind_eq_ok.mp success
      obtain ⟨color, colored, success⟩ := bind_eq_ok.mp success
      obtain ⟨transform, _, success⟩ := bind_eq_ok.mp success
      cases return_eq_ok.mp success
      obtain ⟨payloads, given, names, rfl⟩ := roundedProperties_payloads rounded
      have white : Default.find? "light" "color" = some (.value (.text "ffffff")) := rfl
      obtain ⟨digits, hexadecimal, _⟩ := bind_eq_ok.mp colored
      obtain ⟨kept, faithful⟩ := colorProperty?_extracts_digits hexadecimal white
      cases colored.symm.trans kept
      have distinct := nodup_lightNames modelled
      rw [← names] at distinct
      refine ⟨kind, properties, payloads ++ [Light.colorPayload (.text ("#" ++ digits))], settled,
        modelled, ?_, Light.standForLight_written distinct faithful,
        Light.areFreeOfDefaults_written_iff distinct⟩
      rw [Light.payloads, given, ok_bind, SceneComponent.colorPayload, hexadecimal]
      rfl

end Entry

/-! ## The lights of a survey -/

namespace Inventory

open Finding.FoundAlong

/-- Every light of a survey stands for the rounded numbers and the colour of its node.  Its
properties are free of defaults exactly when none of its numbers but the intensity is its
default after rounding; a directional or an ambient light always is. -/
theorem lights_free_of_defaults_iff {root : Node} {clips : List Clip} {places shadows : Value}
    {inventory : Inventory} {records : List Record}
    (success : survey root clips places shadows = .ok (inventory, records)) :
    List.Forall₂ (fun node entry => Entry.ShowsLight places node entry)
      (ofRole .light root.properDescendants) inventory.lights := by
  obtain ⟨findings, slots, along, _, rfl⟩ := survey_trace success
  exact along.lights.imp fun node entry given => Entry.showsLight_of_ofLight? given

def lightScene (light : Light) : Node where
  children := [{ kind := .light, light := some light }]

/-- A grey spot light that reaches ten units, with a narrow and soft cone. -/
def narrowSpot : Light where
  typeName := .text "SpotLight"
  color := .triple 0.25 0.25 0.25
  distance := .float 10.0
  angle := .float 0.5
  penumbra := .float 0.2

theorem narrowSpot_shown : ∃ inventory records,
    survey (lightScene narrowSpot) [] = .ok (inventory, records) ∧
      inventory.lights.map (fun entry => entry.properties.map Prod.fst) =
        [["intensity", "distance", "angle", "penumbra", "color"]] ∧
      List.Forall₂ (fun node entry => Entry.ShowsLight Value.usualPlaces node entry)
        (ofRole .light (lightScene narrowSpot).properDescendants) inventory.lights := by
  have names : (survey (lightScene narrowSpot) []).toOption.map (fun result =>
      result.1.lights.map fun entry => entry.properties.map Prod.fst) =
        some [["intensity", "distance", "angle", "penumbra", "color"]] := by decide +kernel
  obtain ⟨⟨inventory, records⟩, made, named⟩ := ok_of_map_toOption names
  exact ⟨inventory, records, made, named, lights_free_of_defaults_iff made⟩

/-- A point light of the usual distance is written with that distance. -/
theorem plainPoint_holds_default : ∃ inventory records entry payloads,
    survey (lightScene { typeName := .text "PointLight" }) [] = .ok (inventory, records) ∧
      inventory.lights = [entry] ∧
      Light.payloads { typeName := .text "PointLight" } [.intensity, .distance]
        Value.usualPlaces = .ok payloads ∧
      ¬ entry.properties.AreFreeOfDefaults payloads Value.usualPlaces := by
  have written : (survey (lightScene { typeName := .text "PointLight" }) []).toOption.map
      (fun result => result.1.lights.map fun entry =>
        (entry.properties.lookup "distance").isSome) = some [true] := by decide +kernel
  have usual : (Light.payloads { typeName := .text "PointLight" } [.intensity, .distance]
      Value.usualPlaces).toOption.map (fun payloads => payloads.any fun payload =>
        payload.name == "distance" && payload.equalsDefault Value.usualPlaces) =
          some true := by decide +kernel
  obtain ⟨⟨inventory, records⟩, made, found⟩ := ok_of_map_toOption written
  obtain ⟨payloads, given, someUsual⟩ := ok_of_map_toOption usual
  obtain ⟨entry, only, present⟩ := List.map_eq_singleton_iff.mp found
  refine ⟨inventory, records, entry, payloads, made, only, given, fun free => ?_⟩
  obtain ⟨payload, member, same⟩ := List.any_eq_true.mp someUsual
  rw [Bool.and_eq_true, beq_iff_eq] at same
  have unusual := free payload member (by rw [same.1]; decide) (by rw [same.1]; exact present)
  rw [same.2] at unusual
  cases unusual

end Inventory

end SceneComponent
