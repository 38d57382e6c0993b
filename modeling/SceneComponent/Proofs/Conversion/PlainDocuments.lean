import Mathlib
import SceneComponent.Proofs.Color.Bytes
import SceneComponent.Proofs.Conversion.LoadedModels
import SceneComponent.Proofs.Scene.Readings
import SceneComponent.Proofs.Value.Vectors

/-!
# Conversions of plain documents

A part of a document is plain when it gives no colour an undefined channel and no
argument of a geometry anything but a number.  Whatever else a document holds, and
however large its scene is, every node read from plain parts is convertible, so that
the model is converted.
-/

set_option autoImplicit false

namespace SceneComponent

open Checked

/-- Whether a channel is given and, if it is a number, a defined one. -/
def Value.IsDefinedChannel : Value → Prop
  | .null => False
  | item => ∀ channel ∈ item.toDouble.toOption, Binary64.isNaN channel = false

instance : DecidablePred Value.IsDefinedChannel
  | .null => isFalse id
  | .bool _ | .int _ | .float _ | .text _ | .list _ | .map _ | .constant _ =>
      inferInstanceAs (Decidable (∀ channel ∈ Except.toOption _, Binary64.isNaN channel = false))

/-- Whether an argument is left open or a number with a double. -/
def Value.IsArgument (value : Value) : Prop :=
  value.isNull = true ∨ Succeeds value.numberDouble

instance (value : Value) : Decidable value.IsArgument :=
  inferInstanceAs (Decidable (_ ∨ _))

/-- The channels of a colour that is given as a list; any other one has none of its own. -/
def Value.givenChannels : Value → List Value
  | .list items => items
  | _ => []

/-- Whether the channels of a colour are all given and defined, and whether the
parameters that a geometry is built from are arguments. -/
def Reading.IsPlain : Reading → Prop
  | .color given => ∀ item ∈ given.givenChannels, item.IsDefinedChannel
  | .parameters typeName given =>
      ∀ names ∈ (GeometryKind.ofTypeName typeName).argumentNames?,
        ∀ table ∈ (Table.ofValue given).toOption,
          ∀ name ∈ names, ∀ value ∈ table.get? (.text name), value.IsArgument
  | _ => True

instance : DecidablePred Reading.IsPlain
  | .color given =>
      inferInstanceAs (Decidable (∀ item ∈ given.givenChannels, item.IsDefinedChannel))
  | .parameters typeName given =>
      inferInstanceAs (Decidable (∀ names ∈ (GeometryKind.ofTypeName typeName).argumentNames?,
        ∀ table ∈ (Table.ofValue given).toOption,
          ∀ name ∈ names, ∀ value ∈ table.get? (.text name), value.IsArgument))
  | .refused _ | .quaternion _ _ | .vector _ _ | .side _ | .number _ | .unlisted _
  | .fieldless _ => isTrue trivial

/-! ## Colours -/

namespace Color

theorem isDefined_white : IsDefined white :=
  ⟨1.0, 1.0, 1.0, rfl, by decide, by decide, by decide⟩

theorem isDefined_black : IsDefined black :=
  ⟨0.0, 0.0, 0.0, rfl, by decide, by decide, by decide⟩

theorem isDefined_ofPacked (packed : Int) : IsDefined (ofPacked packed) :=
  ⟨_, _, _, rfl, isNaN_channelAt packed 16, isNaN_channelAt packed 8, isNaN_channelAt packed 0⟩

theorem isNaN_of_plain_item {item : Value} {channel : Float} (defined : item.IsDefinedChannel)
    (read : NumberArray.readNumber item = .ok channel) : Binary64.isNaN channel = false := by
  have known : ∀ value : Value, value.toDouble = .ok channel →
      channel ∈ value.toDouble.toOption := by
    intro value converted
    rw [converted]
    rfl
  cases item with
  | null => exact defined.elim
  | _ => exact defined channel (known _ read)

theorem isDefined_of_threeNumbers {items : List Value} {place : String} {color : Value}
    (plain : ∀ item ∈ items, item.IsDefinedChannel)
    (success : (Value.list items).threeNumbers place = .ok color) : IsDefined color := by
  unfold Value.threeNumbers at success
  split at success
  · next length x y z read =>
      cases success
      have channels : ∀ channel ∈ [x, y, z], Binary64.isNaN channel = false := by
        intro channel member
        obtain ⟨item, inItems, itemRead⟩ :=
          exists_of_mem_right (NumberArray.forall₂_of_ofValue read) member
        exact isNaN_of_plain_item (plain item inItems) itemRead
      simp only [List.forall_mem_cons] at channels
      exact ⟨x, y, z, rfl, channels.1, channels.2.1, channels.2.2.1⟩
  · cases success
  · cases success

/-- A colour read from a plain part is defined, if the one that stands in for it is. -/
theorem isDefined_of_ofValue {given standard color : Value} (standardDefined : IsDefined standard)
    (plain : Reading.IsPlain (.color given)) (success : ofValue given standard = .ok color) :
    IsDefined color := by
  unfold ofValue at success
  cases given with
  | null =>
      cases success
      exact standardDefined
  | int packed =>
      cases success
      exact isDefined_ofPacked packed
  | text content =>
      dsimp only at success
      split at success
      · cases success
        exact isDefined_ofPacked _
      · cases success
  | list items => exact isDefined_of_threeNumbers plain success
  | _ => cases success

end Color

/-! ## Payloads -/

theorem Material.isConvertible_of_ofValue {value : Value} {material : Material}
    (plain : ∀ part ∈ readings value, part.IsPlain) (success : ofValue value = .ok material) :
    material.IsConvertible := by
  unfold ofValue at success
  obtain ⟨entries, isMap, success⟩ := bind_eq_ok.mp success
  obtain ⟨side, _, success⟩ := bind_eq_ok.mp success
  obtain ⟨color, colored, success⟩ := bind_eq_ok.mp success
  obtain ⟨emissive, emitting, success⟩ := bind_eq_ok.mp success
  obtain ⟨roughness, _, success⟩ := bind_eq_ok.mp success
  obtain ⟨metalness, _, success⟩ := bind_eq_ok.mp success
  obtain ⟨clearcoat, _, success⟩ := bind_eq_ok.mp success
  obtain ⟨opacity, _, success⟩ := bind_eq_ok.mp success
  cases return_eq_ok.mp success
  cases value with
  | map given =>
      cases isMap
      have colorPlain := plain (Reading.colorAt entries "color") (by simp [readings])
      have emissivePlain := plain (Reading.colorAt entries "emissive") (by simp [readings])
      exact ⟨Color.isDefined_of_ofValue Color.isDefined_white colorPlain colored,
        fun _ _ _ => Color.isDefined_of_ofValue Color.isDefined_black emissivePlain emitting⟩
  | _ => cases isMap

theorem Material.isConvertible_plain : Material.IsConvertible {} :=
  ⟨Color.isDefined_white, fun _ _ _ => Color.isDefined_black⟩

theorem Surface.isConvertible_of_ofValue {value : Value} {surface : Surface}
    (plain : ∀ part ∈ readings value, part.IsPlain) (success : ofValue value = .ok surface) :
    (MaterialEntry.chosen surface).IsConvertible := by
  unfold ofValue at success
  unfold readings at plain
  split at success
  · cases success
    exact Material.isConvertible_plain
  · obtain ⟨materials, read, success⟩ := bind_eq_ok.mp success
    cases return_eq_ok.mp success
    cases mapM_eq_ok.mp read with
    | nil => exact Material.isConvertible_plain
    | cons made _ =>
        refine Material.isConvertible_of_ofValue (fun part member => plain part ?_) made
        exact List.mem_flatMap.mpr ⟨_, List.mem_cons_self .., member⟩
  · next notNull notList =>
      obtain ⟨material, made, success⟩ := bind_eq_ok.mp success
      cases return_eq_ok.mp success
      cases value with
      | null => exact absurd rfl notNull
      | list items => exact absurd rfl (notList items)
      | _ => exact Material.isConvertible_of_ofValue plain made

theorem Geometry.isConvertible_of_entries {entries : Entries} {node : String}
    {geometry : Geometry}
    (plain : Reading.IsPlain (.parameters (entries.textOr "type" (.text "BufferGeometry"))
      (Value.fieldOr "parameters" .null entries)))
    (success : ofValue (.map entries) node = .ok geometry) : geometry.IsConvertible := by
  obtain ⟨_, isMap, success⟩ := bind_eq_ok.mp success
  cases isMap
  obtain ⟨parameters, read, success⟩ := bind_eq_ok.mp success
  cases return_eq_ok.mp success
  intro typeName names named parametric name member
  cases named
  refine ⟨_, rfl, ?_⟩
  cases given : Table.get? parameters (.text name) with
  | none => exact .inl rfl
  | some value =>
      have known : parameters ∈ (Table.ofValue (Value.fieldOr "parameters" .null entries)).toOption := by
        rw [read]
        rfl
      exact (plain names parametric parameters known name member value given).imp_left
        Value.eq_null_of_isNull

theorem Geometry.isConvertible_of_ofValue {value : Value} {node : String} {geometry : Geometry}
    (plain : ∀ part ∈ readings value node, part.IsPlain)
    (success : ofValue value node = .ok geometry) : geometry.IsConvertible := by
  cases value with
  | map entries => exact isConvertible_of_entries (plain _ (List.mem_singleton.mpr rfl)) success
  | _ =>
      -- what does not count as given is a geometry of no parametric kind
      unfold ofValue at success
      dsimp only at success
      split at success
      · cases success
      · cases success
        rintro typeName names named parametric
        cases named
        have bare : (GeometryKind.ofTypeName "BufferGeometry").argumentNames? = none := by
          decide
        cases bare.symm.trans parametric

theorem Light.isConvertible_of_ofEntries {typeName : String} {entries : Entries} {light : Light}
    (plain : ∀ part ∈ readings entries, part.IsPlain)
    (success : ofEntries typeName entries = .ok light) : light.IsConvertible := by
  unfold ofEntries at success
  obtain ⟨color, colored, success⟩ := bind_eq_ok.mp success
  obtain ⟨intensity, _, success⟩ := bind_eq_ok.mp success
  obtain ⟨distance, _, success⟩ := bind_eq_ok.mp success
  obtain ⟨angle, _, success⟩ := bind_eq_ok.mp success
  obtain ⟨penumbra, _, success⟩ := bind_eq_ok.mp success
  cases return_eq_ok.mp success
  have colorPlain := plain (Reading.colorAt entries "color") (List.mem_cons_self ..)
  exact fun _ _ _ => Color.isDefined_of_ofValue Color.isDefined_white colorPlain colored

/-! ## Nodes -/

namespace Node

theorem isConvertible_of_withPayload {place typeName : String} {entries : Entries}
    {bare node : Node} (plain : ∀ part ∈ payloadReadings place entries bare.kind, part.IsPlain)
    (success : withPayload place typeName entries bare = .ok node) : node.IsConvertible := by
  unfold withPayload at success
  unfold payloadReadings at plain
  unfold IsConvertible
  cases kind : bare.kind with
  | mesh =>
      simp only [kind] at success plain
      obtain ⟨geometryPlain, surfacePlain⟩ := List.forall_mem_append.mp plain
      obtain ⟨geometry, shaped, success⟩ := bind_eq_ok.mp success
      obtain ⟨surface, covered, success⟩ := bind_eq_ok.mp success
      cases return_eq_ok.mp success
      exact ⟨Geometry.isConvertible_of_ofValue geometryPlain shaped,
        Surface.isConvertible_of_ofValue surfacePlain covered⟩
  | light =>
      simp only [kind] at success plain
      obtain ⟨light, lit, success⟩ := bind_eq_ok.mp success
      cases return_eq_ok.mp success
      exact Light.isConvertible_of_ofEntries plain lit
  | camera =>
      simp only [kind] at success
      obtain ⟨camera, seen, success⟩ := bind_eq_ok.mp success
      cases return_eq_ok.mp success
      simp only
  | group =>
      simp only [kind] at success
      cases success
      simp only [kind]
  | other =>
      simp only [kind] at success
      cases success
      simp only [kind]

/-- The step lemma: a node whose own parts are plain is convertible. -/
theorem isConvertible_of_alone {place : String} {entries : Entries} {node : Node}
    (plain : ∀ part ∈ ownReadings place entries, part.IsPlain)
    (success : alone place entries = .ok node) : node.IsConvertible := by
  unfold alone at success
  obtain ⟨rotation, _, success⟩ := bind_eq_ok.mp success
  obtain ⟨filled, payload, success⟩ := bind_eq_ok.mp success
  obtain ⟨position, _, success⟩ := bind_eq_ok.mp success
  obtain ⟨scale, _, success⟩ := bind_eq_ok.mp success
  cases return_eq_ok.mp success
  obtain ⟨_, payloadPlain⟩ := List.forall_mem_cons.mp (List.forall_mem_append.mp plain).1
  have filledConvertible := isConvertible_of_withPayload payloadPlain payload
  exact filledConvertible

/-- The run lemma: a tree whose parts are all plain holds convertible nodes only. -/
theorem isConvertible_of_read {place : String} {value : Value} {node : Node}
    (plain : ∀ part ∈ readings place value, part.IsPlain)
    (success : read place value = .ok node) : ∀ below ∈ node.preorder, below.IsConvertible :=
  forall_mem_preorder_of_read (fun _ _ convertible => convertible)
    (fun _ _ _ => isConvertible_of_alone) plain success

end Node

theorem Model.isConvertible_of_ofValue {document : Value} {model : Model}
    (plain : ∀ part ∈ readings document, part.IsPlain) (success : ofValue document = .ok model) :
    ∀ node ∈ model.scene.properDescendants, node.IsConvertible := by
  unfold ofValue at success
  unfold readings at plain
  cases document with
  | map entries =>
      dsimp only at success plain
      cases found : Value.field? "scene" entries with
      | none =>
          rw [found] at success
          cases success
      | some given =>
          simp only [found] at success plain
          obtain ⟨scene, read, success⟩ := bind_eq_ok.mp success
          obtain ⟨clips, _, success⟩ := bind_eq_ok.mp success
          cases return_eq_ok.mp success
          have convertible :=
            Node.isConvertible_of_read (List.forall_mem_append.mp plain).1 read
          rw [Node.preorder_eq] at convertible
          exact (List.forall_mem_cons.mp convertible).2
  | _ => cases success

namespace Conversion

variable {options : Options}

/-- A model that was loaded from a document of plain parts is converted under usual
options, with its own clips and with any others that have names. -/
theorem plain_document_converts {document : Value} {model : Model} {request : OptionRequest}
    (loaded : Model.ofValue document = .ok model)
    (plain : ∀ part ∈ Model.readings document, part.IsPlain)
    (accepted : Options.ofRequest request = .ok options) (usual : options.AreUsual) :
    (∃ outcome, run (some model) options = .ok outcome) ∧
      ∀ clips : List Clip, (∀ clip ∈ clips, clip.name.IsText) →
        ∃ outcome, run (some { model with clips }) options = .ok outcome := by
  obtain ⟨decoded, ownNames⟩ := Model.isDecoded_of_ofValue loaded
  have convertible := Model.isConvertible_of_ofValue plain loaded
  obtain ⟨count, integer, bounded⟩ := usual.precision
  have places := Options.arePlaces_of_ofRequest accepted integer bounded
  have converts : ∀ clips : List Clip, (∀ clip ∈ clips, clip.name.IsText) →
      ∃ outcome, run (some { model with clips }) options = .ok outcome := by
    intro clips named
    exact (succeeds_run_survey usual { model with clips }).mpr
      ((Inventory.succeeds_survey places decoded named).mpr convertible)
  exact ⟨converts model.clips ownNames, converts⟩

/-- A box of an endless width below a group, with a light below the box. -/
def endlessBoxDocument : Value :=
  .map [
    ("scene", .map [("children", .list [.map [("type", .text "Group"), ("children", .list [.map [
      ("type", .text "Mesh"),
      ("geometry", .map [("type", .text "BoxGeometry"),
        ("parameters", .map [("width", .float (1.0 / 0.0)),
          ("height", .null), ("depth", .bool true)])]),
      ("material", .list [.map [("color", .int (-1))]]),
      ("children", .list [.map [("type", .text "PointLight"),
        ("color", .list [.float 0.5, .int 7, .bool false])]])]])]])]),
    ("animations", .list [.map [("name", .text "walk")], .map [("name", .text "walk")]])]

/-- The document is loaded from plain parts and converted, as it is and with clips of
other models. -/
theorem endlessBox_converts : ∃ model, Model.ofValue endlessBoxDocument = .ok model ∧
    (∀ part ∈ Model.readings endlessBoxDocument, part.IsPlain) ∧
      ∃ outcome, run (some model) {} = .ok outcome := by
  have loads : (Model.ofValue endlessBoxDocument).toOption.map (fun _ => ()) = some () := by
    decide +kernel
  have plain : ∀ part ∈ Model.readings endlessBoxDocument, part.IsPlain := by decide +kernel
  obtain ⟨model, loaded, _⟩ := ok_of_map_toOption loads
  have accepted : Options.ofRequest {} = .ok {} := rfl
  exact ⟨model, loaded, plain, (plain_document_converts loaded plain accepted usual_defaults).1⟩

end Conversion

end SceneComponent
