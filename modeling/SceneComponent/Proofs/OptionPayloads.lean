import Mathlib
import SceneComponent.Options
import SceneComponent.Proofs.Value.Dictionaries

/-!
# Payloads of options

A payload is a list of keys with values, read as a dictionary: a repeated key keeps its first
place and takes its last value.  A field is named by its own name or by an alias, and of the
keys that name it the one that stands last counts.  So a field depends on the pairs that name
it and on their order among each other; all other pairs may come and go and change places.
-/

set_option autoImplicit false

namespace SceneComponent

open Checked

/-! ## Names of fields -/

namespace OptionField

def all : List OptionField := [
  .fileName, .pathPrefix, .typed, .composition, .shadows, .dialect, .precision,
  .autoRotate, .environmentPreset, .lightingPreset, .intensity, .contactShadow]

theorem mem_all (field : OptionField) : field ∈ all := by
  cases field <;> decide

/-- The name that a field has among the options. -/
def name : OptionField → String
  | .fileName => "file_name"
  | .pathPrefix => "path_prefix"
  | .typed => "typed"
  | .composition => "composition_style"
  | .shadows => "shadows_enabled"
  | .dialect => "target_dialect"
  | .precision => "decimal_precision"
  | .autoRotate => "auto_rotate"
  | .environmentPreset => "environment_preset"
  | .lightingPreset => "lighting_preset"
  | .intensity => "intensity"
  | .contactShadow => "contact_shadow"

/-- The other names that a field goes by. -/
def aliases : OptionField → List String
  | .fileName => ["fileName"]
  | .pathPrefix => ["pathPrefix"]
  | .typed => ["types"]
  | .composition => ["useComposition", "compositionStyle"]
  | .shadows => ["shadows", "shadowsEnabled"]
  | .dialect => ["targetDialect", "framework"]
  | .precision => ["precision", "decimalPrecision"]
  | .autoRotate => ["autoRotate"]
  | .environmentPreset => ["environment", "environmentPreset"]
  | .lightingPreset => ["preset", "lightingPreset"]
  | .intensity => []
  | .contactShadow => ["contactShadow"]

/-- Whether a field is one of the host page; the others are of the conversion. -/
def isOnPage : OptionField → Bool
  | .autoRotate => true
  | .environmentPreset => true
  | .lightingPreset => true
  | .intensity => true
  | .contactShadow => true
  | _ => false

theorem ofKey?_eq_some_iff {key : String} {field : OptionField} :
    ofKey? key = some field ↔ key = field.name ∨ key ∈ field.aliases := by
  constructor
  · have listed : ∀ entry ∈ keys, entry.1 = entry.2.name ∨ entry.1 ∈ entry.2.aliases := by
      decide
    exact fun found => listed (key, field) (mem_of_lookup found)
  · have found : ∀ key ∈ field.name :: field.aliases, ofKey? key = some field := by
      cases field <;> decide
    exact fun named => found key (List.mem_cons.mpr named)

def isNameOf (field : OptionField) (key : String) : Bool :=
  key == field.name || field.aliases.contains key

theorem isNameOf_iff {field : OptionField} {key : String} :
    field.isNameOf key = true ↔ ofKey? key = some field := by
  rw [ofKey?_eq_some_iff, isNameOf, Bool.or_eq_true, beq_iff_eq, List.contains_iff_mem]

/-- Whether a pair names a field; a key that is no text names none. -/
def isNamedBy (field : OptionField) (entry : Value × Value) : Bool :=
  match entry.1 with
  | .text key => field.isNameOf key
  | _ => false

/-- Whether a pair names a field of the host page, or of the conversion. -/
def anyNamedBy (onPage : Bool) (entry : Value × Value) : Bool :=
  all.any fun field => field.isOnPage == onPage && field.isNamedBy entry

end OptionField

/-! ## What a field is asked to be -/

namespace OptionField

/-- What a dictionary of the pairs holds under the last key that names a field. -/
def given? (field : OptionField) (pairs : List (Value × Value)) : Option Value :=
  let entries := (Properties.dictionary (Table.named pairs)).filter fun entry =>
    field.isNameOf entry.1
  entries.getLast?.map Prod.snd

theorem named_filter (field : OptionField) (pairs : List (Value × Value)) :
    (Table.named pairs).filter (fun entry => field.isNameOf entry.1) =
      Table.named (pairs.filter field.isNamedBy) := by
  induction pairs with
  | nil => rfl
  | cons entry rest inductionHypothesis =>
      obtain ⟨key, content⟩ := entry
      rcases Table.eq_text_or_noText key with ⟨name, rfl⟩ | noText
      · rw [Table.named_cons_text, List.filter_cons, List.filter_cons, inductionHypothesis]
        change _ = Table.named (if field.isNameOf name = true then _ else _)
        split
        · rw [Table.named_cons_text]
        · rfl
      · have unnamed : ¬ field.isNamedBy (key, content) = true := by
          cases key with
          | text name => exact absurd rfl (noText name)
          | _ => exact Bool.false_ne_true
        rw [Table.named_cons_of_noText _ _ noText, List.filter_cons_of_neg unnamed,
          inductionHypothesis]

/-- Only the pairs that name a field decide what it is asked to be. -/
theorem given?_congr {field : OptionField} {pairs others : List (Value × Value)}
    (same : pairs.filter field.isNamedBy = others.filter field.isNamedBy) :
    field.given? pairs = field.given? others := by
  rw [given?, given?, ← Properties.ofPairs_eq_dictionary, ← Properties.ofPairs_eq_dictionary,
    Properties.filter_ofPairs, Properties.filter_ofPairs, named_filter, named_filter, same]

end OptionField

namespace Options

/-- A field of options, the dialect as its name. -/
def get (options : Options) : OptionField → Value
  | .fileName => options.fileName
  | .pathPrefix => options.pathPrefix
  | .typed => options.typed
  | .composition => options.composition
  | .shadows => options.shadows
  | .dialect => .text options.dialect.name
  | .precision => options.precision
  | .autoRotate => options.autoRotate
  | .environmentPreset => options.environmentPreset
  | .lightingPreset => options.lightingPreset
  | .intensity => options.intensity
  | .contactShadow => options.contactShadow

end Options

namespace OptionRequest

theorem get_apply (request : OptionRequest) (entry : String × Value) (field : OptionField) :
    (request.apply entry).get field =
      if field.isNameOf entry.1 = true then entry.2 else request.get field := by
  rw [apply, if_congr OptionField.isNameOf_iff rfl rfl]
  cases OptionField.ofKey? entry.1 with
  | none => rw [if_neg (Option.some_ne_none field).symm]
  | some other => rw [get_set, if_congr Option.some_inj.symm rfl rfl]

theorem get_ofPayload (payload : Properties) (field : OptionField) :
    (ofPayload payload).get field =
      ((payload.filter fun entry => field.isNameOf entry.1).getLast?.map Prod.snd).getD
        (({} : OptionRequest).get field) := by
  induction payload using List.reverseRecOn with
  | nil => rfl
  | append_singleton front entry inductionHypothesis =>
      have step : ofPayload (front ++ [entry]) = (ofPayload front).apply entry := by
        rw [ofPayload, List.foldl_append]
        rfl
      rw [step, get_apply, List.filter_append, List.filter_cons]
      split
      · rw [List.filter_nil, List.getLast?_append]
        rfl
      · rw [List.filter_nil, List.append_nil, inductionHypothesis]

def ofPairs (pairs : List (Value × Value)) : OptionRequest :=
  ofPayload (Properties.dictionary (Table.named pairs))

theorem get_ofPairs (pairs : List (Value × Value)) (field : OptionField) :
    (ofPairs pairs).get field = (field.given? pairs).getD (({} : Options).get field) := by
  have absent : ({} : OptionRequest).get field = ({} : Options).get field := by
    cases field <;> rfl
  rw [ofPairs, get_ofPayload, absent]
  rfl

theorem eq_of_get {request other : OptionRequest}
    (same : ∀ field, request.get field = other.get field) : request = other := by
  rw [mk.injEq]
  exact ⟨same .fileName, same .pathPrefix, same .typed, same .composition, same .shadows,
    same .dialect, same .precision, same .autoRotate, same .environmentPreset,
    same .lightingPreset, same .intensity, same .contactShadow⟩

end OptionRequest

/-! ## The options of a payload -/

namespace Options

/-- The dialect that a word means; older payloads name dialects by frameworks. -/
def dialectWord : String → String
  | "vue3" => "standalone"
  | "vue" => "standalone"
  | "nuxt" => "server-rendered"
  | word => word

/-- The value of a field from what it is asked to be. -/
def settled (field : OptionField) (asked : Value) : Value :=
  match field, asked with
  | .dialect, .text word => .text (dialectWord word)
  | _, _ => asked

theorem name_of_dialectOf {asked : Value} {dialect : Dialect}
    (known : dialectOf asked = .ok dialect) : .text dialect.name = settled .dialect asked := by
  have listed : ∀ entry ∈ dialectNames, entry.2.name = dialectWord entry.1 := by decide
  cases asked with
  | text word =>
      rw [dialectOf] at known
      cases found : dialectNames.lookup word with
      | none =>
          rw [found] at known
          cases known
      | some other =>
          rw [found] at known
          obtain rfl := Except.ok.inj known
          exact congrArg Value.text (listed (word, other) (mem_of_lookup found))
  | _ => cases known

theorem get_of_ofRequest {request : OptionRequest} {options : Options}
    (accepted : ofRequest request = .ok options) (field : OptionField) :
    options.get field = settled field (request.get field) := by
  obtain ⟨dialect, known, accepted⟩ := bind_eq_ok.mp accepted
  obtain ⟨below, _, accepted⟩ := bind_eq_ok.mp accepted
  split at accepted
  · cases accepted
  · obtain rfl := return_eq_ok.mp accepted
    cases field with
    | dialect => exact name_of_dialectOf known
    | _ => rfl

theorem ofValue_pairValues {pairs : List (Value × Value)} {options : Options} :
    ofValue (Table.pairValues pairs) = .ok options ↔
      (∀ entry ∈ pairs, entry.1.isKey = true) ∧
        ofRequest (.ofPairs pairs) = .ok options := by
  have read (hashable : ∀ entry ∈ pairs, entry.1.isKey = true) :
      ofValue (Table.pairValues pairs) = ofRequest (.ofPairs pairs) := by
    rw [ofValue, Table.ofValue_pairValues.mpr ⟨hashable, rfl⟩, ok_bind, Table.named_foldl_put,
      ofPairs, Properties.ofPairs_ofPairs, Properties.ofPairs_eq_dictionary, OptionRequest.ofPairs]
  constructor
  · intro accepted
    obtain ⟨table, filled, _⟩ := bind_eq_ok.mp accepted
    have hashable := (Table.ofValue_pairValues.mp filled).1
    exact ⟨hashable, (read hashable).symm.trans accepted⟩
  · rintro ⟨hashable, accepted⟩
    exact (read hashable).trans accepted

theorem get_of_ofValue {pairs : List (Value × Value)} {options : Options}
    (accepted : ofValue (Table.pairValues pairs) = .ok options) (field : OptionField) :
    options.get field =
      settled field ((field.given? pairs).getD (({} : Options).get field)) := by
  rw [get_of_ofRequest (ofValue_pairValues.mp accepted).2, OptionRequest.get_ofPairs]

end Options

/-! ## Payloads that come to the same -/

/-- A step between payloads: a pair that names no field is left out, two pairs that name no
common field change places, or a repeated key is given once, at its first place and with its
last value. -/
inductive Rearranged : List (Value × Value) → List (Value × Value) → Prop where
  | unknown (front back : List (Value × Value)) {entry : Value × Value}
      (hashable : entry.1.isKey = true)
      (unnamed : ∀ field : OptionField, field.isNamedBy entry = false) :
      Rearranged (front ++ entry :: back) (front ++ back)
  | swapped (front back : List (Value × Value)) {first second : Value × Value}
      (apart : ∀ field : OptionField,
        field.isNamedBy first = true → ¬ field.isNamedBy second = true) :
      Rearranged (front ++ first :: second :: back) (front ++ second :: first :: back)
  | repeated (front middle back : List (Value × Value)) {key : Value} (earlier last : Value)
      (fresh : ∀ entry ∈ middle, entry.1 ≠ key) :
      Rearranged (front ++ (key, earlier) :: (middle ++ (key, last) :: back))
        (front ++ (key, last) :: (middle ++ back))

namespace Rearranged

theorem hashable_iff {pairs others : List (Value × Value)} (step : Rearranged pairs others) :
    (∀ entry ∈ pairs, entry.1.isKey = true) ↔ ∀ entry ∈ others, entry.1.isKey = true := by
  cases step with
  | unknown front back hashable unnamed =>
      rw [List.forall_mem_append, List.forall_mem_append, List.forall_mem_cons,
        and_iff_right hashable]
  | @swapped front back first second apart =>
      have permuted := (List.Perm.swap second first back).append_left front
      exact forall_congr' fun entry => imp_congr_left permuted.mem_iff
  | repeated front middle back earlier last fresh =>
      simp only [List.forall_mem_append, List.forall_mem_cons]
      tauto

/-- No step changes what a field is asked to be. -/
theorem given?_eq {pairs others : List (Value × Value)} (step : Rearranged pairs others)
    (field : OptionField) : field.given? pairs = field.given? others := by
  cases step with
  | @unknown front back entry hashable unnamed =>
      have dropped : (entry :: back).filter field.isNamedBy = back.filter field.isNamedBy :=
        List.filter_cons_of_neg (Bool.eq_false_iff.mp (unnamed field))
      refine OptionField.given?_congr ?_
      rw [List.filter_append, List.filter_append, dropped]
  | @swapped front back first second apart =>
      refine OptionField.given?_congr ?_
      rw [List.filter_append, List.filter_append]
      congr 1
      by_cases names : field.isNamedBy first = true
      · have other := apart field names
        rw [List.filter_cons_of_pos names, List.filter_cons_of_neg other,
          List.filter_cons_of_neg other, List.filter_cons_of_pos names]
      · rw [List.filter_cons_of_neg names, List.filter_cons, List.filter_cons,
          List.filter_cons_of_neg names]
  | repeated front middle back earlier last fresh =>
      rw [OptionField.given?, OptionField.given?,
        Table.dictionary_named_repeated front back earlier last fresh]

/-- What one step keeps, any chain of steps keeps. -/
theorem chain {pairs others : List (Value × Value)}
    (steps : Relation.EqvGen Rearranged pairs others) :
    ((∀ entry ∈ pairs, entry.1.isKey = true) ↔ ∀ entry ∈ others, entry.1.isKey = true) ∧
      ∀ field : OptionField, field.given? pairs = field.given? others := by
  induction steps with
  | rel left right step => exact ⟨step.hashable_iff, step.given?_eq⟩
  | refl pairs => exact ⟨Iff.rfl, fun field => rfl⟩
  | symm left right _ inductionHypothesis =>
      exact ⟨inductionHypothesis.1.symm, fun field => (inductionHypothesis.2 field).symm⟩
  | trans left middle right _ _ first second =>
      exact ⟨first.1.trans second.1, fun field => (first.2 field).trans (second.2 field)⟩

end Rearranged

namespace Options

theorem ofValue_congr {pairs others : List (Value × Value)}
    (hashable : (∀ entry ∈ pairs, entry.1.isKey = true) ↔ ∀ entry ∈ others, entry.1.isKey = true)
    (same : ∀ field : OptionField, field.given? pairs = field.given? others) (options : Options) :
    ofValue (Table.pairValues pairs) = .ok options ↔
      ofValue (Table.pairValues others) = .ok options := by
  have sameRequest : OptionRequest.ofPairs pairs = OptionRequest.ofPairs others := by
    refine OptionRequest.eq_of_get fun field => ?_
    rw [OptionRequest.get_ofPairs, OptionRequest.get_ofPairs, same field]
  rw [ofValue_pairValues, ofValue_pairValues, sameRequest, hashable]

theorem filter_of_anyNamedBy {field : OptionField} {pairs others : List (Value × Value)}
    (same : pairs.filter (OptionField.anyNamedBy field.isOnPage) =
      others.filter (OptionField.anyNamedBy field.isOnPage)) :
    pairs.filter field.isNamedBy = others.filter field.isNamedBy := by
  have within (payload : List (Value × Value)) :
      (payload.filter (OptionField.anyNamedBy field.isOnPage)).filter field.isNamedBy =
        payload.filter field.isNamedBy := by
    rw [List.filter_filter]
    refine List.filter_congr fun entry _ => ?_
    rw [Bool.and_eq_left_iff_imp]
    intro names
    refine List.any_eq_true.mpr ⟨field, OptionField.mem_all field, ?_⟩
    rw [names, beq_self_eq_true, Bool.and_self]
  rw [← within pairs, ← within others, same]

/-- Each field of the options of a payload has the value under the last key that names it, or
its default; other pairs may come and go and change places, and what names fields of one
section leaves the other one as it is. -/
theorem fields_of_payload (pairs : List (Value × Value)) (options : Options)
    (accepted : ofValue (Table.pairValues pairs) = .ok options) :
    (∀ field, options.get field =
        settled field ((field.given? pairs).getD (({} : Options).get field))) ∧
      (options.get .dialect = .text "standalone" ∨
        options.get .dialect = .text "server-rendered") ∧
      (∀ others, Relation.EqvGen Rearranged pairs others →
        ofValue (Table.pairValues others) = .ok options) ∧
      ∀ others result, ofValue (Table.pairValues others) = .ok result → ∀ onPage,
        pairs.filter (OptionField.anyNamedBy onPage) =
            others.filter (OptionField.anyNamedBy onPage) →
          ∀ field, field.isOnPage = onPage → result.get field = options.get field := by
  refine ⟨get_of_ofValue accepted, ?_, ?_, ?_⟩
  · have named : options.get .dialect = .text options.dialect.name := rfl
    rw [named]
    cases options.dialect with
    | standalone => exact .inl rfl
    | serverRendered => exact .inr rfl
  · intro others steps
    obtain ⟨hashable, same⟩ := Rearranged.chain steps
    exact (ofValue_congr hashable same options).mp accepted
  · rintro others result alsoAccepted _ same field rfl
    rw [get_of_ofValue accepted, get_of_ofValue alsoAccepted,
      OptionField.given?_congr (filter_of_anyNamedBy same)]

/-- A repeated key keeps its place, so the alias after it counts; a framework names a dialect. -/
theorem fields_of_aliases :
    ∃ options,
      ofValue (Table.pairValues [
        (.text "shadows", .bool false), (.text "framework", .text "vue"),
        (.text "shadowsEnabled", .bool true), (.text "instanceall", .bool true),
        (.int 7, .null), (.text "targetDialect", .text "nuxt"),
        (.text "environment", .text "night"), (.text "shadows", .text "off")]) = .ok options ∧
      options.get .shadows = .bool true ∧ options.get .dialect = .text "server-rendered" ∧
      options.get .environmentPreset = .text "night" ∧ options.get .precision = .int 3 := by
  refine Exists.imp (fun options accepted => ⟨accepted, ?_⟩) ⟨_, rfl⟩
  have resolved := (fields_of_payload _ options accepted).1
  exact ⟨resolved .shadows, resolved .dialect, resolved .environmentPreset, resolved .precision⟩

end Options

end SceneComponent
