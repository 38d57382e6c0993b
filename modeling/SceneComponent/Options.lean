import SceneComponent.Component.Style
import SceneComponent.Identifier
import SceneComponent.Inventory.Basic
import SceneComponent.ModelPath

/-!
# Conversion options

Options come as a payload of keys and values in which a field may be named in
several ways and unknown keys are passed over.  Only the dialect and the number
of decimal places are checked at once; the other values are looked at when they
are used.
-/

set_option autoImplicit false

namespace SceneComponent

inductive OptionField where
  | fileName
  | pathPrefix
  | typed
  | composition
  | shadows
  | dialect
  | precision
  | autoRotate
  | environmentPreset
  | lightingPreset
  | intensity
  | contactShadow
  deriving DecidableEq, Repr

namespace OptionField

/-- The keys of a payload, with the fields that they name. -/
def keys : List (String × OptionField) := [
  ("file_name", fileName), ("fileName", fileName),
  ("path_prefix", pathPrefix), ("pathPrefix", pathPrefix),
  ("typed", typed), ("types", typed),
  ("composition_style", composition), ("compositionStyle", composition),
  ("useComposition", composition),
  ("shadows_enabled", shadows), ("shadowsEnabled", shadows), ("shadows", shadows),
  ("target_dialect", dialect), ("targetDialect", dialect), ("framework", dialect),
  ("decimal_precision", precision), ("decimalPrecision", precision),
  ("precision", precision),
  ("auto_rotate", autoRotate), ("autoRotate", autoRotate),
  ("environment_preset", environmentPreset), ("environmentPreset", environmentPreset),
  ("environment", environmentPreset),
  ("lighting_preset", lightingPreset), ("lightingPreset", lightingPreset),
  ("preset", lightingPreset),
  ("intensity", intensity),
  ("contact_shadow", contactShadow), ("contactShadow", contactShadow)]

def ofKey? (key : String) : Option OptionField := keys.lookup key

end OptionField

/-- Options as they were asked for, before the checks. -/
structure OptionRequest where
  fileName : Value := .text "model.glb"
  pathPrefix : Value := .text ""
  typed : Value := .bool true
  composition : Value := .bool true
  shadows : Value := .bool false
  dialect : Value := .text "standalone"
  precision : Value := .int 3
  autoRotate : Value := .bool false
  environmentPreset : Value := .text "city"
  lightingPreset : Value := .text "rembrandt"
  intensity : Value := .float 1.0
  contactShadow : Value := .bool false

namespace OptionRequest

def get (request : OptionRequest) : OptionField → Value
  | .fileName => request.fileName
  | .pathPrefix => request.pathPrefix
  | .typed => request.typed
  | .composition => request.composition
  | .shadows => request.shadows
  | .dialect => request.dialect
  | .precision => request.precision
  | .autoRotate => request.autoRotate
  | .environmentPreset => request.environmentPreset
  | .lightingPreset => request.lightingPreset
  | .intensity => request.intensity
  | .contactShadow => request.contactShadow

def set (request : OptionRequest) (field : OptionField) (value : Value) : OptionRequest :=
  match field with
  | .fileName => { request with fileName := value }
  | .pathPrefix => { request with pathPrefix := value }
  | .typed => { request with typed := value }
  | .composition => { request with composition := value }
  | .shadows => { request with shadows := value }
  | .dialect => { request with dialect := value }
  | .precision => { request with precision := value }
  | .autoRotate => { request with autoRotate := value }
  | .environmentPreset => { request with environmentPreset := value }
  | .lightingPreset => { request with lightingPreset := value }
  | .intensity => { request with intensity := value }
  | .contactShadow => { request with contactShadow := value }

theorem get_set (request : OptionRequest) (field other : OptionField) (value : Value) :
    (request.set field value).get other = if field = other then value else request.get other := by
  cases field <;> cases other <;> rfl

/-- One entry of a payload; unknown keys change nothing. -/
def apply (request : OptionRequest) (entry : String × Value) : OptionRequest :=
  match OptionField.ofKey? entry.1 with
  | some field => request.set field entry.2
  | none => request

def ofPayload (payload : Properties) : OptionRequest := payload.foldl apply {}

end OptionRequest

structure Options where
  fileName : Value := .text "model.glb"
  pathPrefix : Value := .text ""
  typed : Value := .bool true
  composition : Value := .bool true
  shadows : Value := .bool false
  dialect : Dialect := .standalone
  precision : Value := .int 3
  autoRotate : Value := .bool false
  environmentPreset : Value := .text "city"
  lightingPreset : Value := .text "rembrandt"
  intensity : Value := .float 1.0
  contactShadow : Value := .bool false

namespace Options

def dialectNames : List (String × Dialect) := [
  ("standalone", .standalone), ("server-rendered", .serverRendered),
  ("vue3", .standalone), ("vue", .standalone), ("nuxt", .serverRendered)]

def dialectOf (value : Value) : Except Failure Dialect :=
  match value with
  | .text name =>
      match dialectNames.lookup name with
      | some dialect => .ok dialect
      | none => .error (.unknownDialect value)
  | .list _ => .error .unsuitableKind
  | .map _ => .error .unsuitableKind
  | _ => .error (.unknownDialect value)

def isBelowZero : Value → Except Failure Bool
  | .bool _ => .ok false
  | .int number => .ok (decide (number < 0))
  | .float number => .ok (Binary64.isBelowZero number)
  | _ => .error .unsuitableKind

/-- Checks the dialect, then the number of places. -/
def ofRequest (request : OptionRequest) : Except Failure Options := do
  let dialect ← dialectOf request.dialect
  if ← isBelowZero request.precision then .error (.negativePrecision request.precision)
  else return {
    dialect
    fileName := request.fileName
    pathPrefix := request.pathPrefix
    typed := request.typed
    composition := request.composition
    shadows := request.shadows
    precision := request.precision
    autoRotate := request.autoRotate
    environmentPreset := request.environmentPreset
    lightingPreset := request.lightingPreset
    intensity := request.intensity
    contactShadow := request.contactShadow }

def ofPairs (pairs : List (String × Value)) : Except Failure Options :=
  ofRequest (.ofPayload (Properties.ofPairs pairs))

/-- The options of a payload that is a map, or a list of keys with values; a key
that is no text is an unknown one. -/
def ofValue (payload : Value) : Except Failure Options := do
  ofPairs (← Table.ofValue payload).named

def forServerRendering (fileName : Value := .text "model.glb") : Options :=
  { fileName, pathPrefix := .text "models", dialect := .serverRendered }

def forUntypedScript (fileName : Value := .text "model.glb") : Options :=
  { fileName, typed := .bool false, composition := .bool false }

def modelPath (options : Options) : Except Failure String :=
  ModelPath.ofValues options.fileName options.pathPrefix

def componentName (options : Options) : Except Failure String := do
  return Identifier.componentName (← options.fileName.toText)

/-- The style of the component; its path is settled before its name. -/
def style (options : Options) : Except Failure Style := do
  let modelPath ← options.modelPath
  let componentName ← options.componentName
  return {
    typed := options.typed.isTruthy
    composition := options.composition.isTruthy
    shadows := options.shadows.isTruthy
    dialect := options.dialect
    modelPath, componentName }

/-- All options in one list, those of the host page under a common prefix. -/
def flat (options : Options) : Properties :=
  Value.openedEntries [
    ("file_name", options.fileName),
    ("path_prefix", options.pathPrefix),
    ("typed", options.typed),
    ("composition_style", options.composition),
    ("shadows_enabled", options.shadows),
    ("target_dialect", .text options.dialect.name),
    ("decimal_precision", options.precision),
    ("viewer/auto_rotate", options.autoRotate),
    ("viewer/environment_preset", options.environmentPreset),
    ("viewer/lighting_preset", options.lightingPreset),
    ("viewer/intensity", options.intensity),
    ("viewer/contact_shadow", options.contactShadow)]

end Options

end SceneComponent
