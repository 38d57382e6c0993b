import SceneComponent.Value.Scalar

/-!
# Styles of components

How a component is written: typed or not, in the composition or the options
style, with or without shadows, and for which dialect of the framework.
-/

set_option autoImplicit false

namespace SceneComponent

/-- Standalone projects import the framework's components; server-rendered ones
have them registered. -/
inductive Dialect where
  | standalone
  | serverRendered
  deriving DecidableEq, Repr

namespace Dialect

def name : Dialect → String
  | .standalone => "standalone"
  | .serverRendered => "server-rendered"

/-- The dialect of a tag; what is no tag of a dialect means standalone. -/
def ofValue : Value → Dialect
  | .text tag => if tag = serverRendered.name then .serverRendered else .standalone
  | _ => .standalone

end Dialect

structure Style where
  typed : Bool := true
  composition : Bool := true
  shadows : Bool := false
  modelPath : String := "/model.glb"
  componentName : String := "Model"
  dialect : Dialect := .standalone
  deriving DecidableEq, Repr

structure StyleSettings where
  typed : Value := .bool true
  composition : Value := .bool true
  shadows : Value := .bool false
  modelPath : Value := .text "/model.glb"
  componentName : Value := .text "Model"
  dialect : Value := .text "standalone"

/-- The style of settings.  The path has to be a text, and so has the component
name in the options style, which alone writes it. -/
def StyleSettings.style (settings : StyleSettings) : Except Failure Style := do
  let modelPath ← settings.modelPath.toText
  let composition := settings.composition.isTruthy
  let componentName ←
    if composition then .ok settings.componentName.plainText
    else settings.componentName.toText
  return {
    composition, modelPath, componentName
    typed := settings.typed.isTruthy
    shadows := settings.shadows.isTruthy
    dialect := .ofValue settings.dialect }

end SceneComponent
