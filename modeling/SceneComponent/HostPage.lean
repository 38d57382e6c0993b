import SceneComponent.Component.Element
import SceneComponent.Component.Imports
import SceneComponent.Options

/-!
# Host pages

The page that shows a component: a canvas with a camera, lights and controls,
and a stage, an environment and contact shadows where they are asked for.
-/

set_option autoImplicit false

namespace SceneComponent

/-- The rig around the component, which lights it from a preset. -/
structure Stage where
  preset : String
  intensity : Float
  shadows : Bool

structure HostPage where
  component : String
  dialect : Dialect
  typed : Bool
  stage : Option Stage
  environment : Option String
  contactShadow : Bool
  autoRotate : Bool
  shadowLiteral : String

namespace HostPage

open SceneComponent.Text

/-- A preset, which is a text where it counts as given. -/
def presetOf (value : Value) : Except Failure (Option String) :=
  if value.isTruthy then do return some (← value.toText) else .ok none

/-- The intensity is only looked at where there is a stage. -/
def stageOf (options : Options) : Except Failure (Option Stage) := do
  match ← presetOf options.lightingPreset with
  | some preset =>
      let intensity ← options.intensity.round
      return some ⟨preset, intensity, options.shadows.isTruthy⟩
  | none => return none

def ofOptions (options : Options) : Except Failure HostPage := do
  let component ← options.componentName
  let stage ← stageOf options
  let environment ← presetOf options.environmentPreset
  return {
    component, stage, environment
    dialect := options.dialect
    typed := options.typed.isTruthy
    contactShadow := options.contactShadow.isTruthy
    autoRotate := options.autoRotate.isTruthy
    shadowLiteral := options.shadows.literal }

/-! ## Template -/

def subject (page : HostPage) : Element :=
  let component := Element.leaf page.component []
  match page.stage with
  | some stage =>
      .branch "Stage"
        ([⟨"preset", .fixed stage.preset⟩,
          ⟨"intensity", .code (Value.doubleLiteral stage.intensity)⟩] ++
          if stage.shadows then [⟨"shadows", .flag⟩] else [])
        [component]
  | none => .branch Imports.groupTag [] [component]

def environmentElements (page : HostPage) : List Element :=
  match page.environment with
  | some preset => [.leaf "Environment" [⟨"preset", .fixed preset⟩]]
  | none => []

def shadowElements (page : HostPage) : List Element :=
  if page.contactShadow then
    [.leaf "ContactShadows" [⟨"position", .code "[0,-1.4,0]"⟩, ⟨"opacity", .code "0.75"⟩,
      ⟨"blur", .code "2.5"⟩]]
  else []

def controls (page : HostPage) : Element :=
  .leaf "OrbitControls" (if page.autoRotate then [⟨"auto-rotate", .flag⟩] else [])

def canvas (page : HostPage) : Element :=
  .branch "TresCanvas" [⟨"v-bind", .fixed "gl"⟩, ⟨"window-size", .flag⟩]
    ([.leaf "TresPerspectiveCamera"
        [⟨"position", .code "[0,0,5]"⟩, ⟨"fov", .code "50"⟩],
      .blank,
      .branch "Suspense" [] [page.subject],
      .blank,
      .leaf "TresAmbientLight" [⟨"intensity", .code "0.5"⟩],
      .leaf "TresDirectionalLight"
        [⟨"position", .code "[10,10,5]"⟩, ⟨"intensity", .code "1"⟩]] ++
      page.environmentElements ++ page.shadowElements ++ [page.controls])

def template (page : HostPage) : Element :=
  .branch "template" []
    [.branch "div" [⟨"class", .fixed "scene-container"⟩] [page.canvas]]

/-! ## Script -/

def importPath (component : String) : Dialect → String
  | .standalone => "./components/" ++ component ++ ".vue"
  | .serverRendered => "~/components/" ++ component ++ ".vue"

/-- The helpers whose elements the template uses. -/
def helpers (page : HostPage) : NameSet :=
  .ofList ("OrbitControls" ::
    (if page.environment.isSome then ["Environment"] else []) ++
    (if page.stage.isSome then ["Stage"] else []) ++
    (if page.contactShadow then ["ContactShadows"] else []))

def frameworkNames (page : HostPage) : List String :=
  match page.dialect with
  | .standalone => ["TresCanvas"]
  | .serverRendered => []

def canvasOptions : String := "gl"

def bindings (page : HostPage) : List String :=
  page.frameworkNames ++ page.helpers.names ++ [page.component, canvasOptions]

def clearColor : String := "#1a1a1a"

def script (page : HostPage) : List LayoutStep :=
  [.line ("<script setup" ++ (if page.typed then " lang=\"ts\"" else "") ++ ">")] ++
    (if page.frameworkNames.isEmpty then [] else
      [.line (ImportStatement.text ⟨false, page.frameworkNames, Imports.frameworkModule⟩)]) ++
    [.line (ImportStatement.text ⟨false, page.helpers.names, Imports.helperModule⟩),
      .line ("import " ++ page.component ++ " from " ++
        scriptString (importPath page.component page.dialect)),
      .line "",
      .line ("const " ++ canvasOptions ++ " = \x7b")] ++
    deeper [
      .line ("clearColor: " ++ scriptString clearColor ++ ","),
      .line ("shadows: " ++ page.shadowLiteral ++ ","),
      .line "alpha: false,",
      .line "powerPreference: 'high-performance',"] ++
    [.line "\x7d", .line "</script>"]

def style : List LayoutStep :=
  [.line "<style scoped>", .line ".scene-container \x7b"] ++
    deeper [.line "width: 100vw;", .line "height: 100vh;"] ++
    [.line "\x7d", .line "</style>"]

def text (page : HostPage) : String :=
  laidOut 0 page.template.steps ++ "\n\n" ++ laidOut 0 page.script ++ "\n\n" ++
    laidOut 0 style ++ "\n"

end HostPage

end SceneComponent
