import SceneComponent.Component.Imports

/-!
# Setup of components

A component loads its model and, when there are clips, plays all of them once it
is mounted.  In the options style the setup hands out the names that the
template uses.
-/

set_option autoImplicit false

namespace SceneComponent.Setup

open SceneComponent.Text

/-- The line that plays the clip in a slot; the receiver stands before the names
that the setup handed out. -/
def playLine (receiver : String) (slot : Value × Value) : String :=
  receiver ++ "actions[" ++ receiver ++ "animations[" ++ slot.1.plainText ++
    "].name]?.play() // " ++ slot.2.plainText

def playSteps (inventory : Inventory) (receiver : String) : List LayoutStep :=
  .line "// Play all animations" ::
    inventory.slots.map fun slot => .line (playLine receiver slot)

def loadStep (inventory : Inventory) : LayoutStep :=
  let names := if inventory.hasClips then "scene, animations" else "scene"
  .line ("const \x7b " ++ names ++ " \x7d = await " ++ Imports.modelHelper ++ "(props.path)")

def actionSteps : List LayoutStep :=
  [.line "const group = ref()",
    .line ("const \x7b actions \x7d = " ++ clipHelper ++ "(animations, group)")]

def compositionSteps (inventory : Inventory) : List LayoutStep :=
  [.line "// Load GLTF model", loadStep inventory] ++
    if inventory.hasClips then
      [.line ""] ++ actionSteps ++ [.line "", .line "onMounted(() => \x7b"] ++
        deeper (playSteps inventory "") ++ [.line "\x7d)"]
    else []

/-- The names that the setup hands out in the options style: those of the model
and its clips, then the constants of the engine. -/
def exposedNames (inventory : Inventory) (style : Style) : List String :=
  (if inventory.hasClips then ["group", "scene", "animations", "actions"] else ["scene"]) ++
    Imports.namesOf Imports.engineModule (Imports.groups inventory style)

def optionsSteps (inventory : Inventory) (style : Style) : List LayoutStep :=
  .line "async setup(props) \x7b" ::
    deeper (
      loadStep inventory :: (if inventory.hasClips then actionSteps else []) ++
      [.line "", .line "return \x7b"] ++
      deeper ((exposedNames inventory style).map fun name => .line (name ++ ",")) ++
      [.line "\x7d"]) ++
    [.line "\x7d,"] ++
    if inventory.hasClips then
      .line "mounted() \x7b" :: deeper (playSteps inventory "this.") ++ [.line "\x7d,"]
    else []

def steps (inventory : Inventory) (style : Style) : List LayoutStep :=
  if style.composition then compositionSteps inventory else optionsSteps inventory style

def block (inventory : Inventory) (style : Style) : String :=
  laidOut 0 (steps inventory style)

end SceneComponent.Setup
