import SceneComponent.Component.Style
import SceneComponent.Text.Escapes
import SceneComponent.Text.Layout

/-!
# The path property

Every component has one property, which is optional: the path of the model that
it loads.
-/

set_option autoImplicit false

namespace SceneComponent.PathProperty

open SceneComponent.Text

def standardLine (style : Style) : LayoutStep :=
  .line ("default: " ++ scriptString style.modelPath ++ ",")

def description (typeLine : String) (style : Style) : List LayoutStep :=
  .line "path: \x7b" :: deeper [.line typeLine, standardLine style] ++ [.line "\x7d,"]

def member (style : Style) : List LayoutStep :=
  let typeLine :=
    if style.typed then "type: String as PropType<string>," else "type: String,"
  .line "props: \x7b" :: deeper (description typeLine style) ++ [.line "\x7d,"]

/-- The declaration in the composition style, by an interface. -/
def typedDeclaration (style : Style) : List LayoutStep :=
  [.line "interface Props \x7b"] ++ deeper [.line "path?: string"] ++ [.line "\x7d"] ++
    [.line "", .line "const props = withDefaults(defineProps<Props>(), \x7b"] ++
    deeper [.line ("path: " ++ scriptString style.modelPath ++ ",")] ++ [.line "\x7d)"]

/-- The declaration in the composition style, by a description. -/
def untypedDeclaration (style : Style) : List LayoutStep :=
  .line "const props = defineProps(\x7b" :: deeper (description "type: String," style) ++
    [.line "\x7d)"]

def steps (style : Style) : List LayoutStep :=
  if !style.composition then member style
  else if style.typed then typedDeclaration style
  else untypedDeclaration style

def block (style : Style) : String := laidOut 0 (steps style)

end SceneComponent.PathProperty
