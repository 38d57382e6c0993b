import SceneComponent.Component.PathProperty
import SceneComponent.Component.Setup
import SceneComponent.Component.Template

/-!
# Component files

A file has three sections: the template, the script and the style.  In the
composition style the script holds the imports, the property and the setup one
after the other; in the options style the property and the setup are members of
the exported object.
-/

set_option autoImplicit false

namespace SceneComponent.ComponentFile

open SceneComponent.Text

def scriptOpening (style : Style) : String :=
  "<script" ++ (if style.composition then " setup" else "") ++
    (if style.typed then " lang=\"ts\"" else "") ++ ">"

def compositionParts (inventory : Inventory) (style : Style) : List String :=
  ["", PathProperty.block style, "", Setup.block inventory style]

def members (inventory : Inventory) (style : Style) : String :=
  laidOut 1 [
    .line ("name: " ++ scriptString style.componentName ++ ","),
    .embed (PathProperty.block style),
    .embed (Setup.block inventory style)]

def optionsParts (inventory : Inventory) (style : Style) : List String :=
  ["",
    if style.typed then "export default defineComponent(\x7b" else "export default \x7b",
    members inventory style,
    if style.typed then "\x7d)" else "\x7d"]

def scriptParts (inventory : Inventory) (style : Style) : List String :=
  [scriptOpening style, Imports.block inventory style] ++
    (if style.composition then compositionParts inventory style
      else optionsParts inventory style) ++
    ["</script>"]

def parts (inventory : Inventory) (style : Style) : List String :=
  ["<template>", Template.block inventory style, "</template>", ""] ++
    scriptParts inventory style ++
    ["", "<style scoped>", "/* Add any component-specific styles here */", "</style>"]

def text (inventory : Inventory) (style : Style) : String :=
  "\n".intercalate (parts inventory style) ++ "\n"

end SceneComponent.ComponentFile
