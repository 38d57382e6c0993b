import SceneComponent.Component.Source
import SceneComponent.HostPage
import SceneComponent.Inventory.Survey

/-!
# Conversions

A conversion surveys the scene of a model, writes the component and its host
page, and reports which names and modules the component imports.
-/

set_option autoImplicit false

namespace SceneComponent

structure Outcome where
  source : String
  hostPage : String
  componentName : String
  imported : NameSet
  dependencies : NameSet
  inventory : Inventory
  records : List Record

namespace Conversion

def optionsRecord (options : Options) : Record :=
  .detail ("Conversion options: " ++ (Value.map options.flat).display)

def leftoverRecords (inventory : Inventory) : List Record :=
  if inventory.leftovers.isEmpty then []
  else [.detail (toString inventory.leftovers.length ++
    " nodes rendered only through the scene primitive")]

def summaryRecord (options : Options) (style : Style) (inventory : Inventory) : Record :=
  .notice ("Converted " ++ options.fileName.plainText ++ " -> " ++ style.componentName ++
    " (" ++ inventory.summary ++ ")")

def ofModel (model : Model) (options : Options) : Except Failure Outcome := do
  let (inventory, records) ←
    Inventory.survey model.scene model.clips options.precision options.shadows
  let style ← options.style
  let page ← HostPage.ofOptions options
  let groups := Imports.groups inventory style
  return {
    source := ComponentFile.text inventory style
    hostPage := page.text
    componentName := style.componentName
    imported := .ofList (groups.flatMap fun group => group.names.names)
    dependencies := .ofList (groups.map ImportGroup.source)
    inventory
    records := optionsRecord options :: records ++ leftoverRecords inventory ++
      [summaryRecord options style inventory] }

def run (model : Option Model) (options : Options := {}) : Except Failure Outcome :=
  match model with
  | some model => ofModel model options
  | none => .error .noSceneGraph

end Conversion

end SceneComponent
