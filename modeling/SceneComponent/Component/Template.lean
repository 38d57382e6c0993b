import SceneComponent.Component.Element
import SceneComponent.Component.Imports

/-!
# Templates of components

One group that holds the lights, the meshes and the cameras in this order, and
at last the whole loaded scene, which shows what no entry models.
-/

set_option autoImplicit false

namespace SceneComponent.Template

open SceneComponent.Text

def entryElement (entry : Entry) : Element :=
  .leaf entry.tag (Attribute.ofEntry entry.properties entry.transform)

/-- The flags of the shadows of a mesh, where shadows are written at all. -/
def shadowAttributes (style : Style) (entry : MeshEntry) : List Attribute :=
  if style.shadows then
    (if entry.castShadow.isTruthy then [⟨"cast-shadow", .flag⟩] else []) ++
      (if entry.receiveShadow.isTruthy then [⟨"receive-shadow", .flag⟩] else [])
  else []

def geometryElement (entry : GeometryEntry) : Element :=
  .leaf entry.tag (Attribute.ofEntry
    (if entry.arguments.isEmpty then [] else [("args", .list entry.arguments)]))

def materialElement (entry : MaterialEntry) : Element :=
  .leaf entry.tag (Attribute.ofEntry entry.properties)

/-- A mesh with its geometry and material, after a comment with its name. -/
def meshElements (style : Style) (entry : MeshEntry) : List Element :=
  [.comment entry.name,
    .branch meshTag (Attribute.ofEntry [] entry.transform ++ shadowAttributes style entry)
      [geometryElement entry.geometry, materialElement entry.material]]

def sceneElements : List Element :=
  [.comment "GLTF scene", .leaf "primitive" [⟨"object", .code "scene"⟩]]

def root (inventory : Inventory) (style : Style) : Element :=
  .branch Imports.groupTag (if inventory.hasClips then [⟨"ref", .fixed "group"⟩] else [])
    (inventory.lights.map entryElement ++
      inventory.meshes.flatMap (meshElements style) ++
      inventory.cameras.map entryElement ++ sceneElements)

def block (inventory : Inventory) (style : Style) : String :=
  laidOut 1 (root inventory style).steps

end SceneComponent.Template
