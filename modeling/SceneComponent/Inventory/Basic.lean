import SceneComponent.Clips
import SceneComponent.NameSet
import SceneComponent.Value.Table

/-!
# Inventories

The flat list of what a component shows and plays: entries for meshes, lights
and cameras with the properties that have to be written, the clips, the names
that the entries refer to, and the labels of nodes left to the loaded scene.
-/

set_option autoImplicit false

namespace SceneComponent

/-- Properties by name, in the order in which they are written. -/
abbrev Properties := List (String × Value)

namespace Properties

/-- Sets a property: a new name goes to the end, a known name keeps its place. -/
def put (properties : Properties) (name : String) (value : Value) : Properties :=
  match properties with
  | [] => [(name, value)]
  | entry :: rest =>
      if entry.1 = name then (name, value) :: rest
      else entry :: put rest name value

def ofPairs (pairs : List (String × Value)) : Properties :=
  pairs.foldl (fun known entry => put known entry.1 entry.2) []

/-- The properties of a table.  A name that is no text is written as it is shown,
except for a flag, which is nothing but its name. -/
def ofTable (table : Table) : Except Failure Properties :=
  table.mapM fun entry =>
    match entry with
    | (.text name, content) => .ok (name, content)
    | (_, .bool true) => .error .unsuitableKind
    | (name, content) => .ok (name.plainText, content)

def constants (properties : Properties) : List String :=
  properties.filterMap fun entry =>
    match entry.2 with
    | .constant name => some name
    | _ => none

end Properties

/-- A local transform; a part that is absent is neutral. -/
structure Transform where
  position : Option Value := none
  rotation : Option Value := none
  scale : Option Value := none

namespace Transform

def attributes (transform : Transform) : Properties :=
  (transform.position.map ("position", ·)).toList ++
    (transform.rotation.map ("rotation", ·)).toList ++
    (transform.scale.map ("scale", ·)).toList

def isIdentity (transform : Transform) : Bool := transform.attributes.isEmpty

end Transform

structure GeometryEntry where
  tag : String
  arguments : List Value := []

structure MaterialEntry where
  kind : String
  tag : String
  properties : Properties := []

structure MeshEntry where
  name : String
  geometry : GeometryEntry
  material : MaterialEntry
  transform : Transform := {}
  castShadow : Value := .bool false
  receiveShadow : Value := .bool false

structure Entry where
  tag : String
  properties : Properties := []
  transform : Transform := {}

/-- The word that the tags of all elements begin with. -/
def tagStem : String := "Tres"

def meshTag : String := tagStem ++ "Mesh"

def clipHelper : String := "useAnimations"

structure Inventory where
  meshes : List MeshEntry := []
  lights : List Entry := []
  cameras : List Entry := []
  clipNames : List Value := []
  /-- The places of the clips in the list of the model; without them the clips
  stand in order. -/
  clipIndices : List Value := []
  references : NameSet := .empty
  leftovers : List String := []

namespace Inventory

def hasClips (inventory : Inventory) : Bool := !inventory.clipNames.isEmpty

def slots (inventory : Inventory) : List (Value × Value) :=
  let indices :=
    if inventory.clipIndices.isEmpty then
      (List.range inventory.clipNames.length).map fun index => .int (Int.ofNat index)
    else inventory.clipIndices
  indices.zip inventory.clipNames

def summary (inventory : Inventory) : String :=
  toString inventory.meshes.length ++ " meshes, " ++
    toString inventory.lights.length ++ " lights, " ++
    toString inventory.cameras.length ++ " cameras, " ++
    toString inventory.clipNames.length ++ " animations"

def meshReferences (entry : MeshEntry) : List String :=
  meshTag :: entry.geometry.tag :: entry.material.tag ::
    entry.material.properties.constants

def entryReferences (entry : Entry) : List String :=
  entry.tag :: entry.properties.constants

def referencesOf (meshes : List MeshEntry) (lights cameras : List Entry)
    (hasClips : Bool) : NameSet :=
  .ofList (lights.flatMap entryReferences ++ meshes.flatMap meshReferences ++
    cameras.flatMap entryReferences ++ if hasClips then [clipHelper] else [])

end Inventory

end SceneComponent
