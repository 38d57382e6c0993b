import SceneComponent.Component.Style
import SceneComponent.Inventory.Basic
import SceneComponent.Text.Escapes
import SceneComponent.Text.Layout

/-!
# Imports of components

The names that a component imports, grouped by module, and the statements for
them.  A group without names is left out.
-/

set_option autoImplicit false

namespace SceneComponent

structure ImportGroup where
  source : String
  names : NameSet

/-- One import statement; types are imported by statements of their own. -/
structure ImportStatement where
  onlyTypes : Bool := false
  names : List String
  source : String
  deriving DecidableEq, Repr

namespace ImportStatement

def text (statement : ImportStatement) : String :=
  "import " ++ (if statement.onlyTypes then "type " else "") ++ "\x7b " ++
    ", ".intercalate statement.names ++ " \x7d from " ++ Text.scriptString statement.source

end ImportStatement

namespace Imports

def scriptModule : String := "vue"

def frameworkModule : String := "@tresjs/core"

def engineModule : String := "three"

def helperModule : String := "@tresjs/cientos"

def modelHelper : String := "useGLTF"

def groupTag : String := tagStem ++ "Group"

/-- The constants of the engine that a component may bind. -/
def engineConstants : List String := Side.all.map Side.name

/-- What the script itself needs: a reference to the group while clips play, the
moment to start them, and the definition of a typed component. -/
def scriptNames (inventory : Inventory) (style : Style) : NameSet :=
  .ofList (
    (if inventory.hasClips then ["ref"] else []) ++
    (if inventory.hasClips && style.composition then ["onMounted"] else []) ++
    (if style.typed && !style.composition then ["defineComponent"] else []))

/-- References that are given as values, all of which have to be of a kind that a
set can hold.  Where the elements of the framework are picked out of them they have
to be texts; elsewhere what is no text refers to nothing. -/
def givenReferences (dialect : Dialect) (names : List Value) : Except Failure NameSet :=
  if names.all Value.isKey then
    match dialect with
    | .standalone => do return NameSet.ofList (← names.mapM Value.toText)
    | .serverRendered =>
        .ok (.ofList (names.filterMap fun name => name.toText.toOption))
  else .error .unsuitableKind

/-- The elements of the framework; a server-rendered project has them
registered. -/
def frameworkNames (inventory : Inventory) (style : Style) : NameSet :=
  match style.dialect with
  | .standalone =>
      (inventory.references.filter fun name => tagStem.toList.isPrefixOf name.toList).insert
        groupTag
  | .serverRendered => .empty

def engineNames (inventory : Inventory) : NameSet :=
  inventory.references.filter fun name => engineConstants.contains name

def helperNames (inventory : Inventory) : NameSet :=
  .ofList (modelHelper ::
    if inventory.references.contains clipHelper then [clipHelper] else [])

def groups (inventory : Inventory) (style : Style) : List ImportGroup :=
  [ImportGroup.mk scriptModule (scriptNames inventory style),
    ⟨frameworkModule, frameworkNames inventory style⟩,
    ⟨engineModule, engineNames inventory⟩,
    ⟨helperModule, helperNames inventory⟩].filter fun group => !group.names.isEmpty

def namesOf (source : String) (groups : List ImportGroup) : List String :=
  ((groups.find? fun group => group.source == source).map (·.names.names)).getD []

/-- The statements: the type of properties for a typed component in the options
style, then one for each group. -/
def statements (inventory : Inventory) (style : Style) : List ImportStatement :=
  (if style.typed && !style.composition then
    [⟨true, ["PropType"], scriptModule⟩] else []) ++
    (groups inventory style).map fun group => ⟨false, group.names.names, group.source⟩

def block (inventory : Inventory) (style : Style) : String :=
  Text.laidOut 0 ((statements inventory style).map fun statement => .line statement.text)

end Imports

end SceneComponent
