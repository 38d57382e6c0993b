import SceneComponent.Text.Characters
import SceneComponent.Text.Pattern
import SceneComponent.Value.Scalar

/-!
# Identifiers

Names of a scene are arbitrary texts; names of generated code are identifiers: a
letter or underscore of ASCII, then letters, digits and underscores.
-/

set_option autoImplicit false

namespace SceneComponent.Identifier

open SceneComponent.Text

def isStart (c : Char) : Bool := isAsciiLetter c || c = '_'

def isRest (c : Char) : Bool := isAsciiAlphanumeric c || c = '_'

def spells : List Char → Bool
  | [] => false
  | first :: rest => isStart first && rest.all isRest

def withoutFinalBreak (chars : List Char) : List Char :=
  if chars.getLast? = some '\n' then chars.dropLast else chars

/-- Whether a line of text, with or without the line feed that ends it, is an
identifier. -/
def accepts (text : String) : Bool := spells (withoutFinalBreak text.toList)

def guardDigit : List Char → List Char
  | [] => []
  | first :: rest => if isAsciiDigit first then '_' :: first :: rest else first :: rest

/-- Replaces every character that is no letter or digit of ASCII by an
underscore, trims the underscores at both ends and guards a leading digit. -/
def clean (chars : List Char) : List Char :=
  guardDigit
    (Text.trim (· == '_') (chars.map fun c => if isAsciiAlphanumeric c then c else '_'))

def usualFallback : String := "Component"

def cleanFallback (fallback : String) : String :=
  let cleaned := clean fallback.toList
  if cleaned.isEmpty then usualFallback else String.ofList cleaned

/-- The identifier of a name: the cleaned name, or a fallback with a suffix when
nothing of the name is left. -/
def resolve (raw fallback suffix : String) : String :=
  let cleaned := clean raw.toList
  if cleaned.isEmpty then cleanFallback fallback ++ suffix else String.ofList cleaned

def ordinalSuffix : Option Int → String
  | none => ""
  | some ordinal => "_" ++ Value.intText ordinal

/-- The identifier of a name; the ordinal keeps several fallbacks apart. -/
def ofName (raw : String) (fallback : String := usualFallback)
    (ordinal : Option Int := none) : String :=
  resolve raw fallback (ordinalSuffix ordinal)

/-- The identifier of a name that may be missing; the fallback is looked at only
when nothing of the name is left. -/
def ofValue (raw : Value) (fallback : Value := .text usualFallback)
    (ordinal : Value := .null) : Except Failure String := do
  let name ← raw.toName
  let suffix := if ordinal.isNull then "" else "_" ++ ordinal.plainText
  match clean name.toList, fallback with
  | [], .text content => return resolve name content suffix
  | [], _ => .error .unsuitableKind
  | _, _ => return resolve name usualFallback suffix

/-! ## Component names -/

/-- The part of a file path after its last separator and before the first point
that follows. -/
def baseName (path : List Char) : List Char :=
  let segments := (path.map fun c => if c = '\\' then '/' else c).splitOn '/'
  ((segments.getLast?.getD []).splitOn '.').head?.getD []

/-- Writes the first character in capitals and drops what is no letter or digit
of ASCII. -/
def capitalized : List Char → List Char
  | [] => []
  | first :: rest => Text.capitals first ++ rest.filter isAsciiAlphanumeric

def componentName (fileName : String) : String :=
  let name := capitalized (baseName fileName.toList)
  if name.isEmpty then "Model" else String.ofList (guardDigit name)

end SceneComponent.Identifier
