import SceneComponent.Inventory.Basic
import SceneComponent.Text.Escapes
import SceneComponent.Text.Layout
import SceneComponent.Value.Literal

/-!
# Elements of templates

A template is a tree of elements with attributes.  Its tags and the script
constants that it binds are read off the tree; its text is laid out from it,
every element on lines of its own.
-/

set_option autoImplicit false

namespace SceneComponent

/-- What an attribute holds: nothing, a fixed text, a script constant, or code
that is evaluated. -/
inductive AttributeContent where
  | flag
  | fixed (text : String)
  | constant (name : String)
  | code (source : String)
  deriving DecidableEq, Repr

structure Attribute where
  name : String
  content : AttributeContent
  deriving DecidableEq, Repr

namespace Attribute

/-- The content for a property: true is a flag, a text is fixed, and any other
value is a literal that is evaluated. -/
def contentOf : Value → AttributeContent
  | .bool true => .flag
  | .constant name => .constant name
  | .text content => .fixed content
  | value => .code value.literal

def ofProperty (property : String × Value) : Attribute :=
  ⟨property.1, contentOf property.2⟩

def text (item : Attribute) : String :=
  match item.content with
  | .flag => item.name
  | .fixed content => item.name ++ "=\"" ++ Text.attributeText content ++ "\""
  | .constant name => ":" ++ item.name ++ "=\"" ++ name ++ "\""
  | .code source => ":" ++ item.name ++ "=\"" ++ Text.attributeText source ++ "\""

/-- The text of one attribute under a name of any kind; a flag is its name as it
is. -/
def ofValues (name content : Value) : Value :=
  match content with
  | .bool true => name
  | _ => .text (ofProperty (name.plainText, content)).text

def joined (attributes : List Attribute) : String :=
  " ".intercalate (attributes.map text)

/-- Attributes as they follow a tag, with a space before each. -/
def following (attributes : List Attribute) : String :=
  if attributes.isEmpty then "" else " " ++ joined attributes

/-- The attributes of an entry: its transform, then its properties. -/
def ofEntry (properties : Properties) (transform : Transform := {}) : List Attribute :=
  (transform.attributes ++ properties).map ofProperty

end Attribute

inductive Element where
  | blank
  | comment (text : String)
  | leaf (tag : String) (attributes : List Attribute)
  | branch (tag : String) (attributes : List Attribute) (content : List Element)

namespace Element

open SceneComponent.Text

mutual

def steps : Element → List LayoutStep
  | .blank => [.line ""]
  | .comment text => [.line ("<!-- " ++ text ++ " -->")]
  | .leaf tag attributes => [.line ("<" ++ tag ++ Attribute.following attributes ++ " />")]
  | .branch tag attributes content =>
      .line ("<" ++ tag ++ Attribute.following attributes ++ ">") ::
        deeper (stepsOf content) ++ [.line ("</" ++ tag ++ ">")]

def stepsOf : List Element → List LayoutStep
  | [] => []
  | element :: rest => steps element ++ stepsOf rest

end

mutual

def tags : Element → List String
  | .blank => []
  | .comment _ => []
  | .leaf tag _ => [tag]
  | .branch tag _ content => tag :: tagsOf content

def tagsOf : List Element → List String
  | [] => []
  | element :: rest => tags element ++ tagsOf rest

end

def constantsOfAttributes (attributes : List Attribute) : List String :=
  attributes.filterMap fun item =>
    match item.content with
    | .constant name => some name
    | _ => none

mutual

def constants : Element → List String
  | .blank => []
  | .comment _ => []
  | .leaf _ attributes => constantsOfAttributes attributes
  | .branch _ attributes content =>
      constantsOfAttributes attributes ++ constantsOf content

def constantsOf : List Element → List String
  | [] => []
  | element :: rest => constants element ++ constantsOf rest

end

end Element

end SceneComponent
