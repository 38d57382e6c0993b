import SceneComponent.Text.Pattern

/-!
# Indented lines

A text is laid out by steps: write a line at the current level, write the lines
of a finished text, enter a deeper level, leave it.  A line without characters
stays empty at every level.
-/

set_option autoImplicit false

namespace SceneComponent.Text

inductive LayoutStep where
  | line (text : String)
  | embed (text : String)
  | enter
  | leave
  deriving DecidableEq, Repr

/-- The lines written so far and the level of the next one.  Below level zero
nothing is indented. -/
structure Layout where
  level : Int := 0
  lines : Array String := #[]

namespace Layout

def indentation (level : Int) : String :=
  String.ofList (List.replicate (2 * level.toNat) ' ')

def indented (level : Int) (text : String) : String :=
  if text.isEmpty then "" else indentation level ++ text

def line (layout : Layout) (text : String) : Layout :=
  { layout with lines := layout.lines.push (indented layout.level text) }

def step (layout : Layout) : LayoutStep → Layout
  | .line text => layout.line text
  | .embed text => (Text.lines text).foldl line layout
  | .enter => { layout with level := layout.level + 1 }
  | .leave => { layout with level := layout.level - 1 }

def run (layout : Layout) (steps : List LayoutStep) : Layout :=
  steps.foldl step layout

def text (layout : Layout) : String := "\n".intercalate layout.lines.toList

end Layout

def deeper (steps : List LayoutStep) : List LayoutStep :=
  .enter :: steps ++ [.leave]

/-- The text of steps written from a level on. -/
def laidOut (level : Int) (steps : List LayoutStep) : String :=
  (Layout.run (Layout.mk level #[]) steps).text

end SceneComponent.Text
