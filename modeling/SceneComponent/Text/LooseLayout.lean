import SceneComponent.Text.Layout
import SceneComponent.Value.Scalar

/-!
# Indented values

A layout whose level and lines are values, which are looked at when a line is
written.  A line that does not count as given stays empty at any level, and every
other line needs a level that is an integer.
-/

set_option autoImplicit false

namespace SceneComponent.Text

inductive LooseStep where
  | line (content : Value)
  | embed (content : Value)
  | enter
  | leave

/-- The lines written so far, the level of the next one, and the number of levels
that were entered and not left again. -/
structure LooseLayout where
  level : Value := .int 0
  lines : Array String := #[]
  entered : Nat := 0

namespace LooseLayout

/-- The levels below which the length of an indentation is a machine integer. -/
def countLimit : Int := Int.pow 2 62

/-- The levels below which an indentation fits into memory. -/
def memoryLimit : Int := Int.pow 2 40

/-- The indentation at a level.  Below level zero nothing is indented. -/
def indentation (level : Value) : Except Failure String := do
  let level ← level.toInteger
  if countLimit ≤ level || level < -(2 * countLimit) then .error .beyondRange
  else if memoryLimit ≤ level then .error .beyondMemory
  else return Layout.indentation level

/-- Writes a line; the level is only looked at where something is indented. -/
def line (layout : LooseLayout) (content : Value) : Except Failure LooseLayout := do
  let indented ←
    if content.isTruthy then (indentation layout.level).map (· ++ content.plainText)
    else .ok ""
  return { layout with lines := layout.lines.push indented }

/-- A level with a whole number added, which only numbers allow. -/
def shifted (level : Value) (offset : Int) : Except Failure Value :=
  match level with
  | .float number => .ok (.float (number + Float.ofInt offset))
  | _ => do return .int ((← level.toInteger) + offset)

/-- Goes on by a step; only a level that was entered can be left. -/
def step (layout : LooseLayout) : LooseStep → Except Failure LooseLayout
  | .line content => layout.line content
  | .embed content => do
      (Text.lines (← content.toText)).foldlM (fun known text => known.line (.text text)) layout
  | .enter => do
      return { layout with level := ← shifted layout.level 1, entered := layout.entered + 1 }
  | .leave => do
      match layout.entered with
      | 0 => .error .missingElement
      | entered + 1 => return { layout with level := ← shifted layout.level (-1), entered }

def text (layout : LooseLayout) : String := "\n".intercalate layout.lines.toList

end LooseLayout

end SceneComponent.Text
