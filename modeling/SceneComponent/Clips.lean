import SceneComponent.Identifier
import SceneComponent.Scene.Document

/-!
# Clip slots

The clips that a component plays: every distinct clip once, at its first place
in the list of the model, which is how the running component finds it.
-/

set_option autoImplicit false

namespace SceneComponent.Clip

/-- A place in the list of clips, with an identifier for the clip there. -/
structure Slot where
  index : Nat
  name : String
  deriving DecidableEq, Repr

/-- The clips from an index on with their places, but for those already seen. -/
def firstPlacesFrom (seen : List Nat) (index : Nat) : List Clip → List (Nat × Clip)
  | [] => []
  | clip :: rest =>
      if seen.contains clip.identity then firstPlacesFrom seen (index + 1) rest
      else (index, clip) :: firstPlacesFrom (clip.identity :: seen) (index + 1) rest

def firstPlaces (clips : List Clip) : List (Nat × Clip) := firstPlacesFrom [] 0 clips

/-- The slot of a clip at a place; the place stands in for a name of which nothing
is left. -/
def slotAt (place : Nat × Clip) : Except Failure Slot := do
  return ⟨place.1, Identifier.ofName (← place.2.name.toName) "Animation" (some place.1)⟩

def slots (clips : List Clip) : Except Failure (List Slot) :=
  (firstPlaces clips).mapM slotAt

end SceneComponent.Clip
