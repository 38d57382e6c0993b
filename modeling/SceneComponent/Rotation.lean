import SceneComponent.Value.Array

/-!
# Rotations

A unit quaternion as the three angles of turns about the axes x, y and z.
-/

set_option autoImplicit false

namespace SceneComponent

structure Quaternion where
  x : Float
  y : Float
  z : Float
  w : Float

namespace Quaternion

def norm (q : Quaternion) : Float :=
  Float.sqrt (q.x * q.x + q.y * q.y + q.z * q.z + q.w * q.w)

def scaledDown (q : Quaternion) (divisor : Float) : Quaternion :=
  ⟨q.x / divisor, q.y / divisor, q.z / divisor, q.w / divisor⟩

/-- From this sine of the second angle on, the axes of the first and the third
turn count as one. -/
def lockedSine : Float := 0.9999999

def limitedToUnit (x : Float) : Float :=
  if x < -1.0 then -1.0 else if 1.0 < x then 1.0 else x

/-- The angles of a quaternion of length one, read off its rotation matrix. -/
def unitAngles (q : Quaternion) : Float × Float × Float :=
  let ⟨x, y, z, w⟩ := q
  let m11 := 1.0 - 2.0 * (y * y + z * z)
  let m12 := 2.0 * (x * y - z * w)
  let m13 := 2.0 * (x * z + y * w)
  let m22 := 1.0 - 2.0 * (x * x + z * z)
  let m23 := 2.0 * (y * z - x * w)
  let m32 := 2.0 * (y * z + x * w)
  let m33 := 1.0 - 2.0 * (x * x + y * y)
  let second := Float.asin (limitedToUnit m13)
  if m13.abs < lockedSine then
    (Float.atan2 (-m23) m33, second, Float.atan2 (-m12) m11)
  else (Float.atan2 m32 m22, second, 0.0)

/-- The angles of a quaternion of any length; one of length zero turns
nothing. -/
def angles (q : Quaternion) : Float × Float × Float :=
  let length := q.norm
  if length == 0.0 then (0.0, 0.0, 0.0) else (q.scaledDown length).unitAngles

/-- The quaternion of the elements of a value.  Every element up to the fifth
has to be a number before their count matters. -/
def ofElements (value : Value) : Except Failure Quaternion := do
  match value.elements? with
  | none => .error .unsuitableKind
  | some elements =>
      match ← (elements.take 5).mapM Value.toDouble with
      | [x, y, z, w] => return ⟨x, y, z, w⟩
      | _ => .error .meaningless

end Quaternion

end SceneComponent
