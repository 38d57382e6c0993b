import SceneComponent.Value.Scalar

/-!
# Arrays of numbers

Nested lists of numbers of equal lengths at every depth, as a shape and the
numbers in order.  The shape is settled before any number is read; an absent
number is undefined.
-/

set_option autoImplicit false

namespace SceneComponent

/-- The lengths along the axes, and the numbers with the last axis running
fastest. -/
structure NumberArray where
  shape : List Nat
  numbers : List Float

namespace NumberArray

def axisLimit : Nat := 64

/-- The shape of a list whose items have the given shapes. -/
def joinedShape? : List (List Nat) → Option (List Nat)
  | [] => some [0]
  | first :: rest =>
      if rest.all (· == first) then some ((rest.length + 1) :: first) else none

mutual

/-- The shape of a value; lists of unlike shapes have none together. -/
def shape? : Value → Option (List Nat)
  | .list items => (shapes? items).bind joinedShape?
  | _ => some []

def shapes? : List Value → Option (List (List Nat))
  | [] => some []
  | item :: rest =>
      match shape? item, shapes? rest with
      | some first, some others => some (first :: others)
      | _, _ => none

end

def readNumber : Value → Except Failure Float
  | .null => .ok Binary64.undefined
  | value => value.toDouble

mutual

/-- The numbers of a value in order; the first one that cannot be read decides. -/
def readNumbers : Value → Except Failure (List Float)
  | .list items => readItems items
  | value => do return [← readNumber value]

def readItems : List Value → Except Failure (List Float)
  | [] => .ok []
  | item :: rest => do
      let first ← readNumbers item
      let others ← readItems rest
      return first ++ others

end

def ofValue (value : Value) : Except Failure NumberArray := do
  match shape? value with
  | none => .error .meaningless
  | some shape =>
      if axisLimit < shape.length then .error .meaningless
      else return ⟨shape, ← readNumbers value⟩

def equals (left right : NumberArray) : Bool :=
  left.shape == right.shape &&
    (left.numbers.zip right.numbers).all fun pair => Binary64.equals pair.1 pair.2

end NumberArray

namespace Value

/-- The three components of a value whose elements are numbers. -/
def components (value : Value) : Except Failure (Float × Float × Float) := do
  match value.elements? with
  | none => .error .unsuitableKind
  | some elements =>
      let array ← NumberArray.ofValue (.list elements)
      match array.shape, array.numbers with
      | [_], [x, y, z] => return (x, y, z)
      | shape, _ => .error (.wrongShape shape)

def roundComponents (value : Value) (places : Value := usualPlaces) :
    Except Failure (Float × Float × Float) := do
  let (x, y, z) ← value.components
  return (← roundDouble x places, ← roundDouble y places, ← roundDouble z places)

/-- Three numbers of a scene.  Anything else is a fault of the scene, but for an
integer that is too large. -/
def threeNumbers (value : Value) (place : String) : Except Failure Value :=
  match NumberArray.ofValue value with
  | .ok ⟨[_], [x, y, z]⟩ => .ok (.triple x y z)
  | .error .beyondRange => .error .beyondRange
  | _ => .error (.malformedScene (.notThreeNumbers place value))

def sameNumbers (left right : Value) : Except Failure Bool := do
  return (← NumberArray.ofValue left).equals (← NumberArray.ofValue right)

end Value

end SceneComponent
