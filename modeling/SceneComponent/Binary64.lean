/-!
# The lattice of doubles

Every finite double is an integer multiple of `2 ^ -1074`.  The magnitudes,
taken in increasing order, are numbered `0, 1, 2, …`; this *index* is the bit
pattern without its sign bit.  `units` gives the value of an index as a natural
number of `2 ^ -1074`, so that comparing magnitudes, halving intervals between
neighbours and rounding a ratio are exact statements about natural numbers.
-/

set_option autoImplicit false

namespace SceneComponent.Binary64

def twoTo (exponent : Nat) : Nat := Nat.pow 2 exponent

/-- The number of indices in a row of equally spaced magnitudes. -/
def rowLength : Nat := twoTo 52

/-- The index of infinity, the first one that is no finite magnitude. -/
def infiniteIndex : Nat := 2047 * rowLength

def unitsPerOne : Nat := twoTo 1074

def signBit : Nat := twoTo 63

def index (x : Float) : Nat := x.toBits.toNat % signBit

def isNegative (x : Float) : Bool := signBit ≤ x.toBits.toNat

def isFinite (x : Float) : Bool := index x < infiniteIndex

def isNaN (x : Float) : Bool := infiniteIndex < index x

def ofIndex (negative : Bool) (index : Nat) : Float :=
  Float.ofBits (UInt64.ofNat (if negative then signBit + index else index))

def undefined : Float := ofIndex false (infiniteIndex + twoTo 51)

/-- Whether two doubles are the same number: the two zeros are, and the undefined
number is not even itself. -/
def equals (x y : Float) : Bool :=
  !isNaN x && index x == index y && (isNegative x == isNegative y || index x == 0)

def isBelowZero (x : Float) : Bool := !isNaN x && isNegative x && index x != 0

/-- The binade of an index: its magnitudes are `2 ^ binade` units apart.  The
two lowest rows share the finest spacing. -/
def binade (index : Nat) : Nat := index / rowLength - 1

/-- The value of an index as a number of units. -/
def units (index : Nat) : Nat :=
  (index - binade index * rowLength) * twoTo (binade index)

/-- The last index whose value does not exceed an amount of units. -/
def floorIndex (amount : Nat) : Nat :=
  (amount.log2 - 52) * rowLength + amount / twoTo (amount.log2 - 52)

/-- The index nearest to a ratio; of two equally near the even one.  From the
middle between the largest finite magnitude and the next power of two on, it is
the index of infinity. -/
def nearest (numerator denominator : Nat) : Nat :=
  let lower := floorIndex (numerator * unitsPerOne / denominator)
  let twice := 2 * numerator * unitsPerOne
  let middle := (units lower + units (lower + 1)) * denominator
  let chosen :=
    if twice < middle then lower
    else if middle < twice then lower + 1
    else lower + lower % 2
  min chosen infiniteIndex

def isWhole (index : Nat) : Bool := units index % unitsPerOne = 0

def wholePart (index : Nat) : Nat := units index / unitsPerOne

/-- The double nearest to an integer, unless it is beyond the finite ones. -/
def ofInt? (n : Int) : Option Float :=
  let chosen := nearest n.natAbs 1
  if chosen < infiniteIndex then some (ofIndex (decide (n < 0)) chosen) else none

def equalsInt (x : Float) (n : Int) : Bool :=
  isFinite x && isWhole (index x) &&
    (if isNegative x then -(wholePart (index x) : Int) else wholePart (index x)) == n

end SceneComponent.Binary64
