import SceneComponent.Decimal.Shortest

/-!
# The text of a double

A finite double is written with its shortest digits: positionally, with at least
one digit on either side of the point, while its first digit stands between
`10 ^ -4` and `10 ^ 15`, and with an exponent of at least two digits otherwise.
-/

set_option autoImplicit false

namespace SceneComponent.Decimal

def isPositional (leading : Int) : Bool := -4 ≤ leading && leading < 16

/-- The digits with a point before the position `point`, counted from the first
digit; zeros fill the gap on either side. -/
def positionalText (digits : List Char) (point : Int) : List Char :=
  if point ≤ 0 then '0' :: '.' :: List.replicate (-point).toNat '0' ++ digits
  else if (digits.length : Int) ≤ point then
    digits ++ List.replicate (point.toNat - digits.length) '0' ++ ['.', '0']
  else digits.take point.toNat ++ '.' :: digits.drop point.toNat

def exponentText (exponent : Int) : List Char :=
  let digits := Decimal.digits exponent.natAbs
  (if exponent < 0 then '-' else '+') ::
    List.replicate (2 - digits.length) '0' ++ digits

def scientificText (digits : List Char) (leading : Int) : List Char :=
  let fraction := if digits.length ≤ 1 then [] else '.' :: digits.drop 1
  digits.take 1 ++ fraction ++ 'e' :: exponentText leading

def text (decimal : Decimal) : List Char :=
  let digits := Decimal.digits decimal.coefficient
  let point : Int := digits.length + decimal.exponent
  if isPositional (point - 1) then positionalText digits point
  else scientificText digits (point - 1)

end SceneComponent.Decimal

namespace SceneComponent

def doubleText (x : Float) : String :=
  if Binary64.isNaN x then "nan"
  else
    let magnitude :=
      if Binary64.isFinite x then (Decimal.shortest (Binary64.index x)).text
      else ['i', 'n', 'f']
    String.ofList (if Binary64.isNegative x then '-' :: magnitude else magnitude)

end SceneComponent
