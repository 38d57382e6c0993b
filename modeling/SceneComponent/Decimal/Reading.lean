import SceneComponent.Decimal.Basic
import SceneComponent.Text.Characters
import SceneComponent.Text.Pattern

/-!
# Reading numbers from text

Number texts may stand between blanks and may use the decimal digits of any
script.  Single underscores are admitted between digits only.  A decimal text
becomes the nearest double; a hexadecimal text becomes an integer of any size.
-/

set_option autoImplicit false

namespace SceneComponent.Decimal

/-- The characters of a number text between its blanks, with western digits. -/
def numberCharacters (text : String) : List Char :=
  (Text.trim (fun c => Text.isBlank c && !Text.isSeparatorControl c) text.toList).map
    Text.westernDigit

/-- Drops underscores, each of which has to follow a character of a class and be
followed by one. -/
def withoutUnderscores (isDigit : Char → Bool) :
    (afterDigit : Bool) → List Char → Option (List Char)
  | _, [] => some []
  | afterDigit, '_' :: rest =>
      match rest with
      | next :: _ =>
          if afterDigit && isDigit next then withoutUnderscores isDigit false rest
          else none
      | [] => none
  | _, c :: rest => (withoutUnderscores isDigit (isDigit c) rest).map (c :: ·)

/-- Splits off the sign; the flag is true for a minus. -/
def splitSign : List Char → Bool × List Char
  | '-' :: rest => (true, rest)
  | '+' :: rest => (false, rest)
  | chars => (false, chars)

/-- The exponent after the mantissa: nothing, or a mark, a sign and digits. -/
def readExponent? : List Char → Option Int
  | [] => some 0
  | mark :: rest =>
      let (negative, digits) := splitSign rest
      if (mark = 'e' || mark = 'E') && !digits.isEmpty && digits.all Text.isAsciiDigit then
        let magnitude : Int := Nat.ofDigitChars 10 digits 0
        some (if negative then -magnitude else magnitude)
      else none

/-- An unsigned decimal: digits with at most one point among, before or after
them, and an exponent. -/
def readMagnitude? (chars : List Char) : Option Decimal :=
  let whole := chars.takeWhile Text.isAsciiDigit
  let afterWhole := chars.dropWhile Text.isAsciiDigit
  let (fraction, rest) :=
    match afterWhole with
    | '.' :: more => (more.takeWhile Text.isAsciiDigit, more.dropWhile Text.isAsciiDigit)
    | _ => ([], afterWhole)
  if whole.isEmpty && fraction.isEmpty then none
  else
    (readExponent? rest).map fun exponent =>
      ⟨Nat.ofDigitChars 10 (whole ++ fraction) 0, exponent - fraction.length⟩

/-- The double that a decimal text names; the names of infinity and of the
undefined number may be in either case. -/
def readDouble? (text : String) : Option Float := do
  let chars ← withoutUnderscores Text.isAsciiDigit false (numberCharacters text)
  let (negative, magnitude) := splitSign chars
  let name := String.ofList (magnitude.map Char.toLower)
  if name = "inf" || name = "infinity" then
    return Binary64.ofIndex negative Binary64.infiniteIndex
  else if name = "nan" then
    return Binary64.undefined
  else
    let decimal ← readMagnitude? magnitude
    return Binary64.ofIndex negative decimal.nearestIndex

def isHexDigit (c : Char) : Bool := (Text.hexValue? c).isSome

/-- The digits after an optional base mark, which one underscore may follow. -/
def withoutBaseMark : List Char → List Char
  | '0' :: mark :: rest =>
      if mark = 'x' || mark = 'X' then
        match rest with
        | '_' :: digits => digits
        | digits => digits
      else '0' :: mark :: rest
  | chars => chars

def hexMagnitude (digits : List Char) : Nat :=
  digits.foldl (fun sum c => 16 * sum + (Text.hexValue? c).getD 0) 0

def readHexadecimal? (text : String) : Option Int := do
  let (negative, body) := splitSign (numberCharacters text)
  let digits ← withoutUnderscores isHexDigit false (withoutBaseMark body)
  if digits.isEmpty || !digits.all isHexDigit then none
  else
    let magnitude : Int := hexMagnitude digits
    return if negative then -magnitude else magnitude

end SceneComponent.Decimal
