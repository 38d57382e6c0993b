import SceneComponent.Text.Characters
import SceneComponent.Value.Array

/-!
# Colours

A colour is three channels between zero and one.  It is read from a packed
integer, from a hexadecimal text or from three numbers, and written with two
hexadecimal digits a channel.
-/

set_option autoImplicit false

namespace SceneComponent.Color

def white : Value := .triple 1.0 1.0 1.0

def black : Value := .triple 0.0 0.0 0.0

/-- The byte of a packed colour that starts at a bit, as a channel. -/
def channelAt (packed : Int) (bit : Nat) : Float :=
  (Nat.toFloat ((packed >>> bit) % 256).toNat) / 255.0

def ofPacked (packed : Int) : Value :=
  .triple (channelAt packed 16) (channelAt packed 8) (channelAt packed 0)

/-- A colour text without blanks, hash signs and one base mark before its
digits. -/
def digitsText (content : String) : String :=
  match (Text.trim Text.isBlank content.toList).dropWhile (· == '#') with
  | '0' :: mark :: rest =>
      String.ofList (if mark = 'x' || mark = 'X' then rest else '0' :: mark :: rest)
  | chars => String.ofList chars

def ofValue (value : Value) (standard : Value := white) : Except Failure Value :=
  match value with
  | .null => .ok standard
  | .bool _ => .error (.malformedScene (.invalidColor value))
  | .int packed => .ok (ofPacked packed)
  | .text content =>
      match Decimal.readHexadecimal? (digitsText content) with
      | some packed => .ok (ofPacked packed)
      | none => .error (.malformedScene (.invalidColor value))
  | _ => value.threeNumbers "color"

def limitedToUnit (channel : Float) : Float :=
  if Binary64.isNegative channel then 0.0
  else if Binary64.index 1.0 < Binary64.index channel then 1.0
  else channel

/-- A channel limited to the unit interval and scaled to a byte, halves going
up. -/
def channelByte (channel : Float) : Except Failure Nat :=
  if Binary64.isNaN channel then .error .meaningless
  else
    .ok (limitedToUnit channel * 255.0 + 0.5).toUInt8.toNat

def channelDigits : List Float → Except Failure (List Char)
  | [] => .ok []
  | channel :: rest => do
      let byte ← channelByte channel
      let others ← channelDigits rest
      return Text.fixedHex 2 byte ++ others

/-- The hexadecimal digits of the first three channels. -/
def toHex (color : Value) : Except Failure String := do
  let array ← NumberArray.ofValue color
  match array.shape with
  | [] => .error .missingElement
  | [_] => return String.ofList (← channelDigits (array.numbers.take 3))
  | length :: _ => if length = 0 then return "" else .error .unsuitableKind

end SceneComponent.Color
