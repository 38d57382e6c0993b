/-!
# Classes of characters

Blanks, the letters and digits of ASCII, the decimal digits of all scripts, and hexadecimal
digits with the numbers that are written in them.
-/

set_option autoImplicit false

namespace SceneComponent.Text

/-! ## Blanks

White space in the Unicode sense, with the four information separators. -/

/-- The information separators, which number texts do not admit as blanks. -/
def isSeparatorControl (c : Char) : Bool := 0x1c ≤ c.toNat && c.toNat ≤ 0x1f

def isBlank (c : Char) : Bool :=
  (0x09 ≤ c.toNat && c.toNat ≤ 0x0d) || isSeparatorControl c || c.toNat = 0x20 ||
  c.toNat = 0x85 || c.toNat = 0xa0 || c.toNat = 0x1680 ||
  (0x2000 ≤ c.toNat && c.toNat ≤ 0x200a) || c.toNat = 0x2028 || c.toNat = 0x2029 ||
  c.toNat = 0x202f || c.toNat = 0x205f || c.toNat = 0x3000

/-! ## Capital letters

What is left of the upper-case form of a character when only the letters and
digits of ASCII are kept.  Most characters outside ASCII leave nothing; a
ligature or a letter with a combining mark may leave one or more letters. -/

def isAsciiLetter (c : Char) : Bool :=
  ('a' ≤ c && c ≤ 'z') || ('A' ≤ c && c ≤ 'Z')

def isAsciiDigit (c : Char) : Bool := '0' ≤ c && c ≤ '9'

def isAsciiAlphanumeric (c : Char) : Bool := isAsciiLetter c || isAsciiDigit c

/-- The characters outside ASCII whose upper-case form holds letters of ASCII,
with these letters. -/
def expandingCapitals : List (Char × List Char) := [
  ('ß', ['S', 'S']), ('ı', ['I']), ('ŉ', ['N']), ('ſ', ['S']), ('ǰ', ['J']),
  ('ẖ', ['H']), ('ẗ', ['T']), ('ẘ', ['W']), ('ẙ', ['Y']), ('ẚ', ['A']),
  ('ﬀ', ['F', 'F']), ('ﬁ', ['F', 'I']), ('ﬂ', ['F', 'L']), ('ﬃ', ['F', 'F', 'I']),
  ('ﬄ', ['F', 'F', 'L']), ('ﬅ', ['S', 'T']), ('ﬆ', ['S', 'T'])]

/-- The ASCII letters and digits of the upper-case form of a character. -/
def capitals (c : Char) : List Char :=
  if isAsciiAlphanumeric c then [c.toUpper]
  else (expandingCapitals.lookup c).getD []

/-! ## Decimal digits

Every script writes its ten decimal digits at consecutive code points, so a
table of the zeros gives the value of every digit. -/

/-- The code points of the digit zero of the scripts. -/
def digitZeros : List Nat := [
  0x30, 0x660, 0x6f0, 0x7c0, 0x966, 0x9e6, 0xa66, 0xae6, 0xb66, 0xbe6, 0xc66, 0xce6,
  0xd66, 0xde6, 0xe50, 0xed0, 0xf20, 0x1040, 0x1090, 0x17e0, 0x1810, 0x1946, 0x19d0,
  0x1a80, 0x1a90, 0x1b50, 0x1bb0, 0x1c40, 0x1c50, 0xa620, 0xa8d0, 0xa900, 0xa9d0,
  0xa9f0, 0xaa50, 0xabf0, 0xff10, 0x104a0, 0x10d30, 0x11066, 0x110f0, 0x11136,
  0x111d0, 0x112f0, 0x11450, 0x114d0, 0x11650, 0x116c0, 0x11730, 0x118e0, 0x11950,
  0x11c50, 0x11d50, 0x11da0, 0x16a60, 0x16ac0, 0x16b50, 0x1d7ce, 0x1d7d8, 0x1d7e2,
  0x1d7ec, 0x1d7f6, 0x1e140, 0x1e2f0, 0x1e950, 0x1fbf0]

/-- The value of a decimal digit of any script. -/
def digitValue? (c : Char) : Option Nat :=
  (digitZeros.find? fun first => first ≤ c.toNat && c.toNat < first + 10).map
    fun first => c.toNat - first

/-- The digit with its value among `0` to `9`; any other character is kept. -/
def westernDigit (c : Char) : Char :=
  match digitValue? c with
  | some value => Nat.digitChar value
  | none => c

/-! ## Hexadecimal digits

Numbers are written with a fixed count of lower-case digits; a digit is read in
either case. -/

/-- The last `width` hexadecimal digits of a number. -/
def fixedHex : (width : Nat) → Nat → List Char
  | 0, _ => []
  | width + 1, n => fixedHex width (n / 16) ++ [Nat.digitChar (n % 16)]

theorem fixedHex_length (width n : Nat) : (fixedHex width n).length = width := by
  induction width generalizing n with
  | zero => rfl
  | succ width inductionHypothesis => simp [fixedHex, inductionHypothesis]

def hexValue? (c : Char) : Option Nat :=
  if '0' ≤ c && c ≤ '9' then some (c.toNat - '0'.toNat)
  else if 'a' ≤ c && c ≤ 'f' then some (c.toNat - 'a'.toNat + 10)
  else if 'A' ≤ c && c ≤ 'F' then some (c.toNat - 'A'.toNat + 10)
  else none

end SceneComponent.Text
