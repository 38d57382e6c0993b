import SceneComponent.Text.Characters
import SceneComponent.Text.Printable

/-!
# Escaped texts

A text stands between quotes in the template, in the script and in messages.  Each has its own
characters that cannot stand for themselves there.
-/

set_option autoImplicit false

namespace SceneComponent.Text

/-! ## Attribute values of the template

A text between double quotes: ampersands, double quotes and less-than signs
become entities, all other characters stand for themselves. -/

def attributeEscape (c : Char) : List Char :=
  if c = '&' then ['&', 'a', 'm', 'p', ';']
  else if c = '"' then ['&', 'q', 'u', 'o', 't', ';']
  else if c = '<' then ['&', 'l', 't', ';']
  else [c]

def attributeText (text : String) : String :=
  String.ofList (text.toList.flatMap attributeEscape)

/-! ## String literals of the script

A text as a single-quoted literal: backslashes, single quotes and line feeds
are escaped, all other characters stand for themselves. -/

def scriptEscape (c : Char) : List Char :=
  if c = '\\' then ['\\', '\\']
  else if c = '\'' then ['\\', '\'']
  else if c = '\n' then ['\\', 'n']
  else [c]

def scriptCharacters (chars : List Char) : List Char :=
  '\'' :: chars.flatMap scriptEscape ++ ['\'']

def scriptString (text : String) : String :=
  String.ofList (scriptCharacters text.toList)

/-! ## Quoted texts of messages

The quote, backslashes and unprintable characters are escaped.  The quote is
single, or double when the text holds single quotes only. -/

/-- The escape of a character by its code point, in the shortest of three
widths. -/
def codeEscape (c : Char) : List Char :=
  if c.toNat < 0x100 then '\\' :: 'x' :: fixedHex 2 c.toNat
  else if c.toNat < 0x10000 then '\\' :: 'u' :: fixedHex 4 c.toNat
  else '\\' :: 'U' :: fixedHex 8 c.toNat

def escapeFor (quote c : Char) : List Char :=
  if c = quote || c = '\\' then ['\\', c]
  else if c = '\t' then ['\\', 't']
  else if c = '\n' then ['\\', 'n']
  else if c = '\r' then ['\\', 'r']
  else if isPrintable c then [c]
  else codeEscape c

def quoteFor (chars : List Char) : Char :=
  if chars.contains '\'' && !chars.contains '"' then '"' else '\''

def quoted (text : String) : String :=
  let quote := quoteFor text.toList
  String.ofList (quote :: text.toList.flatMap (escapeFor quote) ++ [quote])

/-- The characters of ASCII that are not escaped between single quotes. -/
def isPlainCharacter (c : Char) : Bool := ' ' ≤ c && c ≤ '~' && c != '\'' && c != '\\'

def isPlain (text : String) : Bool := text.toList.all isPlainCharacter

theorem escapeFor_of_isPlainCharacter {c : Char} (plain : isPlainCharacter c = true) :
    escapeFor '\'' c = [c] := by
  simp only [isPlainCharacter, Bool.and_eq_true, decide_eq_true_eq, bne_iff_ne] at plain
  obtain ⟨⟨⟨first, last⟩, quote⟩, backslash⟩ := plain
  have apart : ∀ other : Char, other < ' ' → c ≠ other := by
    rintro other below rfl
    exact absurd first (Char.not_le.mpr below)
  have tab := apart '\t' (by decide)
  have feed := apart '\n' (by decide)
  have carriage := apart '\r' (by decide)
  simp [escapeFor, quote, backslash, tab, feed, carriage, isPrintable_of_ascii first last]

theorem quoted_of_isPlain {text : String} (plain : isPlain text = true) :
    quoted text = "'" ++ text ++ "'" := by
  have each := List.all_eq_true.mp plain
  have escaped : text.toList.flatMap (escapeFor '\'') = text.toList := by
    rw [List.flatMap_def, List.map_congr_left fun c member =>
      escapeFor_of_isPlainCharacter (each c member), ← List.flatMap_def, List.flatMap_singleton']
  have single : quoteFor text.toList = '\'' := by
    rw [quoteFor, if_neg]
    intro both
    rw [Bool.and_eq_true, List.contains_iff_mem] at both
    exact absurd (each _ both.1) (by decide)
  rw [quoted, single, escaped]
  apply String.toList_inj.mp
  simp

end SceneComponent.Text
