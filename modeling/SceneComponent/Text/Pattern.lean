/-!
# Parts of a text

Trimming a class of characters at both ends, finding and removing a fixed run of
characters, and splitting into lines.  Occurrences of a run are taken from left
to right and do not overlap.
-/

set_option autoImplicit false

namespace SceneComponent.Text

/-- Removes the leading and trailing characters of a class. -/
def trim (drops : Char → Bool) (chars : List Char) : List Char :=
  ((chars.dropWhile drops).reverse.dropWhile drops).reverse

def afterPattern? : (pattern text : List Char) → Option (List Char)
  | [], text => some text
  | _ :: _, [] => none
  | p :: pattern, c :: text => if p = c then afterPattern? pattern text else none

theorem afterPattern?_eq_some_iff {pattern text rest : List Char} :
    afterPattern? pattern text = some rest ↔ text = pattern ++ rest := by
  induction pattern generalizing text with
  | nil => simp [afterPattern?]
  | cons p pattern inductionHypothesis =>
      cases text with
      | nil => simp [afterPattern?]
      | cons c text =>
          by_cases same : p = c
          · simp [afterPattern?, same, inductionHypothesis]
          · simp [afterPattern?, same, Ne.symm same]

def containsPattern (pattern : List Char) : List Char → Bool
  | [] => pattern.isEmpty
  | c :: text => (afterPattern? pattern (c :: text)).isSome || containsPattern pattern text

/-- Removes the occurrences of a pattern; a pattern without characters removes
nothing.  The first argument counts characters of an occurrence still to be
passed over. -/
def removePattern (pattern : List Char) : (pending : Nat) → List Char → List Char
  | _, [] => []
  | pending + 1, _ :: text => removePattern pattern pending text
  | 0, c :: text =>
      match pattern, afterPattern? pattern (c :: text) with
      | _ :: rest, some _ => removePattern pattern rest.length text
      | _, _ => c :: removePattern pattern 0 text

def withoutPattern (pattern text : String) : String :=
  String.ofList (removePattern pattern.toList 0 text.toList)

def hasSuffix (suffix text : String) : Bool :=
  suffix.toList.isSuffixOf text.toList

/-- The text without a suffix, if it ends in it. -/
def withoutSuffix (suffix text : String) : String :=
  if hasSuffix suffix text then
    String.ofList (text.toList.take (text.toList.length - suffix.toList.length))
  else text

def contains (pattern text : String) : Bool :=
  containsPattern pattern.toList text.toList

/-- The lines of a text, which end at a line feed. -/
def lines (text : String) : List String :=
  (text.toList.splitOn '\n').map String.ofList

end SceneComponent.Text
