import Mathlib
import SceneComponent.Proofs.Names

/-!
# Capitals of component names

The first character of a file's name is written in capitals before anything is dropped from
the name.  Where no letter or digit of ASCII comes of it, the character is dropped itself, and
what opens the component is the first letter or digit behind it, as it stands.  So a component
is named in capitals exactly unless that one is a small letter; reserved words and native tags,
which open with small letters, are then out of its way.
-/

set_option autoImplicit false

namespace SceneComponent.Identifier

open Text

/-- Letters and digits of ASCII that open with a capital letter, or with a digit behind an
underscore. -/
def isPascal : List Char → Bool
  | '_' :: first :: rest => isAsciiDigit first && rest.all isAsciiAlphanumeric
  | first :: rest => first.isUpper && rest.all isAsciiAlphanumeric
  | [] => false

/-- Words that a script keeps for itself. -/
def keywords : List String := [
  "arguments", "await", "break", "case", "catch", "class", "const", "continue",
  "debugger", "default", "delete", "do", "else", "enum", "eval", "export", "extends", "false",
  "finally", "for", "function", "if", "implements", "import", "in", "instanceof", "interface",
  "let", "new", "null", "package", "private", "protected", "public", "return", "static", "super",
  "switch", "this", "throw", "true", "try", "typeof", "var", "void", "while", "with",
  "yield"]

/-- Tags that a template does not look up among the components. -/
def nativeTags : List String := [
  "a", "abbr", "address", "area", "article", "aside", "audio", "b", "base", "bdi", "bdo",
  "blockquote", "body", "br", "button", "canvas", "caption", "cite", "code", "col", "colgroup",
  "data", "datalist", "dd", "del", "details", "dfn", "dialog", "div", "dl", "dt", "em", "embed",
  "fieldset", "figcaption", "figure", "footer", "form", "h1", "h2", "h3", "h4", "h5", "h6",
  "head", "header", "hgroup", "hr", "html", "i", "iframe", "img", "input", "ins", "kbd", "label",
  "legend", "li", "link", "main", "map", "mark", "menu", "meta", "meter", "nav", "noscript",
  "object", "ol", "optgroup", "option", "output", "p", "param", "picture", "pre", "progress",
  "q", "rp", "rt", "ruby", "s", "samp", "script", "search", "section", "select", "slot", "small",
  "source", "span", "strong", "style", "sub", "summary", "sup", "svg", "table", "tbody", "td",
  "template", "textarea", "tfoot", "th", "thead", "time", "title", "tr", "track", "u", "ul",
  "var", "video", "wbr"]

/-- A name that a script can bind and a template can open as the tag of a component. -/
structure IsComponentName (name : String) : Prop where
  spelled : spells name.toList = true
  pascal : isPascal name.toList = true
  free : name ∉ keywords
  foreign : name ∉ nativeTags

/-- Whether nothing comes of the first character in capitals, and the first letter or digit
behind it is a small letter. -/
def opensSmall : List Char → Bool
  | [] => false
  | first :: rest => (capitals first).isEmpty && (rest.find? isAsciiAlphanumeric).any Char.isLower

/-! ## Capitals -/

theorem isLower_of_isDigit {c : Char} (digit : isAsciiDigit c = true) : c.isLower = false := by
  rw [isDigit_iff] at digit
  rw [Bool.eq_false_iff, ne_eq, isLower_iff]
  omega

theorem isLower_of_isUpper {c : Char} (upper : c.isUpper = true) : c.isLower = false := by
  rw [isUpper_iff] at upper
  rw [Bool.eq_false_iff, ne_eq, isLower_iff]
  omega

theorem isUpper_eq_not_isLower {c : Char} (letter : isAsciiLetter c = true) :
    c.isUpper = !c.isLower := by
  rcases isLetter_iff.mp letter with upper | lower
  · rw [upper, isLower_of_isUpper upper, Bool.not_false]
  · have notUpper : c.isUpper = false := by
      rw [Bool.eq_false_iff]
      intro upper
      rw [isLower_of_isUpper upper] at lower
      cases lower
    rw [notUpper, lower, Bool.not_true]

/-- Nothing that a character is written as in capitals is a small letter. -/
theorem isLower_of_mem_capitals {c given : Char} (member : c ∈ capitals given) :
    c.isLower = false := by
  have listed : ∀ entry ∈ expandingCapitals, (entry.2.all fun c => !c.isLower) = true := by
    decide
  have plain : ∀ c, isAsciiAlphanumeric c = true → (!c.toUpper.isLower) = true := by
    intro c _
    rw [Char.isLower_toUpper_eq_false, Bool.not_false]
  have capital : (!c.isLower) = true := forall_mem_capitals plain listed given c member
  simpa using capital

/-- Guarded letters and digits are named in capitals unless they open with a small letter. -/
theorem isPascal_guardDigit {first : Char} {rest : List Char}
    (alphanumeric : ∀ c ∈ first :: rest, isAsciiAlphanumeric c = true) :
    isPascal (guardDigit (first :: rest)) = !first.isLower := by
  obtain ⟨leading, others⟩ := List.forall_mem_cons.mp alphanumeric
  have all := List.all_eq_true.mpr others
  rw [guardDigit]
  split
  · next digit => rw [isPascal, digit, all, isLower_of_isDigit digit]; rfl
  · next notDigit =>
      have letter : isAsciiLetter first = true := by
        simpa [isAsciiAlphanumeric, notDigit] using leading
      rw [isPascal, all, Bool.and_true, isUpper_eq_not_isLower letter]
      rintro digit more rfl -
      exact absurd leading (by decide)

theorem opensSmall_eq (base : List Char) :
    opensSmall base = (capitalized base).head?.any Char.isLower := by
  cases base with
  | nil => rfl
  | cons first rest =>
      rw [opensSmall, capitalized]
      -- capitals are never small, so only a character that leaves nothing lets one come first
      cases written : capitals first with
      | nil => rw [List.nil_append, List.head?_filter]; rfl
      | cons c others =>
          have capital : c.isLower = false :=
            isLower_of_mem_capitals (written ▸ List.mem_cons_self .. : c ∈ capitals first)
          simp [capital]

/-- A component is named in capitals exactly unless its base name opens small. -/
theorem isPascal_componentName (fileName : String) :
    isPascal (componentName fileName).toList = !opensSmall (baseName fileName.toList) := by
  rw [opensSmall_eq, componentName]
  cases name : capitalized (baseName fileName.toList) with
  | nil => rfl
  | cons first rest =>
      rw [if_neg (by simp), String.toList_ofList, List.head?_cons, Option.any_some]
      exact isPascal_guardDigit fun c member => isAlphanumeric_of_mem_capitalized (name ▸ member)

/-! ## Words and tags of others -/

theorem isLower_of_isPascal {first : Char} {rest : List Char}
    (pascal : isPascal (first :: rest) = true) : first.isLower = false := by
  unfold isPascal at pascal
  split at pascal
  · next opened =>
      rw [(List.cons.inj opened).1]
      rfl
  · next opened =>
      rw [(List.cons.inj opened).1]
      exact isLower_of_isUpper (Bool.and_eq_true_iff.mp pascal).1
  · cases pascal

/-- A name in capitals is on no list of words that open with small letters. -/
theorem not_mem_of_isPascal {name : String} {words : List String}
    (pascal : isPascal name.toList = true)
    (small : ∀ word ∈ words, word.toList.head?.any Char.isLower = true) : name ∉ words := by
  intro member
  have lower := small name member
  cases chars : name.toList with
  | nil =>
      rw [chars] at lower
      cases lower
  | cons first rest =>
      rw [chars] at lower pascal
      rw [List.head?_cons, Option.any_some, isLower_of_isPascal pascal] at lower
      cases lower

theorem isComponentName_of_isPascal {name : String} (spelled : spells name.toList = true)
    (pascal : isPascal name.toList = true) : IsComponentName name where
  spelled := spelled
  pascal := pascal
  free := not_mem_of_isPascal pascal (by decide +kernel)
  foreign := not_mem_of_isPascal pascal (by decide +kernel)

/-- The component of a file is named in capitals, and so neither like a reserved word nor like a
native tag, exactly unless the base name of the file opens small. -/
theorem isComponentName_iff (fileName : String) :
    IsComponentName (componentName fileName) ↔
      opensSmall (baseName fileName.toList) = false := by
  rw [← Bool.not_eq_true', ← isPascal_componentName]
  exact ⟨fun named => named.pascal,
    isComponentName_of_isPascal (spells_componentName fileName)⟩

/-- An underscore is dropped after it was written in capitals. -/
theorem underscored_class_small :
    componentName "_class.glb" = "class" ∧ "class" ∈ keywords ∧
      ¬ IsComponentName (componentName "_class.glb") := by
  refine ⟨by decide, by decide, fun named => ?_⟩
  exact absurd named.pascal (by decide)

end SceneComponent.Identifier
