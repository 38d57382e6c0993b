import Mathlib
import SceneComponent.Component.Imports
import SceneComponent.Proofs.Names
import SceneComponent.Proofs.Text.Lines

/-!
# Reading import statements

Import statements are read back from the lines of a text: the names between the
braces and the module between the quotes.  A statement of plain names that is
written on one line is read as it was.
-/

set_option autoImplicit false

namespace SceneComponent

namespace Text

/-- The characters after the first opening mark, up to the next closing one. -/
def between (opening closing : Char) (chars : List Char) : List Char :=
  ((chars.dropWhile (· ≠ opening)).drop 1).takeWhile (· ≠ closing)

theorem drop_dropWhile_ne {mark : Char} {front : List Char} (unmarked : mark ∉ front)
    (rest : List Char) : ((front ++ mark :: rest).dropWhile (· ≠ mark)).drop 1 = rest := by
  have skipped : ∀ c ∈ front, decide (c ≠ mark) = true := by
    intro c member
    refine decide_eq_true ?_
    rintro rfl
    exact unmarked member
  rw [List.dropWhile_append_of_pos skipped, List.dropWhile_cons_of_neg (by simp), List.drop_one,
    List.tail_cons]

theorem between_eq {opening closing : Char} {front middle : List Char} (back : List Char)
    (unopened : opening ∉ front) (unclosed : closing ∉ middle) :
    between opening closing (front ++ opening :: (middle ++ closing :: back)) = middle := by
  have kept : ∀ c ∈ middle, decide (c ≠ closing) = true := by
    intro c member
    refine decide_eq_true ?_
    rintro rfl
    exact unclosed member
  rw [between, drop_dropWhile_ne unopened, List.takeWhile_append_of_pos kept,
    List.takeWhile_cons_of_neg (by simp), List.append_nil]

theorem head?_between {opening closing first : Char} {front : List Char}
    (unopened : opening ∉ front) (plain : first ≠ closing) (rest : List Char) :
    (between opening closing (front ++ opening :: first :: rest)).head? = some first := by
  rw [between, drop_dropWhile_ne unopened, List.takeWhile_cons, if_pos (decide_eq_true plain),
    List.head?_cons]

end Text

open Text Identifier

namespace ImportLine

def isImport (line : List Char) : Bool := (afterPattern? "import ".toList line).isSome

def names (line : List Char) : List String :=
  ((between '\x7b' '\x7d' line).splitOn ',').map fun piece =>
    String.ofList (trim (· == ' ') piece)

def source (line : List Char) : String := String.ofList (between '\'' '\'' line)

end ImportLine

/-- The import statements among the lines of a text. -/
def importLines (text : String) : List (List Char) :=
  (bareLines text).filter ImportLine.isImport

/-- The names that a text imports, types among them. -/
def namesImportedBy (text : String) : List String := (importLines text).flatMap ImportLine.names

def modulesImportedBy (text : String) : List String := (importLines text).map ImportLine.source

/-! ## Statements read back -/

namespace ImportStatement

/-- A statement of at least one name, all of letters, digits and underscores, from a
module that is written as it is. -/
structure IsPlain (statement : ImportStatement) : Prop where
  some : statement.names ≠ []
  names : ∀ name ∈ statement.names, ∀ c ∈ name.toList, isRest c = true
  source : ∀ c ∈ statement.source.toList, scriptEscape c = [c] ∧ c ≠ '\''

def opening (statement : ImportStatement) : List Char :=
  ("import " ++ if statement.onlyTypes then "type " else "").toList

variable {statement : ImportStatement}

theorem scriptString_plain {text : String} (plain : ∀ c ∈ text.toList, scriptEscape c = [c]) :
    (scriptString text).toList = '\'' :: (text.toList ++ ['\'']) := by
  have same : text.toList.flatMap scriptEscape = text.toList := by
    have mapped : text.toList.flatMap scriptEscape = text.toList.flatMap fun c => [c] :=
      List.flatMap_congr plain
    rw [mapped, List.flatMap_singleton']
  rw [scriptString, String.toList_ofList, scriptCharacters, same, List.cons_append]

theorem toList_text (plain : statement.IsPlain) :
    statement.text.toList = statement.opening ++ '\x7b' ::
      ((' ' :: (", ".toList.intercalate (statement.names.map String.toList) ++ [' '])) ++
        '\x7d' :: (" from ".toList ++ '\'' :: (statement.source.toList ++ '\'' :: []))) := by
  have source := scriptString_plain fun c member => (plain.source c member).1
  simp [text, opening, source, String.toList_intercalate]

theorem trim_splitOn_intercalate {words : List (List Char)} (some : words ≠ [])
    (plain : ∀ word ∈ words, ∀ c ∈ word, isRest c = true) :
    ((' ' :: (", ".toList.intercalate words ++ [' '])).splitOn ',').map (trim (· == ' ')) =
      words := by
  have separator : ", ".toList = [',', ' '] := rfl
  have blank : ∀ c ∈ [' '], (c == ' ') = true := by simp
  have kept : ∀ word ∈ words, (∀ c ∈ word, (c == ' ') = false) ∧ ',' ∉ word := by
    intro word member
    refine ⟨fun c inWord => ?_, fun inWord => absurd (plain word member _ inWord) (by decide)⟩
    refine beq_eq_false_iff_ne.mpr ?_
    rintro rfl
    exact absurd (plain word member _ inWord) (by decide)
  clear plain
  rw [separator]
  induction words with
  | nil => exact absurd rfl some
  | cons word rest inductionHypothesis =>
      obtain ⟨⟨notBlank, noComma⟩, restKept⟩ := List.forall_mem_cons.mp kept
      cases rest with
      | nil =>
          have single : ',' ∉ ' ' :: ([',', ' '].intercalate [word] ++ [' ']) := by
            simpa using noComma
          rw [List.splitOn_eq_singleton single, List.intercalate_singleton, List.map_singleton]
          exact congrArg ([·]) (trim_padded blank blank notBlank)
      | cons next others =>
          have pieces : ' ' :: ([',', ' '].intercalate (word :: next :: others) ++ [' ']) =
              (' ' :: word) ++ ',' :: ' ' :: ([',', ' '].intercalate (next :: others) ++ [' ']) := by
            simp
          have noCommaPadded : ',' ∉ ' ' :: word := by simpa using noComma
          rw [pieces, List.splitOn_append_cons_self_of_not_mem noCommaPadded, List.map_cons,
            inductionHypothesis (List.cons_ne_nil _ _) restKept]
          have trimmed : trim (· == ' ') ([' '] ++ (word ++ [])) = word :=
            trim_padded blank (by simp) notBlank
          rw [List.append_nil] at trimmed
          exact congrArg (· :: next :: others) trimmed

theorem isRest_of_mem_names (plain : statement.IsPlain) {c : Char}
    (member : c ∈ ", ".toList.intercalate (statement.names.map String.toList)) :
    c = ',' ∨ c = ' ' ∨ isRest c = true := by
  rcases mem_intercalate member with inSeparator | ⟨word, inWords, inWord⟩
  · have separator : ", ".toList = [',', ' '] := rfl
    rw [separator, List.mem_cons, List.mem_singleton] at inSeparator
    rcases inSeparator with comma | blank
    · exact .inl comma
    · exact .inr (.inl blank)
  · obtain ⟨name, inNames, rfl⟩ := List.mem_map.mp inWords
    exact .inr (.inr (plain.names name inNames c inWord))

/-- A character of no identifier that is neither comma nor blank is not among names. -/
theorem not_mem_names (plain : statement.IsPlain) {c : Char} (excluded : isRest c = false)
    (notComma : c ≠ ',') (notBlank : c ≠ ' ') :
    c ∉ ' ' :: (", ".toList.intercalate (statement.names.map String.toList) ++ [' ']) := by
  intro member
  simp only [List.mem_cons, List.mem_append, List.not_mem_nil, or_false] at member
  rcases member with blank | inNames | blank
  · exact notBlank blank
  · rcases isRest_of_mem_names plain inNames with comma | blank | rest
    · exact notComma comma
    · exact notBlank blank
    · rw [rest] at excluded
      cases excluded
  · exact notBlank blank

theorem isImport_text (plain : statement.IsPlain) :
    ImportLine.isImport statement.text.toList = true := by
  rw [toList_text plain, opening, String.toList_append, List.append_assoc, ImportLine.isImport,
    Option.isSome_iff_exists]
  exact ⟨_, afterPattern?_eq_some_iff.mpr rfl⟩

theorem names_text (plain : statement.IsPlain) :
    ImportLine.names statement.text.toList = statement.names := by
  have unopened : '\x7b' ∉ statement.opening := by
    unfold opening
    split <;> decide
  have unclosed := not_mem_names plain (by decide : isRest '\x7d' = false) (by decide) (by decide)
  have words : ∀ word ∈ statement.names.map String.toList, ∀ c ∈ word, isRest c = true := by
    intro word member
    obtain ⟨name, inNames, rfl⟩ := List.mem_map.mp member
    exact plain.names name inNames
  have someWords : statement.names.map String.toList ≠ [] := by
    simpa using plain.some
  have pieces := congrArg (List.map String.ofList) (trim_splitOn_intercalate someWords words)
  unfold ImportLine.names
  rw [toList_text plain, between_eq _ unopened unclosed]
  rw [List.map_map, List.map_map] at pieces
  refine pieces.trans ?_
  conv_rhs => rw [← List.map_id statement.names]
  exact List.map_congr_left fun name _ => String.ofList_toList

theorem source_text (plain : statement.IsPlain) :
    ImportLine.source statement.text.toList = statement.source := by
  have openingPlain : '\'' ∉ statement.opening := by
    unfold opening
    split <;> decide
  have namesPlain := not_mem_names plain (by decide : isRest '\'' = false) (by decide) (by decide)
  have fromPlain : '\'' ∉ " from ".toList := by decide
  have unopened : '\'' ∉ statement.opening ++ '\x7b' ::
      ((' ' :: (", ".toList.intercalate (statement.names.map String.toList) ++ [' '])) ++
        '\x7d' :: " from ".toList) := by
    simp only [List.mem_append, List.mem_cons, not_or] at namesPlain ⊢
    exact ⟨openingPlain, by decide, namesPlain, by decide, fromPlain⟩
  have unclosed : '\'' ∉ statement.source.toList := fun member =>
    (plain.source _ member).2 rfl
  have whole : statement.text.toList = (statement.opening ++ '\x7b' ::
      ((' ' :: (", ".toList.intercalate (statement.names.map String.toList) ++ [' '])) ++
        '\x7d' :: " from ".toList)) ++ '\'' :: (statement.source.toList ++ '\'' :: []) := by
    rw [toList_text plain]
    simp only [List.append_assoc, List.cons_append]
  unfold ImportLine.source
  rw [whole, between_eq _ unopened unclosed, String.ofList_toList]

/-- A character of no name, unless it is one of the marks of statements, does not stand in a
statement but for its module. -/
theorem not_mem_text (plain : statement.IsPlain) {c : Char} (excluded : isRest c = false)
    (notMark : c ∉ [' ', ',', '\x7b', '\x7d', '\'']) (notSource : c ∉ statement.source.toList) :
    c ∉ statement.text.toList := by
  simp only [List.mem_cons, List.not_mem_nil, or_false, not_or] at notMark
  obtain ⟨notBlank, notComma, notOpened, notClosed, notQuote⟩ := notMark
  have notWords : ∀ words : List Char, (words.all fun d => isRest d || d = ' ') = true →
      c ∉ words := by
    intro words each member
    have here := List.all_eq_true.mp each c member
    simp [excluded, notBlank] at here
  have opening : c ∉ statement.opening := by
    unfold opening
    cases statement.onlyTypes <;> exact notWords _ (by decide)
  have joining : c ∉ " from ".toList := notWords _ (by decide)
  have names := not_mem_names plain excluded notComma notBlank
  rw [toList_text plain]
  simp only [List.mem_append, List.mem_cons, not_or] at names ⊢
  exact ⟨opening, notOpened, names, notClosed, joining, notQuote, notSource, notQuote,
    List.not_mem_nil⟩

theorem feed_not_mem_text (plain : statement.IsPlain) : '\n' ∉ statement.text.toList := by
  refine not_mem_text plain (by decide) (by decide) fun member => ?_
  have escaped := (plain.source _ member).1
  exact absurd escaped (by decide)

end ImportStatement

end SceneComponent
