import Mathlib
import SceneComponent.Proofs.Names

/-!
# Settled names

An identifier is settled when no underscore closes it and none opens it but one that guards a
digit.  Whatever a name is resolved to is settled, and a settled name is resolved to itself, so
that resolving is a projection.  The fallback and the ordinal are looked at exactly when a name
holds no letter or digit of ASCII, and then the ordinal tells the results apart.
-/

set_option autoImplicit false

namespace SceneComponent.Identifier

open Text

structure IsSettled (chars : List Char) : Prop where
  spelled : spells chars = true
  closed : chars.getLast? ≠ some '_'
  guarded : ∀ rest, chars = '_' :: rest →
    ∃ digit, rest.head? = some digit ∧ isAsciiDigit digit = true

theorem isAlphanumeric_ne_underscore {c : Char} (alphanumeric : isAsciiAlphanumeric c = true) :
    c ≠ '_' :=
  Text.ne_of_holds alphanumeric (by decide)

theorem isDigit_of_isLetter {c : Char} (letter : isAsciiLetter c = true) :
    isAsciiDigit c = false := by
  rw [isLetter_iff, isUpper_iff, isLower_iff] at letter
  rw [Bool.eq_false_iff, ne_eq, isDigit_iff]
  omega

/-! ## Cleaned names -/

/-- What a character is replaced by. -/
def substitute (c : Char) : Char := if isAsciiAlphanumeric c then c else '_'

theorem clean_eq (chars : List Char) :
    clean chars = guardDigit (trim (· == '_') (chars.map substitute)) := rfl

theorem substitute_eq_underscore {c : Char} :
    substitute c = '_' ↔ isAsciiAlphanumeric c = false := by
  unfold substitute
  split
  · next alphanumeric => simp [isAlphanumeric_ne_underscore alphanumeric, alphanumeric]
  · next other => simpa using other

theorem substitute_eq_self {c : Char} (rest : isRest c = true) : substitute c = c := by
  unfold substitute
  split
  · rfl
  · next other =>
      have underscore : c = '_' := by simpa [isRest, other] using rest
      exact underscore.symm

theorem guardDigit_eq_nil_iff {chars : List Char} : guardDigit chars = [] ↔ chars = [] := by
  cases chars with
  | nil => simp [guardDigit]
  | cons first rest =>
      rw [guardDigit]
      split <;> simp

theorem getLast?_guardDigit (chars : List Char) :
    (guardDigit chars).getLast? = chars.getLast? := by
  cases chars with
  | nil => rfl
  | cons first rest =>
      rw [guardDigit]
      split
      · exact List.getLast?_cons_cons ..
      · rfl

/-- Nothing is left of a name exactly when it holds no letter or digit of ASCII. -/
theorem clean_eq_nil_iff {chars : List Char} :
    clean chars = [] ↔ ∀ c ∈ chars, isAsciiAlphanumeric c = false := by
  rw [clean_eq, guardDigit_eq_nil_iff, trim_eq_nil_iff, List.forall_mem_map]
  simp only [beq_iff_eq, substitute_eq_underscore]

theorem isSettled_clean {chars : List Char} (left : clean chars ≠ []) :
    IsSettled (clean chars) where
  spelled := spells_clean left
  closed := by
    rw [clean_eq, getLast?_guardDigit]
    intro underscore
    exact absurd (getLast?_trim underscore) (by decide)
  guarded := by
    intro rest opened
    rw [clean_eq] at opened
    cases trimmed : trim (· == '_') (chars.map substitute) with
    | nil =>
        rw [trimmed] at opened
        cases opened
    | cons first others =>
        rw [trimmed, guardDigit] at opened
        split at opened
        · next digit =>
            rw [← (List.cons.inj opened).2]
            exact ⟨first, rfl, digit⟩
        · have kept := head?_trim (by rw [trimmed]; rfl : (trim (· == '_')
            (chars.map substitute)).head? = some first)
          rw [(List.cons.inj opened).1] at kept
          cases kept

/-- A settled name is cleaned to itself. -/
theorem clean_eq_self {chars : List Char} (settled : IsSettled chars) : clean chars = chars := by
  have same : chars.map substitute = chars := by
    conv_rhs => rw [← List.map_id chars]
    exact List.map_congr_left fun c member =>
      substitute_eq_self (isRest_of_spells settled.spelled c member)
  rw [clean_eq, same]
  cases chars with
  | nil => cases settled.spelled
  | cons first rest =>
      have closing : ∀ c, (first :: rest).getLast? = some c → (c == '_') = false := by
        intro c last
        refine beq_eq_false_iff_ne.mpr ?_
        rintro rfl
        exact settled.closed last
      -- an underscore in front is trimmed and put back before the digit it guards
      by_cases underscore : first = '_'
      · subst underscore
        obtain ⟨digit, leads, isDigit⟩ := settled.guarded rest rfl
        obtain ⟨others, rfl⟩ := List.head?_eq_some_iff.mp leads
        have opening : (digit == '_') = false :=
          beq_eq_false_iff_ne.mpr (Text.ne_of_holds isDigit (by decide))
        have trimmed : trim (· == '_') (['_'] ++ digit :: others) = digit :: others :=
          trim_cut (by simp) (by simpa using opening) fun c last =>
            closing c (by rwa [List.getLast?_cons_cons])
        rw [List.singleton_append] at trimmed
        rw [trimmed, guardDigit, if_pos isDigit]
      · have trimmed : trim (· == '_') ([] ++ first :: rest) = first :: rest :=
          trim_cut (List.forall_mem_nil _) (by simpa using underscore) closing
        have letter : isAsciiLetter first = true := by
          have start := settled.spelled
          rw [spells, Bool.and_eq_true] at start
          simpa [isStart, underscore] using start.1
        rw [List.nil_append] at trimmed
        rw [trimmed, guardDigit, if_neg (by rw [isDigit_of_isLetter letter]; decide)]

/-! ## Fallbacks and ordinals -/

theorem isSettled_cleanFallback (fallback : String) :
    IsSettled (cleanFallback fallback).toList := by
  unfold cleanFallback
  dsimp only
  split
  · exact ⟨rfl, by decide, fun rest opened => by cases opened⟩
  · next left =>
      rw [String.toList_ofList]
      exact isSettled_clean (by simpa using left)

theorem IsSettled.append {front back : List Char} (settled : IsSettled front)
    (rest : ∀ c ∈ back, isRest c = true) (closed : back.getLast? ≠ some '_') :
    IsSettled (front ++ back) where
  spelled := spells_append settled.spelled rest
  closed := by
    cases back with
    | nil => rw [List.append_nil]; exact settled.closed
    | cons c others => rwa [List.getLast?_append_of_ne_nil _ (List.cons_ne_nil _ _)]
  guarded := by
    intro others opened
    cases front with
    | nil => cases settled.spelled
    | cons first given =>
        obtain ⟨rfl, rfl⟩ := List.cons.inj opened
        obtain ⟨digit, leads, isDigit⟩ := settled.guarded given rfl
        refine ⟨digit, ?_, isDigit⟩
        obtain ⟨more, rfl⟩ := List.head?_eq_some_iff.mp leads
        rfl

/-- The ordinal of a name, which may be left open. -/
def ordinalValue (ordinal : Option Nat) : Value := ordinal.elim .null fun n => .int n

def suffixOf (ordinal : Value) : String :=
  if ordinal.isNull then "" else "_" ++ ordinal.plainText

theorem toList_suffixOf (n : Nat) :
    (suffixOf (ordinalValue (some n))).toList = '_' :: (toString n).toList := by
  change ("_" ++ Value.intText n).toList = _
  rw [Value.intText_natCast, String.toList_append]
  rfl

theorem isRest_of_mem_suffixOf (ordinal : Option Nat) :
    ∀ c ∈ (suffixOf (ordinalValue ordinal)).toList, isRest c = true := by
  cases ordinal with
  | none => exact List.forall_mem_nil _
  | some n => exact isRest_of_mem_ordinalSuffix n

theorem getLast?_suffixOf (ordinal : Option Nat) :
    (suffixOf (ordinalValue ordinal)).toList.getLast? ≠ some '_' := by
  cases ordinal with
  | none => simp [suffixOf, ordinalValue, Value.isNull]
  | some n =>
      have digits : (toString n).toList ≠ [] := by
        rw [Nat.toString_eq_ofList_toDigits, String.toList_ofList]
        exact Nat.toDigits_ne_nil
      rw [toList_suffixOf, List.getLast?_cons_of_ne_nil digits]
      intro underscore
      have digit := isAlphanumeric_of_mem_toString (List.mem_of_getLast? underscore)
      exact absurd digit (by decide)

theorem suffixOf_injective : Function.Injective fun ordinal => suffixOf (ordinalValue ordinal) := by
  intro left right same
  have texts : (suffixOf (ordinalValue left)).toList = (suffixOf (ordinalValue right)).toList :=
    congrArg String.toList same
  cases left with
  | none =>
      cases right with
      | none => rfl
      | some n =>
          rw [toList_suffixOf] at texts
          cases texts
  | some m =>
      rw [toList_suffixOf] at texts
      cases right with
      | none => cases texts
      | some n =>
          rw [toList_suffixOf] at texts
          have digits := String.toList_inj.mp (List.cons.inj texts).2
          exact congrArg some (Nat.repr_injective digits)

/-! ## Resolved names -/

/-- A name that may be missing. -/
def nameValue (name : Option String) : Value := name.elim .null .text

theorem toName_nameValue (name : Option String) :
    (nameValue name).toName = .ok (name.getD "") := by
  cases name with
  | none => rfl
  | some text =>
      change (Value.text text).toName = .ok text
      unfold Value.toName Value.givenOr
      by_cases given : (Value.text text).isTruthy = true
      · rw [if_pos given]
      · have empty : text = "" := by simpa [Value.isTruthy] using given
        rw [if_neg given, empty]

theorem ofValue_of_left {raw : Value} {name : String} (text : raw.toName = .ok name)
    (left : clean name.toList ≠ []) (fallback ordinal : Value) :
    ofValue raw fallback ordinal = .ok (String.ofList (clean name.toList)) := by
  obtain ⟨first, rest, cleaned⟩ := List.exists_cons_of_ne_nil left
  rw [ofValue, text]
  simp [bind, Except.bind, pure, Except.pure, resolve, cleaned]

theorem ofValue_of_nothing {raw : Value} {name : String} (text : raw.toName = .ok name)
    (nothing : clean name.toList = []) (fallback : String) (ordinal : Value) :
    ofValue raw (.text fallback) ordinal = .ok (cleanFallback fallback ++ suffixOf ordinal) := by
  rw [ofValue, text]
  simp [bind, Except.bind, pure, Except.pure, resolve, nothing, suffixOf]

/-- A settled name is resolved to itself, whatever else is given. -/
theorem ofValue_settled {name : String} (settled : IsSettled name.toList)
    (fallback ordinal : Value) : ofValue (.text name) fallback ordinal = .ok name := by
  have same := clean_eq_self settled
  have left : clean name.toList ≠ [] := by
    rw [same]
    intro empty
    have spelled := settled.spelled
    rw [empty] at spelled
    cases spelled
  have text : (Value.text name).toName = .ok name := toName_nameValue (some name)
  rw [ofValue_of_left text left, same, String.ofList_toList]

theorem exists_settled (raw : Option String) (fallback : String) (ordinal : Option Nat) :
    ∃ name, ofValue (nameValue raw) (.text fallback) (ordinalValue ordinal) = .ok name ∧
      IsSettled name.toList := by
  by_cases nothing : clean (raw.getD "").toList = []
  · refine ⟨_, ofValue_of_nothing (toName_nameValue raw) nothing fallback _, ?_⟩
    rw [String.toList_append]
    exact (isSettled_cleanFallback fallback).append (isRest_of_mem_suffixOf ordinal)
      (getLast?_suffixOf ordinal)
  · refine ⟨_, ofValue_of_left (toName_nameValue raw) nothing _ _, ?_⟩
    rw [String.toList_ofList]
    exact isSettled_clean nothing

/-- Resolving a name is a projection onto the settled names: the result is settled and is
resolved to itself.  It is settled by the name alone if this holds a letter or digit of ASCII,
and otherwise different ordinals, or none, have different results. -/
theorem resolving_projects (raw : Option String) (fallback : String) :
    (∀ ordinal : Option Nat, ∃ name,
      ofValue (nameValue raw) (.text fallback) (ordinalValue ordinal) = .ok name ∧
        IsSettled name.toList ∧
        ∀ other another, ofValue (.text name) other another = .ok name) ∧
    if (raw.getD "").toList.any isAsciiAlphanumeric then
      ∃ name, ∀ other another, ofValue (nameValue raw) other another = .ok name
    else
      Function.Injective fun ordinal : Option Nat =>
        ofValue (nameValue raw) (.text fallback) (ordinalValue ordinal) := by
  constructor
  · intro ordinal
    obtain ⟨name, resolved, settled⟩ := exists_settled raw fallback ordinal
    exact ⟨name, resolved, settled, ofValue_settled settled⟩
  · split
    · next some =>
        have left : clean (raw.getD "").toList ≠ [] := by
          intro nothing
          obtain ⟨c, member, alphanumeric⟩ := List.any_eq_true.mp some
          rw [clean_eq_nil_iff.mp nothing c member] at alphanumeric
          cases alphanumeric
        exact ⟨_, ofValue_of_left (toName_nameValue raw) left⟩
    · next none =>
        have nothing : clean (raw.getD "").toList = [] := by
          refine clean_eq_nil_iff.mpr fun c member => ?_
          exact Bool.eq_false_iff.mpr fun alphanumeric =>
            none (List.any_eq_true.mpr ⟨c, member, alphanumeric⟩)
        intro left right same
        dsimp only at same
        rw [ofValue_of_nothing (toName_nameValue raw) nothing,
          ofValue_of_nothing (toName_nameValue raw) nothing] at same
        have suffixes := (String.append_right_inj _).mp (Except.ok.inj same)
        exact suffixOf_injective suffixes

example : ofValue .null (.text "9 lives") (.int 3) = .ok "_9_lives_3" := by rfl

end SceneComponent.Identifier
