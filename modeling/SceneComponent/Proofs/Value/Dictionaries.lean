import Mathlib
import SceneComponent.Inventory.Basic
import SceneComponent.Value.Table
import SceneComponent.Proofs.Checked

/-!
# Dictionaries

Setting pair after pair makes a dictionary: the names in the order in which they first stand,
each with the value that it has last.  A table may have keys that are no texts; its texts
make a dictionary of their own, whatever stands between them.
-/

set_option autoImplicit false

namespace SceneComponent

open Checked

theorem mem_of_lookup {α β : Type} [BEq α] [LawfulBEq α] {entries : List (α × β)} {key : α}
    {value : β} (found : entries.lookup key = some value) : (key, value) ∈ entries := by
  obtain ⟨front, back, split, _⟩ := List.lookup_eq_some_iff.mp found
  rw [split]
  exact List.mem_append_right _ (List.mem_cons_self ..)

/-! ## Names that are texts -/

namespace Properties

def entryAt? (properties : Properties) (name : String) : Option (String × Value) :=
  (properties.lookup name).map (name, ·)

/-- A list of pairs as a dictionary: every name at its first place, with its last value. -/
def dictionary (pairs : List (String × Value)) : Properties :=
  (pairs.map Prod.fst).eraseDups.filterMap (entryAt? pairs.reverse)

theorem eraseDups_concat (names : List String) (name : String) :
    (names ++ [name]).eraseDups =
      if name ∈ names then names.eraseDups else names.eraseDups ++ [name] := by
  have left : [name].removeAll names = if name ∈ names then [] else [name] := by
    simp [List.removeAll, List.filter_cons]
  rw [List.eraseDups_append, left]
  split
  · rw [List.eraseDups_nil, List.append_nil]
  · rfl

theorem nodup_eraseDups (names : List String) : names.eraseDups.Nodup := by
  induction names using List.reverseRecOn with
  | nil => exact List.nodup_nil
  | append_singleton front name inductionHypothesis =>
      rw [eraseDups_concat]
      split
      · exact inductionHypothesis
      · next fresh =>
          refine List.nodup_append.mpr ⟨inductionHypothesis, List.nodup_singleton name, ?_⟩
          intro other inFront another isName same
          rw [same, List.mem_singleton.mp isName] at inFront
          exact fresh (List.mem_eraseDups.mp inFront)

theorem lookup_entry (entry : String × Value) (rest : Properties) (name : String) :
    (entry :: rest).lookup name = if name = entry.1 then some entry.2 else rest.lookup name := by
  rw [List.lookup_cons]
  by_cases same : name = entry.1
  · rw [if_pos same, beq_iff_eq.mpr same]
  · rw [if_neg same, beq_eq_false_iff_ne.mpr same]

theorem put_of_fresh {properties : Properties} {name : String} (value : Value)
    (fresh : name ∉ properties.map Prod.fst) :
    properties.put name value = properties ++ [(name, value)] := by
  induction properties with
  | nil => rfl
  | cons entry rest inductionHypothesis =>
      rw [List.map_cons, List.mem_cons, not_or] at fresh
      rw [put, if_neg (Ne.symm fresh.1), inductionHypothesis fresh.2, List.cons_append]

theorem names_put (properties : Properties) (name : String) (value : Value) :
    (properties.put name value).map Prod.fst =
      if name ∈ properties.map Prod.fst then properties.map Prod.fst
      else properties.map Prod.fst ++ [name] := by
  induction properties with
  | nil => rfl
  | cons entry rest inductionHypothesis =>
      rw [put, List.map_cons]
      by_cases same : entry.1 = name
      · rw [if_pos same, if_pos (List.mem_cons.mpr (.inl same.symm)), List.map_cons, same]
      · have shifted : name ∈ entry.1 :: rest.map Prod.fst ↔ name ∈ rest.map Prod.fst := by
          rw [List.mem_cons, or_iff_right (Ne.symm same)]
        rw [if_neg same, List.map_cons, inductionHypothesis, if_congr shifted rfl rfl]
        split <;> rfl

theorem lookup_put (properties : Properties) (name other : String) (value : Value) :
    (properties.put name value).lookup other =
      if other = name then some value else properties.lookup other := by
  induction properties with
  | nil => exact lookup_entry (name, value) [] other
  | cons entry rest inductionHypothesis =>
      rw [put]
      by_cases same : entry.1 = name
      · rw [if_pos same, lookup_entry, lookup_entry, same]
        split <;> rfl
      · rw [if_neg same, lookup_entry, lookup_entry, inductionHypothesis]
        by_cases wanted : other = entry.1
        · have elsewhere : other ≠ name := fun also => same (wanted.symm.trans also)
          rw [if_pos wanted, if_pos wanted, if_neg elsewhere]
        · rw [if_neg wanted, if_neg wanted]

/-- Whether the names of pairs satisfy a condition is kept by setting properties. -/
theorem filter_put (holds : String → Bool) (properties : Properties) (name : String)
    (value : Value) :
    (properties.put name value).filter (fun entry => holds entry.1) =
      if holds name then Properties.put (properties.filter fun entry => holds entry.1) name value
      else properties.filter fun entry => holds entry.1 := by
  induction properties with
  | nil => rw [put, List.filter_cons]; split <;> rfl
  | cons entry rest inductionHypothesis =>
      rw [put]
      by_cases same : entry.1 = name
      · rw [if_pos same, List.filter_cons, List.filter_cons, same]
        split
        · rw [put, if_pos same]
        · rfl
      · rw [if_neg same, List.filter_cons, List.filter_cons, inductionHypothesis]
        by_cases kept : holds entry.1 = true
        · rw [if_pos kept, if_pos kept]
          split
          · rw [put, if_neg same]
          · rfl
        · rw [if_neg kept, if_neg kept]

theorem ofPairs_concat (pairs : List (String × Value)) (entry : String × Value) :
    ofPairs (pairs ++ [entry]) = (ofPairs pairs).put entry.1 entry.2 := by
  rw [ofPairs, List.foldl_append]
  rfl

theorem names_ofPairs (pairs : List (String × Value)) :
    (ofPairs pairs).map Prod.fst = (pairs.map Prod.fst).eraseDups := by
  induction pairs using List.reverseRecOn with
  | nil => rfl
  | append_singleton front entry inductionHypothesis =>
      rw [ofPairs_concat, names_put, inductionHypothesis, List.map_append, List.map_singleton,
        eraseDups_concat]
      simp only [List.mem_eraseDups]

theorem nodup_names_ofPairs (pairs : List (String × Value)) :
    ((ofPairs pairs).map Prod.fst).Nodup := by
  rw [names_ofPairs]
  exact nodup_eraseDups _

theorem lookup_ofPairs (pairs : List (String × Value)) (name : String) :
    (ofPairs pairs).lookup name = pairs.reverse.lookup name := by
  induction pairs using List.reverseRecOn with
  | nil => rfl
  | append_singleton front entry inductionHypothesis =>
      rw [ofPairs_concat, lookup_put, inductionHypothesis, List.reverse_append,
        List.reverse_singleton, List.singleton_append, lookup_entry]

theorem filterMap_entryAt? {properties : Properties}
    (distinct : (properties.map Prod.fst).Nodup) :
    (properties.map Prod.fst).filterMap properties.entryAt? = properties := by
  induction properties with
  | nil => rfl
  | cons entry rest inductionHypothesis =>
      obtain ⟨fresh, restDistinct⟩ := List.nodup_cons.mp distinct
      have here : entryAt? (entry :: rest) entry.1 = some entry := by
        rw [entryAt?, lookup_entry, if_pos rfl]
        rfl
      have later : ∀ name ∈ rest.map Prod.fst,
          entryAt? (entry :: rest) name = entryAt? rest name := by
        intro name member
        have elsewhere : name ≠ entry.1 := by
          rintro rfl
          exact fresh member
        rw [entryAt?, entryAt?, lookup_entry, if_neg elsewhere]
      rw [List.map_cons, List.filterMap_cons_some here, List.filterMap_congr later,
        inductionHypothesis restDistinct]

theorem eraseDups_repeated {front : List String} {name : String} (back : List String)
    (known : name ∈ front) : (front ++ name :: back).eraseDups = (front ++ back).eraseDups := by
  have dropped : (name :: back).removeAll front = back.removeAll front := by
    rw [List.cons_removeAll, List.contains_iff_mem.mpr known]
    rfl
  rw [List.eraseDups_append, List.eraseDups_append, dropped]

/-- A repeated name keeps its first place and takes its last value. -/
theorem dictionary_repeated (front back : List (String × Value)) {middle : List (String × Value)}
    {name : String} (earlier last : Value) (fresh : ∀ entry ∈ middle, entry.1 ≠ name) :
    dictionary (front ++ (name, earlier) :: (middle ++ (name, last) :: back)) =
      dictionary (front ++ (name, last) :: (middle ++ back)) := by
  have absent : middle.reverse.lookup name = none := by
    refine List.lookup_eq_none_iff.mpr fun entry member => bne_iff_ne.mpr ?_
    exact (fresh entry (List.mem_reverse.mp member)).symm
  have sameEntries :
      entryAt? (front ++ (name, earlier) :: (middle ++ (name, last) :: back)).reverse =
        entryAt? (front ++ (name, last) :: (middle ++ back)).reverse := by
    funext other
    simp only [entryAt?, List.reverse_append, List.reverse_cons, List.lookup_append, lookup_entry,
      List.lookup_nil]
    by_cases same : other = name
    · subst same
      simp [absent]
    · simp [same]
  have sameNames :
      ((front ++ (name, earlier) :: (middle ++ (name, last) :: back)).map Prod.fst).eraseDups =
        ((front ++ (name, last) :: (middle ++ back)).map Prod.fst).eraseDups := by
    have known : name ∈ front.map Prod.fst ++ name :: middle.map Prod.fst :=
      List.mem_append_right _ (List.mem_cons_self ..)
    simpa only [List.map_append, List.map_cons, List.append_assoc, List.cons_append] using
      eraseDups_repeated (back.map Prod.fst) known
  rw [dictionary, dictionary, sameNames, sameEntries]

/-- Setting pair after pair makes the dictionary of the pairs. -/
theorem ofPairs_eq_dictionary (pairs : List (String × Value)) :
    ofPairs pairs = dictionary pairs := by
  have sameEntries : entryAt? (ofPairs pairs) = entryAt? pairs.reverse := by
    funext name
    rw [entryAt?, entryAt?, lookup_ofPairs]
  rw [← filterMap_entryAt? (nodup_names_ofPairs pairs), names_ofPairs, sameEntries, dictionary]

theorem ofPairs_eq_self {properties : Properties}
    (distinct : (properties.map Prod.fst).Nodup) : ofPairs properties = properties := by
  induction properties using List.reverseRecOn with
  | nil => rfl
  | append_singleton front entry inductionHypothesis =>
      rw [List.map_append, List.map_singleton, List.nodup_append] at distinct
      have fresh : entry.1 ∉ front.map Prod.fst := fun member =>
        distinct.2.2 _ member _ (List.mem_singleton_self _) rfl
      rw [ofPairs_concat, inductionHypothesis distinct.1, put_of_fresh _ fresh]

theorem ofPairs_ofPairs (pairs : List (String × Value)) :
    ofPairs (ofPairs pairs) = ofPairs pairs :=
  ofPairs_eq_self (nodup_names_ofPairs pairs)

theorem filter_ofPairs (holds : String → Bool) (pairs : List (String × Value)) :
    (ofPairs pairs).filter (fun entry => holds entry.1) =
      ofPairs (pairs.filter fun entry => holds entry.1) := by
  induction pairs using List.reverseRecOn with
  | nil => rfl
  | append_singleton front entry inductionHypothesis =>
      rw [ofPairs_concat, filter_put, inductionHypothesis, List.filter_append, List.filter_cons]
      split
      · exact (ofPairs_concat _ _).symm
      · rw [List.filter_nil, List.append_nil]

end Properties

/-! ## Keys of every kind -/

theorem Value.sameScalar_text {value : Value} {name : String} :
    value.sameScalar (.text name) = true ↔ value = .text name := by
  cases value <;> simp [sameScalar]

theorem Value.text_sameScalar {value : Value} {name : String} :
    (Value.text name).sameScalar value = true ↔ value = .text name := by
  cases value with
  | text other =>
      rw [sameScalar, beq_iff_eq, Value.text.injEq]
      exact eq_comm
  | _ => simp [sameScalar]

namespace Table

/-- The entry under a key that is a text. -/
def namedEntry? (entry : Value × Value) : Option (String × Value) :=
  match entry.1 with
  | .text name => some (name, entry.2)
  | _ => none

theorem named_eq (table : Table) : table.named = table.filterMap namedEntry? := rfl

theorem namedEntry?_eq_none {key : Value} (content : Value) (noText : ∀ name, key ≠ .text name) :
    namedEntry? (key, content) = none := by
  cases key with
  | text name => exact absurd rfl (noText name)
  | _ => rfl

theorem named_cons_text (name : String) (content : Value) (rest : Table) :
    named ((.text name, content) :: rest) = (name, content) :: rest.named := rfl

theorem named_cons_of_noText {key : Value} (content : Value) (rest : Table)
    (noText : ∀ name, key ≠ .text name) : named ((key, content) :: rest) = rest.named :=
  List.filterMap_cons_none (namedEntry?_eq_none content noText)

theorem named_append (front back : Table) : named (front ++ back) = front.named ++ back.named :=
  List.filterMap_append

theorem eq_text_or_noText (key : Value) :
    (∃ name, key = .text name) ∨ ∀ name, key ≠ .text name := by
  cases key with
  | text name => exact .inl ⟨name, rfl⟩
  | _ => exact .inr fun name impossible => by cases impossible

theorem mem_of_mem_named {table : Table} {name : String} {content : Value}
    (member : (name, content) ∈ table.named) : (.text name, content) ∈ table := by
  obtain ⟨⟨key, held⟩, inTable, found⟩ := List.mem_filterMap.mp (named_eq table ▸ member)
  rcases eq_text_or_noText key with ⟨other, rfl⟩ | noText
  · obtain ⟨rfl, rfl⟩ := Prod.mk.inj (Option.some.inj found)
    exact inTable
  · rw [namedEntry?_eq_none held noText] at found
    cases found

theorem named_put_text (table : Table) (name : String) (content : Value) :
    (table.put (.text name) content).named = Properties.put table.named name content := by
  induction table with
  | nil => rfl
  | cons entry rest inductionHypothesis =>
      obtain ⟨key, held⟩ := entry
      rw [put]
      by_cases same : key.sameScalar (.text name) = true
      · obtain rfl := Value.sameScalar_text.mp same
        rw [if_pos same, named_cons_text, named_cons_text, Properties.put, if_pos rfl]
      · rw [if_neg same]
        rcases eq_text_or_noText key with ⟨other, rfl⟩ | noText
        · have different : other ≠ name := by
            rintro rfl
            exact same (Value.sameScalar_text.mpr rfl)
          rw [named_cons_text, named_cons_text, inductionHypothesis, Properties.put,
            if_neg different]
        · rw [named_cons_of_noText _ _ noText, named_cons_of_noText _ _ noText, inductionHypothesis]

theorem named_put_of_noText {key : Value} (table : Table) (content : Value)
    (noText : ∀ name, key ≠ .text name) : (table.put key content).named = table.named := by
  induction table with
  | nil => exact named_cons_of_noText content [] noText
  | cons entry rest inductionHypothesis =>
      obtain ⟨other, held⟩ := entry
      rw [put]
      rcases eq_text_or_noText other with ⟨name, rfl⟩ | otherNoText
      · have different : ¬ (Value.text name).sameScalar key = true := fun same =>
          noText name (Value.text_sameScalar.mp same)
        rw [if_neg different, named_cons_text, named_cons_text, inductionHypothesis]
      · split
        · rw [named_cons_of_noText _ _ otherNoText, named_cons_of_noText _ _ otherNoText]
        · rw [named_cons_of_noText _ _ otherNoText, named_cons_of_noText _ _ otherNoText,
            inductionHypothesis]

/-- The texts among the keys of a table make a dictionary of their own. -/
theorem named_foldl_put (pairs : List (Value × Value)) :
    (pairs.foldl (fun known entry => put known entry.1 entry.2) []).named =
      Properties.ofPairs (named pairs) := by
  induction pairs using List.reverseRecOn with
  | nil => rfl
  | append_singleton front entry inductionHypothesis =>
      obtain ⟨key, content⟩ := entry
      rw [List.foldl_append, List.foldl_cons, List.foldl_nil, named_append]
      rcases eq_text_or_noText key with ⟨name, rfl⟩ | noText
      · rw [named_put_text, inductionHypothesis]
        exact (Properties.ofPairs_concat (named front) (name, content)).symm
      · rw [named_put_of_noText _ _ noText, inductionHypothesis, named_cons_of_noText _ _ noText]
        exact congrArg Properties.ofPairs (List.append_nil _).symm

theorem dictionary_named_repeated (front back : List (Value × Value))
    {middle : List (Value × Value)} {key : Value} (earlier last : Value)
    (fresh : ∀ entry ∈ middle, entry.1 ≠ key) :
    Properties.dictionary (named (front ++ (key, earlier) :: (middle ++ (key, last) :: back))) =
      Properties.dictionary (named (front ++ (key, last) :: (middle ++ back))) := by
  simp only [named_append]
  rcases eq_text_or_noText key with ⟨name, rfl⟩ | noText
  · have namedFresh : ∀ entry ∈ named middle, entry.1 ≠ name := by
      rintro ⟨_, content⟩ member rfl
      exact fresh _ (mem_of_mem_named member) rfl
    simp only [named_cons_text, named_append]
    exact Properties.dictionary_repeated _ _ earlier last namedFresh
  · simp only [named_cons_of_noText _ _ noText, named_append]

/-- Pairs as the lists of two that a payload holds. -/
def pairValues (pairs : List (Value × Value)) : Value :=
  .list (pairs.map fun entry => .list [entry.1, entry.2])

theorem entryOf_pair (entry result : Value × Value) :
    entryOf (.list [entry.1, entry.2]) = .ok result ↔ entry.1.isKey = true ∧ entry = result := by
  change (if entry.1.isKey = true then Except.ok (entry.1, entry.2) else _) = _ ↔ _
  split
  · next hashable => rw [Except.ok.injEq, and_iff_right hashable]
  · next unhashable =>
      refine iff_of_false (fun impossible => ?_) (fun both => unhashable both.1)
      cases impossible

theorem mapM_entryOf {pairs results : List (Value × Value)} :
    (pairs.map fun entry => Value.list [entry.1, entry.2]).mapM entryOf = .ok results ↔
      (∀ entry ∈ pairs, entry.1.isKey = true) ∧ pairs = results := by
  rw [mapM_eq_ok, List.forall₂_map_left_iff]
  simp only [entryOf_pair]
  rw [List.forall₂_and_left, List.forall₂_eq_eq_eq]

theorem ofValue_pairValues {pairs : List (Value × Value)} {table : Table} :
    ofValue (pairValues pairs) = .ok table ↔
      (∀ entry ∈ pairs, entry.1.isKey = true) ∧
        pairs.foldl (fun known entry => put known entry.1 entry.2) [] = table := by
  cases pairs with
  | nil => simp [ofValue, pairValues, Value.isTruthy]
  | cons first rest =>
      change ((((first :: rest).map fun entry => Value.list [entry.1, entry.2]).mapM entryOf >>=
        fun entries => pure (entries.foldl (fun known entry => put known entry.1 entry.2) [])) :
          Except Failure Table) = _ ↔ _
      constructor
      · intro success
        obtain ⟨entries, read, filled⟩ := bind_eq_ok.mp success
        obtain ⟨hashable, rfl⟩ := mapM_entryOf.mp read
        exact ⟨hashable, return_eq_ok.mp filled⟩
      · rintro ⟨hashable, rfl⟩
        exact bind_eq_ok.mpr ⟨_, mapM_entryOf.mpr ⟨hashable, rfl⟩, rfl⟩

end Table

end SceneComponent
