import Mathlib
import SceneComponent.Proofs.Checked
import SceneComponent.Scene.Document

/-!
# Documents without flags of shadows

A node says by two entries of its own whether it casts and receives shadows.  Nothing else
of a scene is read from them: a document without these entries is read as the same scene
without flags, and refused where the document is.
-/

set_option autoImplicit false

namespace SceneComponent

open Checked

theorem Value.field?_cons (key other : String) (given : Value) (rest : Entries) :
    field? key ((other, given) :: rest) =
      if key = other then some given else field? key rest := by
  rw [field?, List.lookup_cons]
  by_cases same : key = other
  · rw [if_pos same, beq_iff_eq.mpr same]
  · rw [if_neg same, beq_eq_false_iff_ne.mpr same]
    rfl

/-! ## Scenes -/

namespace Node

mutual

/-- A tree none of whose nodes casts or receives a shadow. -/
def unflagged : Node → Node
  | node@{ children := children, .. } =>
      { node with
        castShadow := .bool false
        receiveShadow := .bool false
        children := unflaggedAll children }

def unflaggedAll : List Node → List Node
  | [] => []
  | node :: rest => unflagged node :: unflaggedAll rest

end

/-- A node without its own flags. -/
def dropFlags (node : Node) : Node :=
  { node with castShadow := .bool false, receiveShadow := .bool false }

theorem unflagged_eq (node : Node) :
    node.unflagged = { node.dropFlags with children := unflaggedAll node.children } := by
  cases node; rfl

/-! ## Documents of nodes -/

def flagKeys : List String := ["castShadow", "receiveShadow"]

mutual

/-- The document of a node without flags, its own and those of the nodes below it. -/
def withoutFlags : Value → Value
  | .map entries => .map (entriesWithoutFlags entries)
  | value => value

def entriesWithoutFlags : List (String × Value) → List (String × Value)
  | [] => []
  | (key, .list items) :: rest =>
      if key ∈ flagKeys then entriesWithoutFlags rest
      else
        (key, .list (if key = childrenKey then itemsWithoutFlags items else items)) ::
          entriesWithoutFlags rest
  | (key, given) :: rest =>
      if key ∈ flagKeys then entriesWithoutFlags rest
      else (key, given) :: entriesWithoutFlags rest

def itemsWithoutFlags : List Value → List Value
  | [] => []
  | item :: rest => withoutFlags item :: itemsWithoutFlags rest

end

/-- What an entry that is no flag holds without the flags below it. -/
def contentWithoutFlags (key : String) : Value → Value
  | .list items => .list (if key = childrenKey then itemsWithoutFlags items else items)
  | given => given

theorem contentWithoutFlags_eq_self {key : String} (notChildren : key ≠ childrenKey)
    (given : Value) : contentWithoutFlags key given = given := by
  cases given with
  | list items => rw [contentWithoutFlags, if_neg notChildren]
  | _ => rfl

theorem entriesWithoutFlags_cons (key : String) (given : Value) (rest : Entries) :
    entriesWithoutFlags ((key, given) :: rest) =
      if key ∈ flagKeys then entriesWithoutFlags rest
      else (key, contentWithoutFlags key given) :: entriesWithoutFlags rest := by
  cases given <;> rw [entriesWithoutFlags] <;> simp [contentWithoutFlags]

/-- The entries that are no flags and do not hold the children stay as they are. -/
theorem field?_entriesWithoutFlags {key : String} (notFlag : key ∉ flagKeys)
    (notChildren : key ≠ childrenKey) (entries : Entries) :
    Value.field? key (entriesWithoutFlags entries) = Value.field? key entries := by
  induction entries with
  | nil => rfl
  | cons entry rest inductionHypothesis =>
      obtain ⟨other, given⟩ := entry
      rw [entriesWithoutFlags_cons, Value.field?_cons]
      by_cases found : key = other
      · subst found
        rw [if_neg notFlag, if_pos rfl, Value.field?_cons, if_pos rfl,
          contentWithoutFlags_eq_self notChildren]
      · rw [if_neg found, ← inductionHypothesis]
        split
        · rfl
        · rw [Value.field?_cons, if_neg found]

theorem field?_flag {key : String} (flag : key ∈ flagKeys) (entries : Entries) :
    Value.field? key (entriesWithoutFlags entries) = none := by
  induction entries with
  | nil => rfl
  | cons entry rest inductionHypothesis =>
      obtain ⟨other, given⟩ := entry
      rw [entriesWithoutFlags_cons]
      split
      · exact inductionHypothesis
      · next notFlag =>
          have apart : key ≠ other := fun same => notFlag (same ▸ flag)
          rw [Value.field?_cons, if_neg apart, inductionHypothesis]

/-! ## Reading them -/

section Entries

variable (entries : Entries)

theorem fieldOr_entriesWithoutFlags {key : String} (notFlag : key ∉ flagKeys)
    (notChildren : key ≠ childrenKey) (standIn : Value) :
    Value.fieldOr key standIn (entriesWithoutFlags entries) =
      Value.fieldOr key standIn entries := by
  rw [Value.fieldOr, field?_entriesWithoutFlags notFlag notChildren, Value.fieldOr]

theorem truthOf_flag {key : String} (flag : key ∈ flagKeys) :
    Entries.truthOf (entriesWithoutFlags entries) key = .bool false := by
  rw [Entries.truthOf, Value.fieldOr, field?_flag flag]
  rfl

theorem kindOf_entriesWithoutFlags (typeName : String) :
    kindOf typeName (entriesWithoutFlags entries) = kindOf typeName entries := by
  rw [kindOf, field?_entriesWithoutFlags (by decide) (by decide), kindOf]

theorem rotationOf_entriesWithoutFlags (place : String) :
    rotationOf place (entriesWithoutFlags entries) = rotationOf place entries := by
  rw [rotationOf, field?_entriesWithoutFlags (by decide) (by decide),
    fieldOr_entriesWithoutFlags _ (by decide) (by decide), rotationOf]

theorem withPayload_entriesWithoutFlags (place typeName : String) (node : Node) :
    withPayload place typeName (entriesWithoutFlags entries) node =
      withPayload place typeName entries node := by
  unfold withPayload Light.ofEntries Camera.ofEntries Entries.doubleOr
  simp (disch := decide) only [fieldOr_entriesWithoutFlags]

/-- Without the flags of a node only its flags are read otherwise. -/
theorem alone_entriesWithoutFlags (place : String) :
    alone place (entriesWithoutFlags entries) = (alone place entries).map dropFlags := by
  have casting := truthOf_flag entries (by decide : "castShadow" ∈ flagKeys)
  have receiving := truthOf_flag entries (by decide : "receiveShadow" ∈ flagKeys)
  unfold alone Entries.textOr
  simp (disch := decide) only [fieldOr_entriesWithoutFlags, kindOf_entriesWithoutFlags,
    rotationOf_entriesWithoutFlags, withPayload_entriesWithoutFlags, casting, receiving, mapped_bind]
  rfl

end Entries

theorem unlistedChildren_mapped (place : String) (given : Value) :
    (unlistedChildren place given).map unflaggedAll = unlistedChildren place given := by
  unfold unlistedChildren
  split
  · split <;> rfl
  · rfl

/-- A document without flags is read as the scene without flags, at every depth. -/
theorem read_withoutFlags (place : String) (value : Value) :
    read place (withoutFlags value) = (read place value).map unflagged := by
  -- one motive for each of the mutual readers: of a tree, of the entries, of a list
  refine Node.read.induct
    (fun place value => read place (withoutFlags value) = (read place value).map unflagged)
    (fun place entries =>
      childrenOf place (entriesWithoutFlags entries) =
        (childrenOf place entries).map unflaggedAll)
    (fun place index items =>
      readChildren place index (itemsWithoutFlags items) =
        (readChildren place index items).map unflaggedAll)
    ?tree ?noTree ?noItems ?item ?noEntries ?listed ?otherList ?unlisted ?other place value
  case tree =>
    intro place entries inductionHypothesis
    rw [withoutFlags, read, read, alone_entriesWithoutFlags, inductionHypothesis, mapped_bind,
      bind_mapped]
    refine congrArg _ (funext fun node => ?_)
    rw [mapped_bind, bind_mapped]
    refine congrArg _ (funext fun children => ?_)
    rw [map_return, unflagged_eq]
    rfl
  case noTree =>
    intro value place notMap
    cases value with
    | map entries => exact absurd rfl (notMap entries)
    | _ => rfl
  case noItems =>
    intro place index
    rfl
  case item =>
    intro place index item rest itemHypothesis restHypothesis
    rw [itemsWithoutFlags, readChildren, readChildren, itemHypothesis, restHypothesis, mapped_bind,
      bind_mapped]
    refine congrArg _ (funext fun node => ?_)
    rw [mapped_bind, bind_mapped]
    rfl
  case noEntries =>
    intro place
    rfl
  case listed =>
    intro place items rest inductionHypothesis
    rw [entriesWithoutFlags_cons, if_neg (by decide), contentWithoutFlags, if_pos rfl, childrenOf,
      childrenOf, if_pos rfl, if_pos rfl]
    exact inductionHypothesis
  case otherList =>
    intro place key items rest different inductionHypothesis
    rw [entriesWithoutFlags_cons, contentWithoutFlags_eq_self different, childrenOf,
      if_neg different, ← inductionHypothesis]
    split
    · rfl
    · rw [childrenOf, if_neg different]
  case unlisted =>
    intro place given rest notList
    have same : contentWithoutFlags childrenKey given = given := by
      cases given with
      | list items => exact absurd rfl (notList items)
      | _ => rfl
    rw [entriesWithoutFlags_cons, if_neg (by decide), same, childrenOf, childrenOf, if_pos rfl,
      if_pos rfl, unlistedChildren_mapped]
    · exact notList
    · exact notList
  case other =>
    intro place key given rest notList different inductionHypothesis
    rw [entriesWithoutFlags_cons, contentWithoutFlags_eq_self different, childrenOf,
      if_neg different, ← inductionHypothesis]
    · split
      · rfl
      · rw [childrenOf, if_neg different]
        exact notList
    · exact notList

end Node

/-! ## Models -/

namespace Model

def unflagged (model : Model) : Model := { model with scene := model.scene.unflagged }

/-- An entry of a model; the one of the scene goes without the flags in it. -/
def entryWithoutFlags (entry : String × Value) : String × Value :=
  (entry.1, if entry.1 = "scene" then Node.withoutFlags entry.2 else entry.2)

def withoutFlags : Value → Value
  | .map entries => .map (entries.map entryWithoutFlags)
  | value => value

theorem field?_entryWithoutFlags (key : String) (entries : Entries) :
    Value.field? key (entries.map entryWithoutFlags) =
      (Value.field? key entries).map fun given =>
        if key = "scene" then Node.withoutFlags given else given := by
  induction entries with
  | nil => rfl
  | cons entry rest inductionHypothesis =>
      obtain ⟨other, given⟩ := entry
      rw [List.map_cons, entryWithoutFlags, Value.field?_cons, Value.field?_cons,
        inductionHypothesis]
      by_cases found : key = other
      · rw [if_pos found, if_pos found, found, Option.map_some]
      · rw [if_neg found, if_neg found]

/-- Without flags a document is read as the model without flags, or refused likewise. -/
theorem ofValue_withoutFlags (document : Value) :
    ofValue (withoutFlags document) = (ofValue document).map unflagged := by
  cases document with
  | map entries =>
      have animations : Value.fieldOr "animations" .null (entries.map entryWithoutFlags) =
          Value.fieldOr "animations" .null entries := by
        have others : ("animations" = "scene") = False := by decide
        simp only [Value.fieldOr, field?_entryWithoutFlags, others, if_false, Option.map_id']
      rw [withoutFlags, ofValue, ofValue, field?_entryWithoutFlags, animations]
      cases Value.field? "scene" entries with
      | none => rfl
      | some scene =>
          rw [Option.map_some, if_pos rfl]
          dsimp only
          rw [Node.ofValue, Node.read_withoutFlags, mapped_bind, bind_mapped]
          refine congrArg _ (funext fun scene => ?_)
          rw [mapped_bind]
          rfl
  | _ => rfl

end Model

end SceneComponent
