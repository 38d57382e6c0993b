import Mathlib
import SceneComponent.Proofs.Scene.Readings
import SceneComponent.Proofs.Scene.ShadowFlags
import SceneComponent.Proofs.Value.Vectors

/-!
# Places of faults

A node of a document is reached by the indices of the children on the way to it.  When a
document can be read and one of its nodes is replaced, or one vector of that node, nothing else
fails before the replacement is read: the parts of the ancestors and of the siblings in front
are those of the document.  So the fault is the one of the replacement, and its message names
the place by the same indices.
-/

set_option autoImplicit false

namespace SceneComponent

open Checked
open Reading (firstFailure? firstFailure?_cons firstFailure?_append)

/-! ## Replaced entries -/

namespace Entries

/-- The entries with one of them set; a key that was missing comes last. -/
def put (key : String) (given : Value) : Entries → Entries
  | [] => [(key, given)]
  | (other, held) :: rest =>
      if key = other then (key, given) :: rest else (other, held) :: put key given rest

theorem field?_put (key other : String) (given : Value) (entries : Entries) :
    Value.field? key (put other given entries) =
      if key = other then some given else Value.field? key entries := by
  induction entries with
  | nil => rw [put, Value.field?_cons]
  | cons entry rest inductionHypothesis =>
      obtain ⟨third, held⟩ := entry
      rw [put, Value.field?_cons]
      by_cases same : other = third
      · subst same
        rw [if_pos rfl, Value.field?_cons]
        split <;> rfl
      · rw [if_neg same, Value.field?_cons, inductionHypothesis]
        by_cases found : key = third
        · subst found
          rw [if_pos rfl, if_neg (Ne.symm same), if_pos rfl]
        · rw [if_neg found, if_neg found]

theorem fieldOr_put_of_ne {key other : String} (apart : key ≠ other) (given standIn : Value)
    (entries : Entries) :
    Value.fieldOr key standIn (put other given entries) = Value.fieldOr key standIn entries := by
  rw [Value.fieldOr, field?_put, if_neg apart, Value.fieldOr]

theorem fieldOr_put_self (key : String) (given standIn : Value) (entries : Entries) :
    Value.fieldOr key standIn (put key given entries) = given := by
  rw [Value.fieldOr, field?_put, if_pos rfl, Option.getD_some]

end Entries

namespace Node

/-- The keys of a node that are read neither for its kind nor for its payload. -/
def placementKeys : List String := ["position", "rotation", "scale", childrenKey]

section Placement

variable {key : String} (placement : key ∈ placementKeys) (given : Value) (entries : Entries)

include placement

theorem field?_put_placement {other : String} (apart : other ∉ placementKeys) :
    Value.field? other (entries.put key given) = Value.field? other entries := by
  rw [Entries.field?_put, if_neg]
  rintro rfl
  exact apart placement

theorem fieldOr_put_placement {other : String} (apart : other ∉ placementKeys) (standIn : Value) :
    Value.fieldOr other standIn (entries.put key given) = Value.fieldOr other standIn entries := by
  rw [Value.fieldOr, field?_put_placement placement given entries apart, Value.fieldOr]

theorem kindOf_put (typeName : String) :
    kindOf typeName (entries.put key given) = kindOf typeName entries := by
  rw [kindOf, field?_put_placement placement given entries (by decide), kindOf]

theorem payloadReadings_put (place : String) (kind : NodeKind) :
    payloadReadings place (entries.put key given) kind = payloadReadings place entries kind := by
  unfold payloadReadings Light.readings Camera.readings Reading.colorAt Reading.numberAt
  simp (disch := decide) only [fieldOr_put_placement placement]

theorem ownReadings_put (place : String) :
    ownReadings place (entries.put key given) =
      rotationReading place (entries.put key given) ::
        payloadReadings place entries
          (kindOf (entries.textOr "type" (.text "Object3D")) entries) ++
        [.vector (place ++ ".position")
            (Value.fieldOr "position" (.triple 0.0 0.0 0.0) (entries.put key given)),
          .vector (place ++ ".scale")
            (Value.fieldOr "scale" (.triple 1.0 1.0 1.0) (entries.put key given))] := by
  rw [ownReadings, payloadReadings_put placement, kindOf_put placement, Entries.textOr,
    fieldOr_put_placement placement given entries (by decide), Entries.textOr]

end Placement

theorem rotationReading_put {key : String} (notQuaternion : "quaternion" ≠ key)
    (notRotation : "rotation" ≠ key) (given : Value) (place : String) (entries : Entries) :
    rotationReading place (entries.put key given) = rotationReading place entries := by
  rw [rotationReading, Entries.field?_put, if_neg notQuaternion,
    Entries.fieldOr_put_of_ne notRotation, rotationReading]

/-- The own parts of a node do not hang on its children. -/
theorem ownReadings_put_children (given : Value) (place : String) (entries : Entries) :
    ownReadings place (entries.put childrenKey given) = ownReadings place entries := by
  rw [ownReadings_put (by decide), rotationReading_put (by decide) (by decide),
    Entries.fieldOr_put_of_ne (by decide), Entries.fieldOr_put_of_ne (by decide), ownReadings]

/-- The vectors of a node: its position, its scale, and its rotation unless a quaternion goes
before it. -/
def IsVectorOf (entries : Entries) (field : String) : Prop :=
  field = "position" ∨ field = "scale" ∨
    field = "rotation" ∧ Value.field? "quaternion" entries = none

/-- A readable node fails at a vector that was replaced by none. -/
theorem firstFailure?_put_vector {place field : String} {entries : Entries} {given : Value}
    {failure : Failure} (readable : firstFailure? (ownReadings place entries) = none)
    (vector : IsVectorOf entries field)
    (refused : given.threeNumbers (place ++ "." ++ field) = .error failure) :
    firstFailure? (ownReadings place (entries.put field given)) = some failure := by
  rw [ownReadings, List.cons_append, firstFailure?_cons, firstFailure?_append, firstFailure?_cons,
    firstFailure?_cons, Option.or_eq_none_iff, Option.or_eq_none_iff, Option.or_eq_none_iff]
    at readable
  obtain ⟨rotation, payload, position, scale⟩ := readable
  have failed : (Reading.vector (place ++ "." ++ field) given).failure? = some failure :=
    failure?_eq_some.mpr refused
  rw [String.append_assoc] at failed
  -- the parts are read in the order rotation, payload, position, scale
  rcases vector with rfl | rfl | ⟨rfl, noQuaternion⟩
  · change (Reading.vector (place ++ ".position") given).failure? = some failure at failed
    rw [ownReadings_put (by decide), rotationReading_put (by decide) (by decide),
      Entries.fieldOr_put_self, List.cons_append, firstFailure?_cons, firstFailure?_append,
      rotation, payload, firstFailure?_cons, failed]
    rfl
  · change (Reading.vector (place ++ ".scale") given).failure? = some failure at failed
    rw [ownReadings_put (by decide), rotationReading_put (by decide) (by decide),
      Entries.fieldOr_put_of_ne (by decide), Entries.fieldOr_put_self, List.cons_append,
      firstFailure?_cons, firstFailure?_append, rotation, payload, firstFailure?_cons, position,
      firstFailure?_cons, failed]
    rfl
  · change (Reading.vector (place ++ ".rotation") given).failure? = some failure at failed
    have turned : rotationReading place (entries.put "rotation" given) =
        .vector (place ++ ".rotation") given := by
      rw [rotationReading, Entries.field?_put, if_neg (by decide), noQuaternion,
        Entries.fieldOr_put_self]
    rw [ownReadings_put (by decide), turned, List.cons_append, firstFailure?_cons, failed]
    rfl

/-! ## Replaced nodes -/

/-- The values that the children of a node are read from. -/
def itemsOf (entries : Entries) : List Value :=
  match Value.field? childrenKey entries with
  | some (.list items) => items
  | _ => []

/-- The value that the indices of children lead to. -/
def valueAt? : List Nat → Value → Option Value
  | [], value => some value
  | index :: path, .map entries => (itemsOf entries)[index]?.bind (valueAt? path)
  | _ :: _, _ => none

/-- The document with another value where the indices of children lead to. -/
def replacedAt (given : Value) : List Nat → Value → Value
  | [], _ => given
  | index :: path, .map entries =>
      .map (Entries.put childrenKey
        (.list ((itemsOf entries).modify index (replacedAt given path))) entries)
  | _ :: _, value => value

def placeAt (place : String) (path : List Nat) : String := path.foldl childPlace place

theorem placeAt_eq (place : String) (path : List Nat) :
    placeAt place path =
      place ++ String.join (path.map fun index => ".children[" ++ toString index ++ "]") := by
  induction path generalizing place with
  | nil => exact (String.append_empty).symm
  | cons index path inductionHypothesis =>
      have deeper := inductionHypothesis (childPlace place index)
      rw [placeAt] at deeper
      rw [placeAt, List.foldl_cons, deeper, List.map_cons, String.join_cons, childPlace]
      simp only [String.append_assoc]

theorem childrenReadings_cons_of_ne {key : String} (other : key ≠ childrenKey) (place : String)
    (given : Value) (rest : Entries) :
    childrenReadings place ((key, given) :: rest) = childrenReadings place rest := by
  cases given with
  | list items => rw [childrenReadings, if_neg other]
  | _ => exact if_neg other

theorem childrenReadings_of_list {entries : Entries} {items : List Value}
    (listed : Value.field? childrenKey entries = some (.list items)) (place : String) :
    childrenReadings place entries = itemReadings place 0 items := by
  induction entries with
  | nil => cases listed
  | cons entry rest inductionHypothesis =>
      obtain ⟨key, given⟩ := entry
      rw [Value.field?_cons] at listed
      by_cases found : childrenKey = key
      · subst found
        rw [if_pos rfl] at listed
        cases listed
        rw [childrenReadings, if_pos rfl]
      · rw [if_neg found] at listed
        rw [childrenReadings_cons_of_ne (Ne.symm found), inductionHypothesis listed]

theorem itemReadings_append (place : String) (index : Nat) (front back : List Value) :
    itemReadings place index (front ++ back) =
      itemReadings place index front ++ itemReadings place (index + front.length) back := by
  induction front generalizing index with
  | nil => rfl
  | cons item rest inductionHypothesis =>
      rw [List.cons_append, itemReadings, inductionHypothesis, itemReadings, List.append_assoc,
        List.length_cons, Nat.add_right_comm, Nat.add_assoc]

/-- The parts of items, cut at one of them. -/
theorem itemReadings_cut {items : List Value} {index : Nat} {item : Value}
    (listed : items[index]? = some item) (place : String) (other : Value) :
    itemReadings place 0 (items.set index other) =
      itemReadings place 0 (items.take index) ++ (readings (childPlace place index) other ++
        itemReadings place (index + 1) (items.drop (index + 1))) := by
  obtain ⟨inside, -⟩ := List.getElem?_eq_some_iff.mp listed
  have front : 0 + (items.take index).length = index := by
    rw [List.length_take_of_le inside.le, Nat.zero_add]
  rw [List.set_eq_take_append_cons_drop, if_pos inside, itemReadings_append, front, itemReadings]

theorem field?_itemsOf {entries : Entries} {index : Nat} {item : Value}
    (listed : (itemsOf entries)[index]? = some item) :
    Value.field? childrenKey entries = some (.list (itemsOf entries)) := by
  unfold itemsOf at listed ⊢
  split at listed
  · assumption
  · cases listed

/-- Of a readable node its own parts, the children in front of any child and that child are
readable. -/
theorem readable_child {place : String} {entries : Entries} {index : Nat} {item : Value}
    (readable : firstFailure? (readings place (.map entries)) = none)
    (listed : (itemsOf entries)[index]? = some item) :
    firstFailure? (ownReadings place entries) = none ∧
      firstFailure? (itemReadings place 0 ((itemsOf entries).take index)) = none ∧
      firstFailure? (readings (childPlace place index) item) = none := by
  have itself : (itemsOf entries).set index item = itemsOf entries := by
    obtain ⟨inside, same⟩ := List.getElem?_eq_some_iff.mp listed
    rw [← same, List.set_getElem_self]
  rw [readings, childrenReadings_of_list (field?_itemsOf listed), ← itself,
    itemReadings_cut listed, firstFailure?_append, firstFailure?_append, firstFailure?_append,
    Option.or_eq_none_iff, Option.or_eq_none_iff, Option.or_eq_none_iff] at readable
  exact ⟨readable.1, readable.2.1, readable.2.2.1⟩

/-- The step of reading a document with a replaced node: everything in front of the child that
it is in is read as it was. -/
theorem firstFailure?_changed_child {place : String} {entries : Entries} {index : Nat}
    {item : Value} {change : Value → Value} {failure : Failure}
    (readable : firstFailure? (readings place (.map entries)) = none)
    (listed : (itemsOf entries)[index]? = some item)
    (refused : firstFailure? (readings (childPlace place index) (change item)) = some failure) :
    firstFailure? (readings place
      (.map (entries.put childrenKey (.list ((itemsOf entries).modify index change))))) =
        some failure := by
  obtain ⟨own, before, -⟩ := readable_child readable listed
  have changed : (itemsOf entries).modify index change =
      (itemsOf entries).set index (change item) := by
    rw [List.modify_eq_set_getElem?, listed]
    rfl
  rw [readings, ownReadings_put_children, changed,
    childrenReadings_of_list (by rw [Entries.field?_put, if_pos rfl]), itemReadings_cut listed,
    firstFailure?_append, firstFailure?_append, firstFailure?_append, own, before, refused]
  rfl

section Runs

variable {value target : Value} {path : List Nat} {place : String}
  (readable : firstFailure? (readings place value) = none)
  (reached : valueAt? path value = some target)

include readable reached

/-- Whatever is reached in a readable document is readable at its place. -/
theorem readable_valueAt? : firstFailure? (readings (placeAt place path) target) = none := by
  induction path generalizing place value with
  | nil =>
      cases reached
      exact readable
  | cons index path inductionHypothesis =>
      cases value with
      | map entries =>
          obtain ⟨item, listed, below⟩ := Option.bind_eq_some_iff.mp reached
          exact inductionHypothesis (readable_child readable listed).2.2 below
      | _ => cases reached

/-- The run lemma of reading a document with a replaced node: it fails at that node. -/
theorem firstFailure?_replacedAt {given : Value} {failure : Failure}
    (refused : firstFailure? (readings (placeAt place path) given) = some failure) :
    firstFailure? (readings place (replacedAt given path value)) = some failure := by
  induction path generalizing place value with
  | nil => exact refused
  | cons index path inductionHypothesis =>
      cases value with
      | map entries =>
          obtain ⟨item, listed, below⟩ := Option.bind_eq_some_iff.mp reached
          have child := (readable_child readable listed).2.2
          exact firstFailure?_changed_child readable listed
            (inductionHypothesis child below refused)
      | _ => cases reached

end Runs

/-! ## Messages -/

/-- The place of a node, by the indices of the children on the way from the root. -/
def placeText (path : List Nat) : String :=
  "scene" ++ String.join (path.map fun index => ".children[" ++ toString index ++ "]")

/-- Whether reading ends with a fault of the scene that has a message. -/
def IsRefused (outcome : Except Failure Node) (message : String) : Prop :=
  ∃ fault, outcome = .error (.malformedScene fault) ∧ fault.message = message

theorem isRefused_of_firstFailure? {value : Value} (fault : SceneFault)
    (refused : firstFailure? (readings "scene" value) = some (.malformedScene fault)) :
    IsRefused (ofValue value) fault.message :=
  ⟨fault, failure?_eq_some.mp (failure?_read _ _ ▸ refused), rfl⟩

theorem readings_of_not_map {given : Value} (notMap : ∀ entries, given ≠ .map entries)
    (place : String) : readings place given = [.refused (.notAnObject place given)] := by
  cases given with
  | map entries => exact absurd rfl (notMap entries)
  | _ => rfl

/-- Of a document that can be read, every node that is replaced by no object, and every vector
of a node that is replaced by numbers other than three, is named by the message of the fault. -/
theorem replaced_node_named {document target : Value} {path : List Nat}
    (accepted : Succeeds (ofValue document)) (reached : valueAt? path document = some target) :
    (∀ given : Value, (∀ entries, given ≠ .map entries) →
      IsRefused (ofValue (replacedAt given path document))
        (placeText path ++ ": expected an object, got " ++ given.kindWord)) ∧
    ∃ entries, target = .map entries ∧
      ∀ (field : String) (items : List Value), IsVectorOf entries field →
        (∀ item ∈ items, Succeeds item.numberDouble) → items.length ≠ 3 →
        IsRefused
          (ofValue (replacedAt (.map (Entries.put field (.list items) entries)) path document))
          (placeText path ++ "." ++ field ++ ": expected 3 numbers, got " ++
            (Value.list items).display) := by
  have readable : firstFailure? (readings "scene" document) = none := by
    rw [← failure?_read]
    exact failure?_eq_none.mpr accepted
  have itself := readable_valueAt? readable reached
  have place : placeAt "scene" path = placeText path := placeAt_eq "scene" path
  rw [place] at itself
  constructor
  · intro given notMap
    refine isRefused_of_firstFailure? (.notAnObject (placeText path) given)
      (firstFailure?_replacedAt readable reached ?_)
    rw [place, readings_of_not_map notMap]
    rfl
  · cases target with
    | map entries =>
        refine ⟨entries, rfl, fun field items vector numbers count => ?_⟩
        have own : firstFailure? (ownReadings (placeText path) entries) = none := by
          rw [readings, firstFailure?_append, Option.or_eq_none_iff] at itself
          exact itself.1
        have failed := firstFailure?_put_vector own vector
          (NumberArray.threeNumbers_of_numbers numbers count (placeText path ++ "." ++ field))
        refine isRefused_of_firstFailure?
          (.notThreeNumbers (placeText path ++ "." ++ field) (.list items))
          (firstFailure?_replacedAt readable reached ?_)
        rw [place, readings, firstFailure?_append, failed]
        rfl
    | _ => cases itself

/-- A light below the second child of a scene. -/
def nestedDocument : Value :=
  .map [("children", .list [.map [],
    .map [("name", .text "lamps"), ("children", .list [.map [("type", .text "PointLight")]])]])]

theorem nestedDocument_named :
    Succeeds (ofValue nestedDocument) ∧
      IsRefused (ofValue (replacedAt (.int 5) [1, 0] nestedDocument))
        "scene.children[1].children[0]: expected an object, got int" ∧
      IsRefused
        (ofValue (replacedAt
          (.map [("type", .text "PointLight"), ("rotation", .list [.int 1, .bool true])])
          [1, 0] nestedDocument))
        "scene.children[1].children[0].rotation: expected 3 numbers, got [1, True]" := by
  have accepted : Succeeds (ofValue nestedDocument) := ⟨_, rfl⟩
  have reached : valueAt? [1, 0] nestedDocument = some (.map [("type", .text "PointLight")]) := rfl
  obtain ⟨objects, entries, same, vectors⟩ := replaced_node_named accepted reached
  cases same
  refine ⟨accepted, objects (.int 5) (fun entries impossible => by cases impossible), ?_⟩
  exact vectors "rotation" [.int 1, .bool true] (.inr (.inr ⟨rfl, rfl⟩)) (by decide +kernel)
    (by decide)

end Node

end SceneComponent
