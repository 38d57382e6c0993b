import Mathlib
import SceneComponent.Proofs.Scene.Readings

/-!
# Refusals of documents

A document is refused for a fault of the scene as long as what goes wrong in it is
guarded.  Four kinds of parts are not: numbers and quaternions are converted as they
are given, and so are the tables of parameters and the sequences of children and
clips.  Vectors and colours are guarded but for integers that no double can hold.
The main statement is exact: a failure is no fault of the scene precisely when the
first part that cannot be read is one of these.
-/

set_option autoImplicit false

namespace SceneComponent

open Checked

/-- Whether a failure is a fault of the scene. -/
def Failure.IsFault (failure : Failure) : Prop := ∃ fault, failure = .malformedScene fault

/-! ## Conversions without a guard -/

namespace Checked

variable {α β : Type}

/-- Whether an outcome is no fault of the scene, whatever else it is. -/
def IsUnguarded (outcome : Except Failure α) : Prop :=
  ∀ failure, failure? outcome = some failure → ¬ failure.IsFault

theorem isUnguarded_ok (value : α) : IsUnguarded (.ok value) := by
  intro failure impossible
  cases impossible

theorem isUnguarded_error {failure : Failure} (notFault : ¬ failure.IsFault) :
    IsUnguarded (.error failure : Except Failure α) := by
  intro other same
  cases same
  exact notFault

theorem isUnguarded_bind {first : Except Failure α} {next : α → Except Failure β}
    (start : IsUnguarded first) (later : ∀ value, IsUnguarded (next value)) :
    IsUnguarded (first >>= next) := by
  cases first with
  | error failure => exact start
  | ok value => exact later value

theorem isUnguarded_mapM {step : α → Except Failure β} {items : List α}
    (each : ∀ item, IsUnguarded (step item)) : IsUnguarded (items.mapM step) := by
  induction items with
  | nil => exact isUnguarded_ok []
  | cons item rest inductionHypothesis =>
      rw [List.mapM_cons]
      exact isUnguarded_bind (each item) fun result =>
        isUnguarded_bind inductionHypothesis fun results => isUnguarded_ok _

end Checked

theorem not_isFault_meaningless : ¬ Failure.IsFault .meaningless := by
  rintro ⟨fault, impossible⟩
  cases impossible

theorem not_isFault_unsuitableKind : ¬ Failure.IsFault .unsuitableKind := by
  rintro ⟨fault, impossible⟩
  cases impossible

theorem not_isFault_beyondRange : ¬ Failure.IsFault .beyondRange := by
  rintro ⟨fault, impossible⟩
  cases impossible

theorem not_isFault_lacksOperation : ¬ Failure.IsFault .lacksOperation := by
  rintro ⟨fault, impossible⟩
  cases impossible

theorem Value.isUnguarded_intDouble (number : Int) : IsUnguarded (intDouble number) := by
  unfold intDouble
  cases Binary64.ofInt? number with
  | none => exact isUnguarded_error not_isFault_beyondRange
  | some double => exact isUnguarded_ok double

theorem Value.isUnguarded_numberDouble (value : Value) : IsUnguarded value.numberDouble := by
  unfold numberDouble
  split
  · exact isUnguarded_ok _
  · exact isUnguarded_intDouble _
  · exact isUnguarded_ok _
  · exact isUnguarded_error not_isFault_unsuitableKind

theorem Value.isUnguarded_toDouble (value : Value) : IsUnguarded value.toDouble := by
  unfold toDouble
  split
  · split
    · exact isUnguarded_ok _
    · exact isUnguarded_error not_isFault_meaningless
  · exact isUnguarded_numberDouble _

namespace NumberArray

theorem isUnguarded_readNumber (value : Value) : IsUnguarded (readNumber value) := by
  unfold readNumber
  split
  · exact isUnguarded_ok _
  · exact Value.isUnguarded_toDouble _

mutual

theorem isUnguarded_readNumbers : ∀ value : Value, IsUnguarded (readNumbers value)
  | .list items => by
      rw [readNumbers]
      exact isUnguarded_readItems items
  | .null | .bool _ | .int _ | .float _ | .text _ | .map _ | .constant _ =>
      isUnguarded_bind (isUnguarded_readNumber _) fun number => isUnguarded_ok _

theorem isUnguarded_readItems : ∀ items : List Value, IsUnguarded (readItems items)
  | [] => isUnguarded_ok []
  | item :: rest => by
      rw [readItems]
      exact isUnguarded_bind (isUnguarded_readNumbers item) fun first =>
        isUnguarded_bind (isUnguarded_readItems rest) fun others => isUnguarded_ok _

end

theorem isUnguarded_ofValue (value : Value) : IsUnguarded (ofValue value) := by
  unfold ofValue
  cases shape? value with
  | none => exact isUnguarded_error not_isFault_meaningless
  | some shape =>
      dsimp only
      split
      · exact isUnguarded_error not_isFault_meaningless
      · exact isUnguarded_bind (isUnguarded_readNumbers value) fun numbers => isUnguarded_ok _

end NumberArray

namespace Table

theorem isUnguarded_entryOf (value : Value) : IsUnguarded (entryOf value) := by
  unfold entryOf
  split
  · split
    · exact isUnguarded_ok _
    · exact isUnguarded_error not_isFault_unsuitableKind
  · exact isUnguarded_error not_isFault_meaningless
  · exact isUnguarded_error not_isFault_unsuitableKind

theorem isUnguarded_ofValue (value : Value) : IsUnguarded (ofValue value) := by
  unfold ofValue
  split
  · exact isUnguarded_ok _
  · split
    · split
      · exact isUnguarded_bind (isUnguarded_mapM isUnguarded_entryOf) fun entries =>
          isUnguarded_ok _
      · exact isUnguarded_error not_isFault_unsuitableKind
    · exact isUnguarded_ok _

end Table

/-! ## Parts that escape the guards -/

namespace Reading

/-- The parts whose failure is no fault of the scene. -/
def Escapes : Reading → Prop
  | .refused _ => False
  | .quaternion _ given => ¬ Succeeds (NumberArray.ofValue given)
  | .vector _ given => NumberArray.ofValue given = .error .beyondRange
  | .color given =>
      (∃ items, given = .list items) ∧ NumberArray.ofValue given = .error .beyondRange
  | .side _ => False
  | .number given => ¬ Succeeds given.toDouble
  | .parameters _ given => ¬ Succeeds (Table.ofValue given)
  | .unlisted _ => True
  | .fieldless _ => True

/-- An unguarded conversion escapes exactly when it fails. -/
theorem escapes_unguarded {α : Type} {outcome : Except Failure α}
    (unguarded : IsUnguarded outcome) :
    ¬ Succeeds outcome ↔
      ∃ failure, Checked.failure? outcome = some failure ∧ ¬ failure.IsFault := by
  rw [← failure?_eq_none, ← ne_eq, Option.ne_none_iff_exists']
  exact exists_congr fun failure =>
    ⟨fun failed => ⟨failed, unguarded failure failed⟩, fun failed => failed.1⟩

theorem not_outside_of_fault (fault : SceneFault) :
    ¬ ∃ failure, some (Failure.malformedScene fault) = some failure ∧ ¬ failure.IsFault := by
  rintro ⟨failure, same, notFault⟩
  exact notFault ⟨fault, (Option.some.inj same).symm⟩

/-- A vector escapes its guard exactly when an integer in it is too large. -/
theorem escapes_threeNumbers (given : Value) (place : String) :
    NumberArray.ofValue given = .error .beyondRange ↔
      ∃ failure, Checked.failure? (given.threeNumbers place) = some failure ∧
        ¬ failure.IsFault := by
  unfold Value.threeNumbers
  split
  · next read => simp [read]
  · next beyond => simpa [beyond] using not_isFault_beyondRange
  · next notThree notBeyond => exact iff_of_false notBeyond (not_outside_of_fault _)

/-- Only the channels of a list are read as a vector. -/
theorem escapes_color (given : Value) :
    (∃ items, given = .list items) ∧ NumberArray.ofValue given = .error .beyondRange ↔
      ∃ failure, Checked.failure? (Color.ofValue given) = some failure ∧ ¬ failure.IsFault := by
  unfold Color.ofValue
  cases given with
  | null => simp
  | bool truth => exact iff_of_false (by simp) (not_outside_of_fault _)
  | int packed => simp
  | text content =>
      refine iff_of_false (by simp) ?_
      dsimp only
      cases Decimal.readHexadecimal? (Color.digitsText content) with
      | none => exact not_outside_of_fault _
      | some packed => simp
  | list items =>
      rw [and_iff_right ⟨items, rfl⟩]
      exact escapes_threeNumbers (.list items) "color"
  | float number => exact iff_of_false (by simp) (not_outside_of_fault _)
  | map entries => exact iff_of_false (by simp) (not_outside_of_fault _)
  | constant name => exact iff_of_false (by simp) (not_outside_of_fault _)

theorem isFault_of_side {given : Value} {failure : Failure}
    (failed : Checked.failure? (Side.ofValue given) = some failure) : failure.IsFault := by
  unfold Side.ofValue at failed
  cases given with
  | int number => cases failed
  | bool truth => cases failed
  | text name =>
      dsimp only at failed
      cases known : Side.ofName? name with
      | none =>
          rw [known] at failed
          exact ⟨_, (Option.some.inj failed).symm⟩
      | some side =>
          rw [known] at failed
          cases failed
  | _ => exact ⟨_, (Option.some.inj failed).symm⟩

theorem escapes_quaternion (node : String) (given : Value) :
    ¬ Succeeds (NumberArray.ofValue given) ↔
      ∃ failure, Reading.failure? (.quaternion node given) = some failure ∧
        ¬ failure.IsFault := by
  unfold failure?
  dsimp only
  split
  · next failure unread =>
      rw [unread]
      exact escapes_unguarded (unread ▸ NumberArray.isUnguarded_ofValue given)
  · next read => simp [read, Succeeds]
  · next array notFour read =>
      rw [read]
      exact iff_of_false (not_not_intro (succeeds_ok array)) (not_outside_of_fault _)

/-- The parts named are those whose failure, if they have one, is no fault. -/
theorem escapes_iff (part : Reading) :
    part.Escapes ↔ ∃ failure, part.failure? = some failure ∧ ¬ failure.IsFault := by
  cases part with
  | refused fault => exact iff_of_false id (not_outside_of_fault fault)
  | quaternion node given => exact escapes_quaternion node given
  | vector place given => exact escapes_threeNumbers given place
  | color given => exact escapes_color given
  | side given =>
      refine iff_of_false id ?_
      rintro ⟨failure, failed, notFault⟩
      exact notFault (isFault_of_side failed)
  | number given => exact escapes_unguarded given.isUnguarded_toDouble
  | parameters typeName given => exact escapes_unguarded (Table.isUnguarded_ofValue given)
  | unlisted given => exact iff_of_true trivial ⟨_, rfl, not_isFault_unsuitableKind⟩
  | fieldless given => exact iff_of_true trivial ⟨_, rfl, not_isFault_lacksOperation⟩

end Reading

/-! ## Models -/

namespace Model

theorem ofValue_eq_error_iff {document : Value} {failure : Failure} :
    ofValue document = .error failure ↔
      ∃ before part after, readings document = before ++ part :: after ∧
        part.failure? = some failure ∧ ∀ earlier ∈ before, earlier.failure? = none := by
  rw [← failure?_eq_some, failure?_ofValue]
  exact List.findSome?_eq_some_iff

/-- Whatever document is given, a model is read or the failure is a fault of the scene,
exactly unless the first part that cannot be read escapes the guards. -/
theorem refused_for_faults_iff (document : Value) :
    (∀ failure, ofValue document = .error failure → failure.IsFault) ↔
      ∀ before part after, readings document = before ++ part :: after →
        (∀ earlier ∈ before, earlier.failure? = none) → ¬ part.Escapes := by
  constructor
  · intro faults before part after parts readable escaping
    obtain ⟨failure, failed, notFault⟩ := (Reading.escapes_iff part).mp escaping
    exact notFault (faults failure
      (ofValue_eq_error_iff.mpr ⟨before, part, after, parts, failed, readable⟩))
  · intro guarded failure refused
    obtain ⟨before, part, after, parts, failed, readable⟩ := ofValue_eq_error_iff.mp refused
    by_contra notFault
    exact guarded before part after parts readable
      ((Reading.escapes_iff part).mpr ⟨failure, failed, notFault⟩)

/-- A quaternion with a component that is no number, in an otherwise empty scene. -/
def wordyDocument : Value :=
  .map [("scene", .map [("quaternion", .list [.text "a", .int 0, .int 0, .int 1])])]

theorem wordyDocument_escapes :
    ¬ ∀ failure, ofValue wordyDocument = .error failure → failure.IsFault := by
  intro faults
  have refused : ofValue wordyDocument = .error .meaningless := rfl
  exact not_isFault_meaningless (faults _ refused)

end Model

end SceneComponent
