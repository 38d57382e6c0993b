import Mathlib
import SceneComponent.Proofs.Checked
import SceneComponent.Value.Array

/-!
# Vectors among values

An array with a single axis comes from a list without lists in it, whose items are
its numbers one by one.
-/

set_option autoImplicit false

namespace SceneComponent.NumberArray

open Checked

/-- A list has an axis of its own, so that only what is no list has none. -/
theorem not_list_of_shape? {value : Value} (scalar : shape? value = some []) :
    ∀ items, value ≠ .list items := by
  rintro items rfl
  rw [shape?] at scalar
  obtain ⟨shapes, _, joined⟩ := Option.bind_eq_some_iff.mp scalar
  cases shapes with
  | nil => cases joined
  | cons first rest =>
      rw [joinedShape?] at joined
      split at joined <;> cases joined

theorem forall₂_shapes? {items : List Value} {shapes : List (List Nat)}
    (known : shapes? items = some shapes) :
    List.Forall₂ (fun item shape => shape? item = some shape) items shapes := by
  induction items generalizing shapes with
  | nil =>
      cases known
      exact .nil
  | cons item rest inductionHypothesis =>
      rw [shapes?] at known
      split at known
      · next first others itemShape restShapes =>
          cases known
          exact .cons itemShape (inductionHypothesis restShapes)
      · cases known

theorem items_not_lists {items : List Value} {length : Nat}
    (single : shape? (.list items) = some [length]) :
    ∀ item ∈ items, ∀ inner, item ≠ .list inner := by
  rw [shape?] at single
  obtain ⟨shapes, known, joined⟩ := Option.bind_eq_some_iff.mp single
  have scalars : ∀ shape ∈ shapes, shape = [] := by
    cases shapes with
    | nil => simp
    | cons first rest =>
        rw [joinedShape?] at joined
        split at joined
        · next alike =>
            cases joined
            simpa using alike
        · cases joined
  intro item member
  obtain ⟨shape, inShapes, itemShape⟩ := exists_of_mem_right (forall₂_shapes? known).flip member
  have itemScalar : shape? item = some [] := scalars shape inShapes ▸ itemShape
  exact not_list_of_shape? itemScalar

theorem readNumbers_scalar {value : Value} (scalar : ∀ items, value ≠ .list items) :
    readNumbers value = do return [← readNumber value] := by
  cases value with
  | list items => exact absurd rfl (scalar items)
  | _ => rfl

theorem forall₂_readItems {items : List Value} {numbers : List Float}
    (scalars : ∀ item ∈ items, ∀ inner, item ≠ .list inner)
    (success : readItems items = .ok numbers) :
    List.Forall₂ (fun item number => readNumber item = .ok number) items numbers := by
  induction items generalizing numbers with
  | nil =>
      cases success
      exact .nil
  | cons item rest inductionHypothesis =>
      obtain ⟨itemScalar, restScalars⟩ := List.forall_mem_cons.mp scalars
      rw [readItems, readNumbers_scalar itemScalar] at success
      obtain ⟨first, itemRead, success⟩ := bind_eq_ok.mp success
      obtain ⟨others, restRead, success⟩ := bind_eq_ok.mp success
      obtain ⟨number, numberRead, single⟩ := bind_eq_ok.mp itemRead
      cases return_eq_ok.mp single
      cases return_eq_ok.mp success
      exact .cons numberRead (inductionHypothesis restScalars restRead)

/-- The numbers of an array with a single axis are those of the items of a list. -/
theorem forall₂_of_ofValue {items : List Value} {length : Nat} {numbers : List Float}
    (success : ofValue (.list items) = .ok ⟨[length], numbers⟩) :
    List.Forall₂ (fun item number => readNumber item = .ok number) items numbers := by
  unfold ofValue at success
  split at success
  · cases success
  · next shape known =>
      split at success
      · cases success
      · obtain ⟨read, numbersRead, success⟩ := bind_eq_ok.mp success
        cases return_eq_ok.mp success
        exact forall₂_readItems (items_not_lists known) numbersRead

/-! ## Lists of numbers -/

theorem succeeds_readNumbers {value : Value} (number : Succeeds value.numberDouble) :
    Succeeds (readNumbers value) := by
  cases value with
  | bool truth => exact succeeds_bind_pure.mpr number
  | int count => exact succeeds_bind_pure.mpr number
  | float double => exact succeeds_bind_pure.mpr number
  | _ => exact absurd number (not_succeeds_error _)

theorem succeeds_readItems {items : List Value}
    (numbers : ∀ item ∈ items, Succeeds item.numberDouble) : Succeeds (readItems items) := by
  induction items with
  | nil => exact succeeds_ok []
  | cons item rest inductionHypothesis =>
      obtain ⟨itemNumber, restNumbers⟩ := List.forall_mem_cons.mp numbers
      rw [readItems]
      exact (succeeds_bind_iff_and fun first => succeeds_bind_pure).mpr
        ⟨succeeds_readNumbers itemNumber, inductionHypothesis restNumbers⟩

theorem ofValue_ne_beyondRange {items : List Value}
    (numbers : ∀ item ∈ items, Succeeds item.numberDouble) :
    ofValue (.list items) ≠ .error .beyondRange := by
  obtain ⟨read, numbersRead⟩ := succeeds_readItems numbers
  have listRead : readNumbers (.list items) = .ok read := by rw [readNumbers, numbersRead]
  unfold ofValue
  split
  · exact fun impossible => by cases impossible
  · split
    · exact fun impossible => by cases impossible
    · rw [listRead]
      exact fun impossible => by cases impossible

/-- Numbers that are not three are no vector, and a fault of the scene. -/
theorem threeNumbers_of_numbers {items : List Value}
    (numbers : ∀ item ∈ items, Succeeds item.numberDouble) (count : items.length ≠ 3)
    (place : String) :
    (Value.list items).threeNumbers place =
      .error (.malformedScene (.notThreeNumbers place (.list items))) := by
  unfold Value.threeNumbers
  split
  · next read => exact absurd (forall₂_of_ofValue read).length_eq count
  · next beyond => exact absurd beyond (ofValue_ne_beyondRange numbers)
  · rfl

end SceneComponent.NumberArray
