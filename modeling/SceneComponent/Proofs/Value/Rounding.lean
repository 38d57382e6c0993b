import Mathlib
import SceneComponent.Color
import SceneComponent.Proofs.Checked
import SceneComponent.Proofs.Decimal.Magnitude

/-!
# When rounding and colouring succeed

With a usual number of decimal places every number is rounded, infinite and
undefined ones included.  A colour is written in hexadecimal digits exactly when
none of its channels is undefined.
-/

set_option autoImplicit false

namespace SceneComponent

open Checked

namespace Value

/-- A number of decimal places up to a million. -/
def ArePlaces (places : Value) : Prop :=
  ∃ count, places.toInteger = .ok count ∧ 0 ≤ count ∧ count ≤ 1000000

theorem arePlaces_usual : ArePlaces usualPlaces := ⟨3, rfl, by decide, by decide⟩

def IsTriple (value : Value) : Prop := ∃ x y z, value = .triple x y z

variable {places : Value}

theorem roundDouble_of_finite {x : Float} {count : Int} (finite : Binary64.isFinite x = true)
    (integer : places.toInteger = .ok count) (nonnegative : 0 ≤ count)
    (bounded : count ≤ 1000000) : roundDouble x places = .ok (Decimal.roundFinite x count) := by
  have allowed := Decimal.placesFault?_eq_none (of_decide_eq_true finite) nonnegative bounded
  rw [roundDouble, if_pos finite, integer, ok_bind, allowed]

theorem succeeds_roundDouble (usual : places.ArePlaces) (number : Float) :
    Succeeds (roundDouble number places) := by
  obtain ⟨count, integer, nonnegative, bounded⟩ := usual
  by_cases finite : Binary64.isFinite number = true
  · rw [roundDouble_of_finite finite integer nonnegative bounded]
    exact succeeds_ok _
  · rw [roundDouble, if_neg finite]
    exact succeeds_ok _

theorem succeeds_round (usual : places.ArePlaces) {value : Value} :
    Succeeds (value.round places) ↔ Succeeds value.numberDouble := by
  rw [round, succeeds_bind_iff_and fun number => iff_of_true (succeeds_roundDouble usual number)
    trivial, and_true]

theorem succeeds_roundUnlessDefault (usual : places.ArePlaces) {value standard : Value}
    (number : Succeeds value.numberDouble) (standardNumber : Succeeds standard.numberDouble) :
    Succeeds (value.roundUnlessDefault standard places) := by
  obtain ⟨rounded, first⟩ := (succeeds_round usual).mpr number
  obtain ⟨roundedStandard, second⟩ := (succeeds_round usual).mpr standardNumber
  rw [roundUnlessDefault, first, second]
  exact succeeds_ok _

theorem ofValue_triple (x y z : Float) :
    NumberArray.ofValue (.triple x y z) = .ok ⟨[3], [x, y, z]⟩ := rfl

theorem components_triple (x y z : Float) : (triple x y z).components = .ok (x, y, z) := rfl

theorem succeeds_roundComponents (usual : places.ArePlaces) (x y z : Float) :
    Succeeds ((triple x y z).roundComponents places) := by
  obtain ⟨first, firstRounded⟩ := succeeds_roundDouble usual x
  obtain ⟨second, secondRounded⟩ := succeeds_roundDouble usual y
  obtain ⟨third, thirdRounded⟩ := succeeds_roundDouble usual z
  rw [roundComponents, components_triple, ok_bind]
  simp only [firstRounded, secondRounded, thirdRounded, ok_bind]
  exact succeeds_ok _

end Value

namespace Color

/-- A colour of three channels, none of which is undefined. -/
def IsDefined (color : Value) : Prop :=
  ∃ x y z, color = .triple x y z ∧
    Binary64.isNaN x = false ∧ Binary64.isNaN y = false ∧ Binary64.isNaN z = false

theorem succeeds_channelByte {channel : Float} :
    Succeeds (channelByte channel) ↔ Binary64.isNaN channel = false := by
  unfold channelByte
  cases Binary64.isNaN channel with
  | true => simpa using not_succeeds_error _
  | false => simpa using succeeds_ok _

theorem succeeds_channelDigits {channels : List Float} :
    Succeeds (channelDigits channels) ↔
      ∀ channel ∈ channels, Binary64.isNaN channel = false := by
  induction channels with
  | nil =>
      constructor
      · simp
      · exact fun _ => succeeds_ok []
  | cons channel rest inductionHypothesis =>
      rw [channelDigits, List.forall_mem_cons, ← inductionHypothesis, ← succeeds_channelByte]
      exact succeeds_bind_iff_and fun byte => succeeds_bind_pure

theorem succeeds_toHex {color : Value} (triple : color.IsTriple) :
    Succeeds (toHex color) ↔ IsDefined color := by
  obtain ⟨x, y, z, rfl⟩ := triple
  have digits : Succeeds (toHex (.triple x y z)) ↔ Succeeds (channelDigits [x, y, z]) := by
    rw [toHex, Value.ofValue_triple, ok_bind]
    exact succeeds_bind_pure
  rw [digits, succeeds_channelDigits]
  simp only [List.forall_mem_cons, List.not_mem_nil, false_implies, implies_true, and_true]
  constructor
  · rintro ⟨first, second, third⟩
    exact ⟨x, y, z, rfl, first, second, third⟩
  · rintro ⟨x', y', z', same, first, second, third⟩
    cases same
    exact ⟨first, second, third⟩

end Color

end SceneComponent
