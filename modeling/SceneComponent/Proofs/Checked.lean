import Mathlib
import SceneComponent.Failure

/-!
# Checked steps

Every operation that can fail is a chain of steps, each of which ends the chain
with a failure or hands a value to the next.  The statements below take such a
chain apart: it succeeds exactly when all its steps do.
-/

set_option autoImplicit false

namespace SceneComponent.Checked

variable {α β : Type}

theorem bind_eq_ok {first : Except Failure α} {next : α → Except Failure β} {result : β} :
    (first >>= next) = .ok result ↔ ∃ value, first = .ok value ∧ next value = .ok result := by
  cases first with
  | error failure => simp [bind, Except.bind]
  | ok value => simp [bind, Except.bind]

theorem return_eq_ok {value result : α} :
    (pure value : Except Failure α) = .ok result ↔ value = result := by
  simp [pure, Except.pure]

theorem ok_bind (value : α) (next : α → Except Failure β) : (.ok value >>= next) = next value :=
  rfl

theorem error_bind (failure : Failure) (next : α → Except Failure β) :
    (.error failure >>= next) = .error failure := rfl

theorem mapped_bind {γ : Type} (read : β → γ) (first : Except Failure α)
    (next : α → Except Failure β) :
    (first >>= next).map read = first >>= fun value => (next value).map read := by
  cases first <;> rfl

theorem bind_mapped {γ : Type} (read : α → β) (first : Except Failure α)
    (next : β → Except Failure γ) :
    first.map read >>= next = first >>= fun value => next (read value) := by
  cases first <;> rfl

theorem map_return (read : α → β) (value : α) :
    (pure value : Except Failure α).map read = pure (read value) := rfl

/-- Two chains of which the same is read fail alike, or both come to their ends. -/
theorem cases_of_map_eq {γ : Type} {first : Except Failure α} {second : Except Failure β}
    {read : α → γ} {other : β → γ} (same : first.map read = second.map other) :
    (∃ failure, first = .error failure ∧ second = .error failure) ∨
      ∃ value result, first = .ok value ∧ second = .ok result ∧ read value = other result := by
  cases first with
  | error failure =>
      cases second with
      | error later =>
          cases same
          exact .inl ⟨failure, rfl, rfl⟩
      | ok result => cases same
  | ok value =>
      cases second with
      | error later => cases same
      | ok result => exact .inr ⟨value, result, rfl, rfl, Except.ok.inj same⟩

/-- A chain that was run to its end, with what is read off its value. -/
theorem ok_of_map_toOption {outcome : Except Failure α} {read : α → β} {result : β}
    (computed : outcome.toOption.map read = some result) :
    ∃ value, outcome = .ok value ∧ read value = result := by
  cases outcome with
  | error failure => cases computed
  | ok value => exact ⟨value, rfl, Option.some.inj computed⟩

theorem mapM_eq_ok {step : α → Except Failure β} {items : List α} {results : List β} :
    items.mapM step = .ok results ↔
      List.Forall₂ (fun item result => step item = .ok result) items results := by
  induction items generalizing results with
  | nil =>
      rw [List.mapM_nil, return_eq_ok, List.forall₂_nil_left_iff]
      exact eq_comm
  | cons item rest inductionHypothesis =>
      rw [List.mapM_cons, List.forall₂_cons_left_iff]
      constructor
      · intro success
        obtain ⟨result, stepped, success⟩ := bind_eq_ok.mp success
        obtain ⟨others, remaining, success⟩ := bind_eq_ok.mp success
        exact ⟨result, others, stepped, inductionHypothesis.mp remaining,
          (return_eq_ok.mp success).symm⟩
      · rintro ⟨result, others, stepped, remaining, rfl⟩
        exact bind_eq_ok.mpr ⟨result, stepped,
          bind_eq_ok.mpr ⟨others, inductionHypothesis.mpr remaining, rfl⟩⟩

theorem exists_of_mem_right {related : α → β → Prop} {left : List α}
    {right : List β} (pairs : List.Forall₂ related left right) {item : β}
    (member : item ∈ right) : ∃ other ∈ left, related other item := by
  induction pairs with
  | nil => cases member
  | cons headRelated _ inductionHypothesis =>
      rcases List.mem_cons.mp member with rfl | inRest
      · exact ⟨_, List.mem_cons_self .., headRelated⟩
      · obtain ⟨other, inOthers, otherRelated⟩ := inductionHypothesis inRest
        exact ⟨other, List.mem_cons_of_mem _ inOthers, otherRelated⟩

def Succeeds (outcome : Except Failure α) : Prop := ∃ value, outcome = .ok value

theorem succeeds_ok (value : α) : Succeeds (.ok value) := ⟨value, rfl⟩

theorem not_succeeds_error (failure : Failure) :
    ¬ Succeeds (.error failure : Except Failure α) := by
  rintro ⟨value, impossible⟩
  cases impossible

instance : DecidablePred (Succeeds (α := α))
  | .ok value => isTrue (succeeds_ok value)
  | .error failure => isFalse (not_succeeds_error failure)

theorem succeeds_map {first : Except Failure α} {read : α → β} :
    Succeeds (first.map read) ↔ Succeeds first := by
  cases first with
  | error failure => exact iff_of_false (not_succeeds_error failure) (not_succeeds_error failure)
  | ok value => exact iff_of_true (succeeds_ok _) (succeeds_ok _)

theorem succeeds_bind {first : Except Failure α} {next : α → Except Failure β} :
    Succeeds (first >>= next) ↔ ∃ value, first = .ok value ∧ Succeeds (next value) := by
  constructor
  · rintro ⟨result, success⟩
    obtain ⟨value, started, ended⟩ := bind_eq_ok.mp success
    exact ⟨value, started, result, ended⟩
  · rintro ⟨value, started, result, ended⟩
    exact ⟨result, bind_eq_ok.mpr ⟨value, started, ended⟩⟩

/-- A last step that only puts the value into place cannot fail. -/
theorem succeeds_bind_pure {first : Except Failure α} {place : α → β} :
    Succeeds (do return place (← first)) ↔ Succeeds first := by
  rw [succeeds_bind]
  exact exists_congr fun value => and_iff_left (succeeds_ok _)

/-- Two steps succeed together when the outcome of the second one does not depend on what
the first one hands over. -/
theorem succeeds_bind_iff_and {first : Except Failure α} {next : α → Except Failure β}
    {condition : Prop} (later : ∀ value, Succeeds (next value) ↔ condition) :
    Succeeds (first >>= next) ↔ Succeeds first ∧ condition := by
  rw [succeeds_bind]
  constructor
  · rintro ⟨value, started, ended⟩
    exact ⟨⟨value, started⟩, (later value).mp ended⟩
  · rintro ⟨⟨value, started⟩, holds⟩
    exact ⟨value, started, (later value).mpr holds⟩

theorem succeeds_mapM {step : α → Except Failure β} {items : List α} :
    Succeeds (items.mapM step) ↔ ∀ item ∈ items, Succeeds (step item) := by
  induction items with
  | nil => simp [Succeeds, pure, Except.pure]
  | cons item rest inductionHypothesis =>
      rw [List.mapM_cons, List.forall_mem_cons, ← inductionHypothesis]
      exact succeeds_bind_iff_and fun result => succeeds_bind_pure

/-! ## What stops a chain -/

def failure? : Except Failure α → Option Failure
  | .ok _ => none
  | .error failure => some failure

@[simp]
theorem failure?_ok (value : α) : failure? (.ok value) = none := rfl

@[simp]
theorem failure?_error (failure : Failure) :
    failure? (.error failure : Except Failure α) = some failure := rfl

theorem failure?_eq_some {outcome : Except Failure α} {failure : Failure} :
    failure? outcome = some failure ↔ outcome = .error failure := by
  cases outcome with
  | error other => simp
  | ok value => simp

theorem failure?_eq_none {outcome : Except Failure α} :
    failure? outcome = none ↔ Succeeds outcome := by
  cases outcome with
  | error failure => exact iff_of_false (by simp) (not_succeeds_error failure)
  | ok value => exact iff_of_true rfl (succeeds_ok value)

theorem failure?_bind_pure (first : Except Failure α) (place : α → β) :
    failure? (do return place (← first)) = failure? first := by
  cases first <;> rfl

/-- Of two steps the first one that fails decides, when the failure of the second does not
depend on what the first hands over. -/
theorem failure?_bind {first : Except Failure α} {next : α → Except Failure β}
    {later : Option Failure} (constant : ∀ value, failure? (next value) = later) :
    failure? (first >>= next) = (failure? first).or later := by
  cases first with
  | error failure => rfl
  | ok value => exact constant value

theorem failure?_mapM {step : α → Except Failure β} {items : List α} :
    failure? (items.mapM step) = items.findSome? fun item => failure? (step item) := by
  induction items with
  | nil => rfl
  | cons item rest inductionHypothesis =>
      rw [List.mapM_cons, failure?_bind fun result => failure?_bind_pure _ _,
        inductionHypothesis, List.findSome?_cons]
      cases failure? (step item) <;> rfl

end SceneComponent.Checked
