import Mathlib
import SceneComponent.Clips
import SceneComponent.Proofs.Inventory.Contents

/-!
# First places of clips

A clip stands first at an index when it is there and not before.  The scan that keeps the
clips already seen finds exactly these places, in increasing order; so every clip of a list
has one slot, wherever and however often it is listed.
-/

set_option autoImplicit false

namespace SceneComponent.Clip

open Checked

/-- Whether a clip is at an index of a list and at no smaller one. -/
def StandsFirst (clips : List Clip) (index : Nat) (clip : Clip) : Prop :=
  clips[index]? = some clip ∧ ∀ earlier ∈ clips.take index, earlier.identity ≠ clip.identity

theorem standsFirst_zero {clip first : Clip} {rest : List Clip} :
    StandsFirst (first :: rest) 0 clip ↔ clip = first := by
  simp [StandsFirst, eq_comm]

theorem standsFirst_succ {clip first : Clip} {rest : List Clip} {index : Nat} :
    StandsFirst (first :: rest) (index + 1) clip ↔
      StandsFirst rest index clip ∧ first.identity ≠ clip.identity := by
  simp only [StandsFirst, List.getElem?_cons_succ, List.take_succ_cons, List.forall_mem_cons]
  tauto

theorem StandsFirst.lt_length {clips : List Clip} {index : Nat} {clip : Clip}
    (first : StandsFirst clips index clip) : index < clips.length :=
  (List.getElem?_eq_some_iff.mp first.1).1

theorem StandsFirst.not_lt {clips : List Clip} {index later : Nat} {clip other : Clip}
    (first : StandsFirst clips index clip) (laterFirst : StandsFirst clips later other)
    (same : clip.identity = other.identity) : ¬ index < later := by
  intro before
  have inFront : clip ∈ clips.take later := by
    refine List.mem_of_getElem? (i := index) ?_
    rw [List.getElem?_take_of_lt before]
    exact first.1
  exact laterFirst.2 clip inFront same

/-- A clip stands first at one place only. -/
theorem StandsFirst.unique {clips : List Clip} {index otherIndex : Nat} {clip other : Clip}
    (first : StandsFirst clips index clip) (otherFirst : StandsFirst clips otherIndex other)
    (same : clip.identity = other.identity) : index = otherIndex ∧ clip = other := by
  have sameIndex : index = otherIndex :=
    Nat.le_antisymm (Nat.not_lt.mp (otherFirst.not_lt first same.symm))
      (Nat.not_lt.mp (first.not_lt otherFirst same))
  subst sameIndex
  exact ⟨rfl, Option.some.inj (first.1.symm.trans otherFirst.1)⟩

theorem exists_standsFirst {clips : List Clip} {clip : Clip} (member : clip ∈ clips) :
    ∃ index other, StandsFirst clips index other ∧ other.identity = clip.identity := by
  induction clips with
  | nil => cases member
  | cons first rest inductionHypothesis =>
      by_cases same : first.identity = clip.identity
      · exact ⟨0, first, standsFirst_zero.mpr rfl, same⟩
      · rcases List.mem_cons.mp member with rfl | inRest
        · exact absurd rfl same
        · obtain ⟨index, other, otherFirst, otherSame⟩ := inductionHypothesis inRest
          refine ⟨index + 1, other, standsFirst_succ.mpr ⟨otherFirst, ?_⟩, otherSame⟩
          rwa [otherSame]

/-! ## The scan -/

/-- The scan finds the first places of the clips that it has not seen before. -/
theorem mem_firstPlacesFrom {seen : List Nat} {start : Nat} {clips : List Clip}
    {place : Nat × Clip} :
    place ∈ firstPlacesFrom seen start clips ↔
      ∃ offset, place.1 = start + offset ∧ StandsFirst clips offset place.2 ∧
        place.2.identity ∉ seen := by
  induction clips generalizing seen start with
  | nil => simp [firstPlacesFrom, StandsFirst]
  | cons first rest inductionHypothesis =>
      -- the place of the head, or one behind it, whose index the scan has moved on by one
      have split : (∃ offset, place.1 = start + offset ∧
          StandsFirst (first :: rest) offset place.2 ∧ place.2.identity ∉ seen) ↔
            place = (start, first) ∧ first.identity ∉ seen ∨
              ∃ offset, place.1 = start + 1 + offset ∧ StandsFirst rest offset place.2 ∧
                first.identity ≠ place.2.identity ∧ place.2.identity ∉ seen := by
        constructor
        · rintro ⟨offset, index, stands, unseen⟩
          cases offset with
          | zero =>
              have same := standsFirst_zero.mp stands
              exact .inl ⟨Prod.ext index same, same ▸ unseen⟩
          | succ offset =>
              obtain ⟨restStands, apart⟩ := standsFirst_succ.mp stands
              exact .inr ⟨offset, by omega, restStands, apart, unseen⟩
        · rintro (⟨rfl, unseen⟩ | ⟨offset, index, stands, apart, unseen⟩)
          · exact ⟨0, rfl, standsFirst_zero.mpr rfl, unseen⟩
          · exact ⟨offset + 1, by omega, standsFirst_succ.mpr ⟨stands, apart⟩, unseen⟩
      rw [split, firstPlacesFrom]
      by_cases known : first.identity ∈ seen
      · rw [if_pos (List.contains_iff_mem.mpr known), inductionHypothesis]
        constructor
        · rintro ⟨offset, index, stands, unseen⟩
          refine .inr ⟨offset, index, stands, ?_, unseen⟩
          intro same
          exact unseen (same ▸ known)
        · rintro (⟨_, unseen⟩ | ⟨offset, index, stands, _, unseen⟩)
          · exact absurd known unseen
          · exact ⟨offset, index, stands, unseen⟩
      · rw [if_neg (fun contains => known (List.contains_iff_mem.mp contains)), List.mem_cons,
          inductionHypothesis]
        simp only [List.mem_cons, not_or, known, not_false_eq_true, and_true, ne_comm]

theorem mem_firstPlaces {clips : List Clip} {place : Nat × Clip} :
    place ∈ firstPlaces clips ↔ StandsFirst clips place.1 place.2 := by
  rw [firstPlaces, mem_firstPlacesFrom]
  simp

theorem pairwise_firstPlacesFrom (seen : List Nat) (start : Nat) (clips : List Clip) :
    (firstPlacesFrom seen start clips).Pairwise fun first second => first.1 < second.1 := by
  induction clips generalizing seen start with
  | nil => exact List.Pairwise.nil
  | cons clip rest inductionHypothesis =>
      rw [firstPlacesFrom]
      split
      · exact inductionHypothesis seen (start + 1)
      · refine List.pairwise_cons.mpr ⟨?_, inductionHypothesis _ (start + 1)⟩
        intro place member
        obtain ⟨offset, index, _⟩ := mem_firstPlacesFrom.mp member
        dsimp only
        omega

/-! ## Slots -/

/-- A slot plays a clip from its first place, under the identifier of its name; the place
stands in for a name of which nothing is left. -/
structure Slot.Plays (clips : List Clip) (slot : Slot) (clip : Clip) : Prop where
  first : StandsFirst clips slot.index clip
  name : ∃ given, clip.name.toName = .ok given ∧
    slot.name = Identifier.ofName given "Animation" (some slot.index)

/-- Slots in the order of their places, one for each clip of a list. -/
structure PlaysEach (clips : List Clip) (slots : List Slot) : Prop where
  increasing : slots.Pairwise fun first second => first.index < second.index
  inside : ∀ slot ∈ slots, slot.index < clips.length
  spelled : ∀ slot ∈ slots, Identifier.spells slot.name.toList = true
  plays : ∀ slot ∈ slots, ∃ clip, slot.Plays clips clip
  once : ∀ clip ∈ clips, ∃! slot, slot ∈ slots ∧
    ∃ played, slot.Plays clips played ∧ played.identity = clip.identity

theorem Slot.Plays.unique {clips : List Clip} {slot other : Slot} {clip otherClip : Clip}
    (plays : slot.Plays clips clip) (otherPlays : other.Plays clips otherClip)
    (same : clip.identity = otherClip.identity) : slot = other := by
  obtain ⟨sameIndex, rfl⟩ := plays.first.unique otherPlays.first same
  obtain ⟨given, text, name⟩ := plays.name
  obtain ⟨otherGiven, otherText, otherName⟩ := otherPlays.name
  obtain rfl : given = otherGiven := Except.ok.inj (text.symm.trans otherText)
  cases slot
  cases other
  dsimp only at sameIndex name otherName
  rw [name, otherName, sameIndex]

theorem slotAt_eq_ok {place : Nat × Clip} {slot : Slot} :
    slotAt place = .ok slot ↔ slot.index = place.1 ∧
      ∃ given, place.2.name.toName = .ok given ∧
        slot.name = Identifier.ofName given "Animation" (some place.1) := by
  unfold slotAt
  rw [bind_eq_ok]
  constructor
  · rintro ⟨given, text, made⟩
    cases return_eq_ok.mp made
    exact ⟨rfl, given, text, rfl⟩
  · rintro ⟨index, given, text, name⟩
    refine ⟨given, text, return_eq_ok.mpr ?_⟩
    cases slot
    dsimp only at index name
    rw [name, index]

/-- Slots are made of any list of clips that have names. -/
theorem succeeds_slots {clips : List Clip}
    (named : ∀ clip ∈ clips, Succeeds clip.name.toName) : Succeeds (slots clips) := by
  refine succeeds_mapM.mpr fun place member => succeeds_bind_pure.mpr ?_
  exact named _ (List.mem_of_getElem? (mem_firstPlaces.mp member).1)

theorem playsEach_of_slots {clips : List Clip} {slots : List Slot}
    (success : Clip.slots clips = .ok slots) : PlaysEach clips slots := by
  have made := mapM_eq_ok.mp success
  have plays : ∀ slot ∈ slots, ∃ clip, slot.Plays clips clip := by
    intro slot member
    obtain ⟨place, inPlaces, slotMade⟩ := exists_of_mem_right made member
    obtain ⟨index, name⟩ := slotAt_eq_ok.mp slotMade
    have stands := mem_firstPlaces.mp inPlaces
    rw [← index] at stands name
    exact ⟨place.2, stands, name⟩
  refine {
    increasing := ?_
    inside := fun slot member => (plays slot member).elim fun _ played => played.first.lt_length
    spelled := spells_of_slots success
    plays := plays
    once := ?_ }
  -- slots are made place by place, so that their indices are in the order of the scan
  · have indices : slots.map Slot.index = (firstPlaces clips).map Prod.fst := by
      have matched : List.Forall₂ (fun place slot => place = slot)
          ((firstPlaces clips).map Prod.fst) (slots.map Slot.index) :=
        List.forall₂_map_left_iff.mpr (List.forall₂_map_right_iff.mpr
          (made.imp fun place slot slotMade => (slotAt_eq_ok.mp slotMade).1.symm))
      exact (List.forall₂_eq_eq_eq ▸ matched).symm
    have ordered := List.pairwise_map.mpr (pairwise_firstPlacesFrom [] 0 clips)
    change ((firstPlaces clips).map Prod.fst).Pairwise (· < ·) at ordered
    rw [← indices] at ordered
    exact List.pairwise_map.mp ordered
  · intro clip member
    obtain ⟨index, first, stands, same⟩ := exists_standsFirst member
    have inPlaces : (index, first) ∈ firstPlaces clips := mem_firstPlaces.mpr stands
    obtain ⟨slot, inSlots, slotMade⟩ :=
      exists_of_mem_right (List.Forall₂.flip made) inPlaces
    obtain ⟨slotIndex, name⟩ := slotAt_eq_ok.mp slotMade
    dsimp only at slotIndex name
    rw [← slotIndex] at stands name
    have slotPlays : slot.Plays clips first := ⟨stands, name⟩
    refine ⟨slot, ⟨inSlots, first, slotPlays, same⟩, ?_⟩
    rintro other ⟨_, played, otherPlays, otherSame⟩
    exact otherPlays.unique slotPlays (otherSame.trans same.symm)

end SceneComponent.Clip
