/-!
# Sets of names

A finite set of names kept in increasing order of their characters, so that two
sets with the same members are equal and are written the same way.
-/

set_option autoImplicit false

namespace SceneComponent

/-- Names in strictly increasing order. -/
structure NameSet where
  names : List String
  increasing : names.Pairwise (· < ·)

namespace NameSet

/-- Puts a name at its place in an increasing list. -/
def place (name : String) : List String → List String
  | [] => [name]
  | head :: rest =>
      if name < head then name :: head :: rest
      else if name = head then head :: rest
      else head :: place name rest

theorem mem_place {name other : String} {names : List String} :
    other ∈ place name names ↔ other = name ∨ other ∈ names := by
  induction names with
  | nil => simp [place]
  | cons head rest inductionHypothesis =>
      unfold place
      split
      · simp
      · split
        · next same => subst same; simp
        · simp only [List.mem_cons, inductionHypothesis]
          exact or_left_comm

theorem place_increasing {name : String} {names : List String}
    (increasing : names.Pairwise (· < ·)) : (place name names).Pairwise (· < ·) := by
  induction names with
  | nil => simp [place]
  | cons head rest inductionHypothesis =>
      obtain ⟨headFirst, restIncreasing⟩ := List.pairwise_cons.mp increasing
      unfold place
      split
      · next before =>
          refine List.pairwise_cons.mpr ⟨fun other member => ?_, increasing⟩
          rcases List.mem_cons.mp member with rfl | inRest
          · exact before
          · exact String.lt_trans before (headFirst other inRest)
      · next notBefore =>
          split
          · exact increasing
          · next different =>
              refine List.pairwise_cons.mpr
                ⟨fun other member => ?_, inductionHypothesis restIncreasing⟩
              rcases mem_place.mp member with rfl | inRest
              · exact String.not_le.mp fun above =>
                  different (String.le_antisymm above (String.not_lt.mp notBefore))
              · exact headFirst other inRest

def empty : NameSet := ⟨[], List.Pairwise.nil⟩

def insert (name : String) (set : NameSet) : NameSet :=
  ⟨place name set.names, place_increasing set.increasing⟩

def ofList (names : List String) : NameSet := names.foldr insert empty

def filter (keeps : String → Bool) (set : NameSet) : NameSet :=
  ⟨set.names.filter keeps, set.increasing.sublist List.filter_sublist⟩

def contains (set : NameSet) (name : String) : Bool := set.names.contains name

def isEmpty (set : NameSet) : Bool := set.names.isEmpty

instance : Membership String NameSet := ⟨fun set name => name ∈ set.names⟩

theorem mem_insert {name other : String} {set : NameSet} :
    other ∈ set.insert name ↔ other = name ∨ other ∈ set := mem_place

theorem mem_ofList {name : String} {names : List String} :
    name ∈ ofList names ↔ name ∈ names := by
  induction names with
  | nil => simp [ofList, empty, Membership.mem]
  | cons head rest inductionHypothesis =>
      rw [List.mem_cons, ← inductionHypothesis]
      exact mem_insert

theorem mem_filter {name : String} {keeps : String → Bool} {set : NameSet} :
    name ∈ set.filter keeps ↔ name ∈ set ∧ keeps name = true := List.mem_filter

end NameSet

end SceneComponent
