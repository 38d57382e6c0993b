import Mathlib
import SceneComponent.Component.Imports

/-!
# Groups of imports

The groups of a component come from four modules, each met once, and those
without names are left out.  So the names imported from a module are those of its
group, and the module is imported exactly when there are any.
-/

set_option autoImplicit false

namespace SceneComponent.Imports

def allGroups (inventory : Inventory) (style : Style) : List ImportGroup :=
  [⟨scriptModule, scriptNames inventory style⟩,
    ⟨frameworkModule, frameworkNames inventory style⟩,
    ⟨engineModule, engineNames inventory⟩, ⟨helperModule, helperNames inventory⟩]

def importedFrom (source : String) (inventory : Inventory) (style : Style) : List String :=
  namesOf source (groups inventory style)

theorem groups_eq_filter (inventory : Inventory) (style : Style) :
    groups inventory style =
      (allGroups inventory style).filter fun group => !group.names.isEmpty := rfl

theorem sources_allGroups (inventory : Inventory) (style : Style) :
    (allGroups inventory style).map ImportGroup.source =
      [scriptModule, frameworkModule, engineModule, helperModule] := rfl

theorem namesOf_cons (source : String) (group : ImportGroup) (rest : List ImportGroup) :
    namesOf source (group :: rest) =
      if group.source = source then group.names.names else namesOf source rest := by
  unfold namesOf
  rw [List.find?_cons]
  by_cases same : group.source = source
  · simp [same]
  · have apart : (group.source == source) = false := by simpa using same
    rw [apart, if_neg same]

theorem namesOf_eq_nil {source : String} {groups : List ImportGroup}
    (absent : source ∉ groups.map ImportGroup.source) : namesOf source groups = [] := by
  induction groups with
  | nil => rfl
  | cons group rest inductionHypothesis =>
      simp only [List.map_cons, List.mem_cons, not_or] at absent
      rw [namesOf_cons, if_neg (Ne.symm absent.1), inductionHypothesis absent.2]

theorem namesOf_nonempty {groups : List ImportGroup}
    (distinct : (groups.map ImportGroup.source).Nodup) {group : ImportGroup}
    (member : group ∈ groups) :
    namesOf group.source (groups.filter fun group => !group.names.isEmpty) =
      group.names.names := by
  induction groups with
  | nil => cases member
  | cons head rest inductionHypothesis =>
      rw [List.map_cons, List.nodup_cons] at distinct
      rcases List.mem_cons.mp member with rfl | inRest
      · cases empty : group.names.isEmpty with
        | false => rw [List.filter_cons_of_pos (by simp [empty]), namesOf_cons, if_pos rfl]
        | true =>
            have absent : group.source ∉
                (rest.filter fun group => !group.names.isEmpty).map ImportGroup.source := by
              intro member
              obtain ⟨other, kept, same⟩ := List.mem_map.mp member
              exact distinct.1 (List.mem_map.mpr ⟨other, (List.mem_filter.mp kept).1, same⟩)
            rw [List.filter_cons_of_neg (by simp [empty]), namesOf_eq_nil absent]
            exact (List.isEmpty_iff.mp empty).symm
      · have different : head.source ≠ group.source := by
          intro same
          exact distinct.1 (same ▸ List.mem_map_of_mem inRest)
        rw [← inductionHypothesis distinct.2 inRest, List.filter_cons]
        split
        · rw [namesOf_cons, if_neg different]
        · rfl

theorem importedFrom_group {inventory : Inventory} {style : Style} {group : ImportGroup}
    (member : group ∈ allGroups inventory style) :
    importedFrom group.source inventory style = group.names.names := by
  rw [importedFrom, groups_eq_filter]
  refine namesOf_nonempty ?_ member
  rw [sources_allGroups]
  decide

/-- A module is imported from exactly when names of it are. -/
theorem mem_sources_iff {inventory : Inventory} {style : Style} {source : String} :
    source ∈ (groups inventory style).map ImportGroup.source ↔
      importedFrom source inventory style ≠ [] := by
  constructor
  · intro member
    obtain ⟨group, inGroups, rfl⟩ := List.mem_map.mp member
    rw [groups_eq_filter] at inGroups
    obtain ⟨inAll, named⟩ := List.mem_filter.mp inGroups
    rw [importedFrom_group inAll]
    intro none
    simp [NameSet.isEmpty, none] at named
  · intro named
    by_contra absent
    exact named (namesOf_eq_nil absent)

variable (inventory : Inventory) (style : Style)

theorem importedFrom_script :
    importedFrom scriptModule inventory style = (scriptNames inventory style).names :=
  importedFrom_group (List.mem_cons_self ..)

theorem importedFrom_framework :
    importedFrom frameworkModule inventory style = (frameworkNames inventory style).names :=
  importedFrom_group (List.mem_cons_of_mem _ (List.mem_cons_self ..))

theorem importedFrom_engine :
    importedFrom engineModule inventory style = (engineNames inventory).names :=
  importedFrom_group (List.mem_cons_of_mem _ (List.mem_cons_of_mem _ (List.mem_cons_self ..)))

theorem importedFrom_helper :
    importedFrom helperModule inventory style = (helperNames inventory).names :=
  importedFrom_group (List.mem_cons_of_mem _ (List.mem_cons_of_mem _
    (List.mem_cons_of_mem _ (List.mem_cons_self ..))))

theorem mem_engineConstants_of_imported {name : String}
    (member : name ∈ importedFrom engineModule inventory style) : name ∈ engineConstants := by
  rw [importedFrom_engine] at member
  have kept := (NameSet.mem_filter.mp member).2
  exact List.contains_iff_mem.mp kept

end SceneComponent.Imports
