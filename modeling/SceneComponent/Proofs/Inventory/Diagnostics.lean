import Mathlib
import SceneComponent.Proofs.Inventory.Partition

/-!
# Records of surveys

What a survey records of a node depends on the node alone: on the type name of its geometry
and the number of its materials if it is a mesh, on its label if it is left over, and nothing
is recorded of any other node.  `Visit.records_of_ofNode` is the step lemma of a survey and
`Visit.records_of_ofNodes` its run lemma.  The labels can be read back from the wording of
the records, and they are those of the inventory.
-/

set_option autoImplicit false

namespace SceneComponent

open Checked Text

/-- Something to be said of a node, before it is worded. -/
inductive Diagnosis where
  | bareGeometry (typeName : String)
  | severalMaterials (count : Nat)
  | unsupported (word label : String)
  deriving DecidableEq, Repr

namespace Diagnosis

def message : Diagnosis → String
  | .bareGeometry typeName =>
      "No constructor args for " ++ typeName ++ ", emitting bare <" ++
        GeometryEntry.tagOf typeName ++ ">"
  | .severalMaterials count =>
      "Multi-material mesh: keeping the first of " ++ toString count ++ " materials"
  | .unsupported word label =>
      "Unsupported " ++ word ++ " " ++ label ++ " left to the scene primitive"

theorem message_bareGeometry (typeName : String) : (bareGeometry typeName).message =
    "No constructor args for " ++ typeName ++ ", emitting bare <" ++
      GeometryEntry.tagOf typeName ++ ">" := rfl

theorem message_severalMaterials (count : Nat) : (severalMaterials count).message =
    "Multi-material mesh: keeping the first of " ++ toString count ++ " materials" := rfl

theorem message_unsupported (word label : String) : (unsupported word label).message =
    "Unsupported " ++ word ++ " " ++ label ++ " left to the scene primitive" := rfl

def record (diagnosis : Diagnosis) : Record := .detail diagnosis.message

end Diagnosis

namespace Surface

/-- The number of materials on a surface. -/
def count : Surface → Nat
  | .none => 0
  | .single _ => 1
  | .several materials => materials.length

def diagnoses (surface : Surface) : List Diagnosis :=
  if 1 < surface.count then [.severalMaterials surface.count] else []

end Surface

/-- A geometry that is not built from parameters is bare. -/
def Geometry.diagnoses (geometry : Geometry) : List Diagnosis :=
  match geometry.typeName with
  | .text typeName =>
      if GeometryKind.ofTypeName typeName = .other then [.bareGeometry typeName] else []
  | _ => []

namespace Node

/-- The word for a node that is left over. -/
def leftoverWord (node : Node) : String :=
  match node.kind with
  | .light => "light"
  | .camera => "camera"
  | _ => "node"

def diagnoses (node : Node) : List Diagnosis :=
  if node.kind = .mesh then (node.geometry.getD {}).diagnoses ++ node.surface.diagnoses
  else if node.plays .leftover then [.unsupported node.leftoverWord node.label]
  else []

theorem diagnoses_of_leftover {node : Node} (settled : node.role? = .ok .leftover) :
    node.diagnoses = [.unsupported node.leftoverWord node.label] := by
  have notMesh : node.kind ≠ .mesh := by
    intro mesh
    rw [role?, mesh] at settled
    cases settled
  rw [diagnoses, if_neg notMesh, if_pos (plays_iff.mpr settled)]

theorem diagnoses_of_other {node : Node} {role : Role} (settled : node.role? = .ok role)
    (notMesh : node.kind ≠ .mesh) (notLeftover : role ≠ .leftover) : node.diagnoses = [] := by
  have elsewhere : node.plays .leftover = false := by
    simpa [plays_eq_decide settled] using notLeftover
  rw [diagnoses, if_neg notMesh, elsewhere, if_neg Bool.false_ne_true]

end Node

/-! ## The step of a survey -/

theorem GeometryEntry.records_of_ofGeometry {geometry : Geometry} {places : Value}
    {entry : GeometryEntry} {records : List Record}
    (made : ofGeometry geometry places = .ok (entry, records)) :
    records = geometry.diagnoses.map Diagnosis.record := by
  obtain ⟨typeName, named, _, cases⟩ := ofGeometry_inversion made
  rw [Geometry.diagnoses, named]
  dsimp only
  obtain ⟨other, _, rfl⟩ | ⟨names, known, _, rfl⟩ := cases
  · rw [if_pos other]
    rfl
  · have parametric : GeometryKind.ofTypeName typeName ≠ .other := fun other => by
      rw [GeometryKind.argumentNames?_eq_none.mpr other] at known
      cases known
    rw [if_neg parametric]
    rfl

theorem MaterialEntry.severalRecords_eq (surface : Surface) :
    severalRecords surface = surface.diagnoses.map Diagnosis.record := by
  cases surface with
  | none => rfl
  | single material => rfl
  | several materials =>
      rw [severalRecords, Surface.diagnoses, Surface.count]
      split <;> rfl

theorem MeshEntry.records_of_ofNode {node : Node} {index : Nat} {places shadows : Value}
    {entry : MeshEntry} {records : List Record}
    (made : MeshEntry.ofNode node index places shadows = .ok (entry, records)) :
    records =
      ((node.geometry.getD {}).diagnoses ++ node.surface.diagnoses).map Diagnosis.record := by
  unfold MeshEntry.ofNode at made
  obtain ⟨name, _, made⟩ := bind_eq_ok.mp made
  obtain ⟨⟨geometry, geometryRecords⟩, shaped, made⟩ := bind_eq_ok.mp made
  obtain ⟨⟨material, materialRecords⟩, covered, made⟩ := bind_eq_ok.mp made
  obtain ⟨transform, _, made⟩ := bind_eq_ok.mp made
  cases return_eq_ok.mp made
  unfold MaterialEntry.ofSurface at covered
  obtain ⟨kind, _, covered⟩ := bind_eq_ok.mp covered
  obtain ⟨properties, _, covered⟩ := bind_eq_ok.mp covered
  cases return_eq_ok.mp covered
  rw [List.map_append, GeometryEntry.records_of_ofGeometry shaped,
    MaterialEntry.severalRecords_eq]

namespace Visit

/-- A node that is no mesh is left over, or nothing is recorded of it. -/
theorem eq_leftover_or_silent {places shadows : Value} {meshCount : Nat} {node : Node}
    {visit : Visit} (notMesh : node.kind ≠ .mesh)
    (success : ofNode places shadows meshCount node = .ok visit) :
    visit = leftover node.leftoverWord node ∨
      visit.records = [] ∧ ∀ label, visit.finding ≠ .leftover label := by
  unfold ofNode at success
  cases kind : node.kind with
  | mesh => exact absurd kind notMesh
  | light =>
      simp only [kind] at success
      obtain ⟨given, _, success⟩ := bind_eq_ok.mp success
      cases return_eq_ok.mp success
      cases given with
      | none => exact .inl (by rw [Node.leftoverWord, kind]; rfl)
      | some entry => exact .inr ⟨rfl, fun label impossible => by cases impossible⟩
  | camera =>
      simp only [kind] at success
      obtain ⟨given, _, success⟩ := bind_eq_ok.mp success
      cases return_eq_ok.mp success
      cases given with
      | none => exact .inl (by rw [Node.leftoverWord, kind]; rfl)
      | some entry => exact .inr ⟨rfl, fun label impossible => by cases impossible⟩
  | group =>
      simp only [kind] at success
      cases success
      exact .inr ⟨rfl, fun label impossible => by cases impossible⟩
  | other =>
      simp only [kind] at success
      cases success
      exact .inl (by rw [Node.leftoverWord, kind])

theorem records_of_ofNode {places shadows : Value} {meshCount : Nat} {node : Node}
    {visit : Visit} (success : ofNode places shadows meshCount node = .ok visit) :
    visit.records = node.diagnoses.map Diagnosis.record := by
  by_cases mesh : node.kind = .mesh
  · rw [Node.diagnoses, if_pos mesh]
    unfold ofNode at success
    simp only [mesh] at success
    obtain ⟨⟨entry, records⟩, made, success⟩ := bind_eq_ok.mp success
    cases return_eq_ok.mp success
    exact MeshEntry.records_of_ofNode made
  · obtain ⟨role, settled, found, _⟩ := ofNode_finds success
    rcases eq_leftover_or_silent mesh success with rfl | ⟨silent, notLabel⟩
    · cases found with
      | leftover =>
          rw [Node.diagnoses_of_leftover settled]
          rfl
    · have notLeftover : role ≠ .leftover := by
        rintro rfl
        generalize visit.finding = finding at found notLabel
        cases found with
        | leftover => exact notLabel _ rfl
      rw [silent, Node.diagnoses_of_other settled mesh notLeftover]
      rfl

theorem records_of_ofNodes {places shadows : Value} {meshCount : Nat} {nodes : List Node}
    {visits : List Visit} (success : ofNodes places shadows meshCount nodes = .ok visits) :
    visits.flatMap Visit.records = (nodes.flatMap Node.diagnoses).map Diagnosis.record := by
  induction nodes generalizing meshCount visits with
  | nil =>
      cases success
      rfl
  | cons node rest inductionHypothesis =>
      unfold ofNodes at success
      obtain ⟨visit, visited, success⟩ := bind_eq_ok.mp success
      obtain ⟨others, remaining, success⟩ := bind_eq_ok.mp success
      cases return_eq_ok.mp success
      rw [List.flatMap_cons, List.flatMap_cons, List.map_append, records_of_ofNode visited,
        inductionHypothesis remaining]

end Visit

theorem Inventory.records_of_survey {root : Node} {clips : List Clip} {places shadows : Value}
    {inventory : Inventory} {records : List Record}
    (success : survey root clips places shadows = .ok (inventory, records)) :
    records = (root.properDescendants.flatMap Node.diagnoses).map Diagnosis.record := by
  unfold survey at success
  obtain ⟨visits, visited, success⟩ := bind_eq_ok.mp success
  obtain ⟨slots, _, success⟩ := bind_eq_ok.mp success
  cases return_eq_ok.mp success
  rw [Node.descendants_eq_proper] at visited
  exact Visit.records_of_ofNodes visited

/-! ## Labels read back -/

namespace Text

/-- What a text has between a beginning and an end. -/
def inside? (front back text : String) : Option String := do
  let rest ← afterPattern? front.toList text.toList
  let middle ← afterPattern? back.toList.reverse rest.reverse
  return String.ofList middle.reverse

theorem inside?_append (front middle back : String) :
    inside? front back (front ++ middle ++ back) = some middle := by
  have opened : afterPattern? front.toList (front ++ middle ++ back).toList =
      some (middle ++ back).toList := by
    rw [afterPattern?_eq_some_iff, String.append_assoc, String.toList_append]
  have closed : afterPattern? back.toList.reverse (middle ++ back).toList.reverse =
      some middle.toList.reverse := by
    rw [afterPattern?_eq_some_iff, String.toList_append, List.reverse_append]
  rw [inside?, opened]
  simp only [Option.bind_eq_bind, Option.bind_some, closed, List.reverse_reverse,
    String.ofList_toList]
  rfl

/-- Nothing is inside a text that begins otherwise. -/
theorem inside?_of_departing {front back start text : String}
    (begins : start.toList <+: text.toList) (longer : ¬ front.toList <+: start.toList)
    (shorter : ¬ start.toList <+: front.toList) : inside? front back text = none := by
  have departs : afterPattern? front.toList text.toList = none := by
    refine Option.eq_none_iff_forall_ne_some.mpr fun after found => ?_
    have opens : front.toList <+: text.toList := ⟨after, (afterPattern?_eq_some_iff.mp found).symm⟩
    exact (List.prefix_or_prefix_of_prefix opens begins).elim longer shorter
  rw [inside?, departs]
  rfl

end Text

namespace Record

/-- The words for nodes that are left over. -/
def leftoverWords : List String := ["light", "camera", "node"]

/-- The label that a record names as unsupported, if it names one. -/
def unsupportedLabel? (record : Record) : Option String :=
  leftoverWords.findSome? fun word =>
    inside? ("Unsupported " ++ word ++ " ") " left to the scene primitive" record.message

/-- A record that begins otherwise names no label. -/
theorem unsupportedLabel?_of_departing {record : Record} (start : String)
    (begins : start.toList <+: record.message.toList)
    (apart : ∀ word ∈ leftoverWords, ¬ ("Unsupported " ++ word ++ " ").toList <+: start.toList ∧
      ¬ start.toList <+: ("Unsupported " ++ word ++ " ").toList) :
    record.unsupportedLabel? = none := by
  refine List.findSome?_eq_none_iff.mpr fun word member => ?_
  obtain ⟨longer, shorter⟩ := apart word member
  exact inside?_of_departing begins longer shorter

end Record

namespace Diagnosis

theorem unsupportedLabel?_unsupported {word label : String} (known : word ∈ Record.leftoverWords) :
    (unsupported word label).record.unsupportedLabel? = some label := by
  have own : inside? ("Unsupported " ++ word ++ " ") " left to the scene primitive"
      (unsupported word label).message = some label := inside?_append _ label _
  have others : ∀ other ∈ Record.leftoverWords, other ≠ word →
      inside? ("Unsupported " ++ other ++ " ") " left to the scene primitive"
        (unsupported word label).message = none := by
    have apart : ∀ word ∈ Record.leftoverWords, ∀ other ∈ Record.leftoverWords, other ≠ word →
        ¬ ("Unsupported " ++ other ++ " ").toList <+: ("Unsupported " ++ word ++ " ").toList := by
      decide +kernel
    intro other member different
    have begins : ("Unsupported " ++ word ++ " ").toList <+:
        (unsupported word label).message.toList := by
      refine ⟨label.toList ++ " left to the scene primitive".toList, ?_⟩
      rw [message_unsupported]
      simp only [String.toList_append, List.append_assoc]
    exact inside?_of_departing begins (apart word known other member different)
      (apart other member word known (Ne.symm different))
  have distinct : Record.leftoverWords.Nodup := by decide
  obtain ⟨front, back, split⟩ := List.append_of_mem known
  rw [Record.unsupportedLabel?, List.findSome?_eq_some_iff]
  refine ⟨front, word, back, split, own, fun other inFront => others other ?_ ?_⟩
  · rw [split]
    exact List.mem_append_left _ inFront
  · rintro rfl
    rw [split] at distinct
    exact (List.nodup_append.mp distinct).2.2 other inFront other (List.mem_cons_self ..) rfl

theorem unsupportedLabel?_bareGeometry (typeName : String) :
    (bareGeometry typeName).record.unsupportedLabel? = none := by
  refine Record.unsupportedLabel?_of_departing "No constructor args for " ?_ (by decide +kernel)
  rw [record, Record.detail, message_bareGeometry]
  simp only [String.toList_append, List.append_assoc]
  exact List.prefix_append _ _

theorem unsupportedLabel?_severalMaterials (count : Nat) :
    (severalMaterials count).record.unsupportedLabel? = none := by
  refine Record.unsupportedLabel?_of_departing "Multi-material mesh: keeping the first of " ?_
    (by decide +kernel)
  rw [record, Record.detail, message_severalMaterials]
  simp only [String.toList_append, List.append_assoc]
  exact List.prefix_append _ _

end Diagnosis

namespace Node

theorem leftoverWord_mem (node : Node) : node.leftoverWord ∈ Record.leftoverWords := by
  unfold leftoverWord
  split <;> decide

theorem plays_leftover_of_mesh {node : Node} (mesh : node.kind = .mesh) :
    node.plays .leftover = false := by
  have settled : node.role? = .ok .mesh := by rw [role?, mesh]
  rw [plays_eq_decide settled]
  rfl

/-- A label is read exactly off the record of a node that is left over. -/
theorem labels_of_diagnoses (node : Node) :
    (node.diagnoses.map Diagnosis.record).filterMap Record.unsupportedLabel? =
      if node.plays .leftover then [node.label] else [] := by
  unfold diagnoses
  by_cases mesh : node.kind = .mesh
  · rw [if_pos mesh, plays_leftover_of_mesh mesh, if_neg Bool.false_ne_true, List.filterMap_map,
      List.filterMap_eq_nil_iff]
    intro diagnosis member
    rcases List.mem_append.mp member with ofGeometry | ofSurface
    · unfold Geometry.diagnoses at ofGeometry
      split at ofGeometry
      · split at ofGeometry
        · obtain rfl := List.mem_singleton.mp ofGeometry
          exact Diagnosis.unsupportedLabel?_bareGeometry _
        · cases ofGeometry
      · cases ofGeometry
    · unfold Surface.diagnoses at ofSurface
      split at ofSurface
      · obtain rfl := List.mem_singleton.mp ofSurface
        exact Diagnosis.unsupportedLabel?_severalMaterials _
      · cases ofSurface
  · rw [if_neg mesh]
    split
    · rw [List.map_singleton, List.filterMap_cons_some
        (Diagnosis.unsupportedLabel?_unsupported node.leftoverWord_mem), List.filterMap_nil]
    · rfl

end Node

/-- The labels of the records of a survey are those of the nodes left over, in order. -/
theorem Inventory.labels_of_survey {root : Node} {clips : List Clip} {places shadows : Value}
    {inventory : Inventory} {records : List Record}
    (success : survey root clips places shadows = .ok (inventory, records)) :
    records.filterMap Record.unsupportedLabel? = inventory.leftovers := by
  rw [records_of_survey success, leftovers_of_survey success]
  unfold Finding.FoundAlong.ofRole
  induction root.properDescendants with
  | nil => rfl
  | cons node rest inductionHypothesis =>
      rw [List.flatMap_cons, List.map_append, List.filterMap_append, Node.labels_of_diagnoses,
        inductionHypothesis, List.filter_cons]
      split <;> rfl

end SceneComponent
