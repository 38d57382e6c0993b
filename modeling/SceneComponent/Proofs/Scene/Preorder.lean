import SceneComponent.Scene.Node

/-!
# The nodes below the root

A visit with a stack lists a tree in pre-order, whatever the shape of the tree,
so the nodes that a survey goes through are those of the recursive list without
the root.

The visit is also followed turn by turn.  A turn moves one node from what is
pending to what is listed, so that it keeps what the whole traversal comes to and
leaves one node less to be listed; a traversal is over after as many turns as its
pending trees have nodes.
-/

set_option autoImplicit false

namespace SceneComponent.Node

/-- The nodes below a node: the trees of its children in order. -/
def properDescendants (node : Node) : List Node := preorderAll node.children

theorem visited_eq_preorder (node : Node) : node.visited = node.preorder := by
  rw [visited, visitStack_eq, preorderAll, preorderAll, List.append_nil]

theorem descendants_eq_proper (node : Node) : node.descendants = node.properDescendants := by
  rw [descendants, visited_eq_preorder, preorder_eq, List.drop_one, List.tail_cons, properDescendants]

theorem preorderAll_eq_flatMap (nodes : List Node) :
    preorderAll nodes = nodes.flatMap preorder := by
  induction nodes with
  | nil => rfl
  | cons node rest inductionHypothesis =>
      rw [preorderAll, List.flatMap_cons, inductionHypothesis]

theorem length_visitStack (stack : List Node) : (visitStack stack).length = countAll stack := by
  fun_induction visitStack stack with
  | case1 => rfl
  | case2 node stack inductionHypothesis =>
      rw [List.length_cons, inductionHypothesis, countAll_append, countAll, count_eq]
      omega

theorem countAll_reverse (nodes : List Node) : countAll nodes.reverse = countAll nodes := by
  induction nodes with
  | nil => rfl
  | cons node rest inductionHypothesis =>
      rw [List.reverse_cons, countAll_append, inductionHypothesis]
      simp only [countAll]
      omega

/-! ## Turns of a traversal -/

/-- A traversal under way: the trees that are pending, the next one last, and the
nodes that are listed. -/
structure Traversal where
  pending : List Node
  listed : List Node

namespace Traversal

def ofRoot (root : Node) : Traversal := { pending := [root], listed := [] }

/-- Takes the last tree that is pending, lists its root and leaves its children
pending, the first of them last. -/
def turn? (traversal : Traversal) : Option Traversal :=
  traversal.pending.getLast?.map fun node =>
    { pending := traversal.pending.dropLast ++ node.children.reverse
      listed := traversal.listed ++ [node] }

def turns? : (count : Nat) → Traversal → Option Traversal
  | 0, traversal => some traversal
  | count + 1, traversal => traversal.turn?.bind (turns? count)

/-- What is listed when nothing is pending any more. -/
def outcome (traversal : Traversal) : List Node :=
  traversal.listed ++ visitStack traversal.pending.reverse

/-- How many nodes are still to be listed. -/
def remaining (traversal : Traversal) : Nat := countAll traversal.pending

variable {traversal next : Traversal}

theorem turn?_eq_some_iff :
    traversal.turn? = some next ↔ ∃ front node, traversal.pending = front ++ [node] ∧
      next = { pending := front ++ node.children.reverse
               listed := traversal.listed ++ [node] } := by
  constructor
  · intro turned
    obtain ⟨node, last, rfl⟩ := Option.map_eq_some_iff.mp turned
    obtain ⟨front, cut⟩ := List.getLast?_eq_some_iff.mp last
    exact ⟨front, node, cut, by rw [cut, List.dropLast_concat]⟩
  · rintro ⟨front, node, cut, rfl⟩
    rw [turn?, cut, List.getLast?_concat, List.dropLast_concat, Option.map_some]

theorem exists_turn (pending : traversal.pending ≠ []) :
    ∃ next, traversal.turn? = some next := by
  rcases List.eq_nil_or_concat traversal.pending with empty | ⟨front, node, cut⟩
  · exact absurd empty pending
  · exact ⟨_, turn?_eq_some_iff.mpr ⟨front, node, by rw [cut, List.concat_eq_append], rfl⟩⟩

/-- A turn changes nothing of what the traversal comes to. -/
theorem outcome_of_turn (turned : traversal.turn? = some next) :
    next.outcome = traversal.outcome := by
  obtain ⟨front, node, cut, rfl⟩ := turn?_eq_some_iff.mp turned
  simp only [outcome, cut]
  -- read from the end, the stack has the children in order on top
  rw [List.reverse_append, List.reverse_reverse, List.reverse_append, List.reverse_singleton,
    List.singleton_append, visitStack, List.append_assoc, List.singleton_append]

theorem remaining_of_turn (turned : traversal.turn? = some next) :
    next.remaining + 1 = traversal.remaining := by
  obtain ⟨front, node, cut, rfl⟩ := turn?_eq_some_iff.mp turned
  simp only [remaining, cut, countAll_append, countAll_reverse, countAll, count_eq]
  omega

theorem pending_eq_nil (ended : traversal.remaining = 0) : traversal.pending = [] := by
  by_cases pending : traversal.pending = []
  · exact pending
  · obtain ⟨next, turned⟩ := exists_turn pending
    have fewer := remaining_of_turn turned
    omega

/-- Every traversal is over after as many turns as nodes remain, and has then listed what
it comes to. -/
theorem turns?_remaining (traversal : Traversal) :
    turns? traversal.remaining traversal =
      some { pending := [], listed := traversal.outcome } := by
  -- on what remains, which falls by one at every turn while the outcome stays
  induction count : traversal.remaining generalizing traversal with
  | zero =>
      have empty := pending_eq_nil count
      cases traversal with
      | mk pending listed =>
          cases empty
          simp [turns?, outcome, visitStack]
  | succ count inductionHypothesis =>
      have pending : traversal.pending ≠ [] := by
        intro empty
        rw [remaining, empty, countAll] at count
        cases count
      obtain ⟨next, turned⟩ := exists_turn pending
      have fewer := remaining_of_turn turned
      rw [turns?, turned, Option.bind_some, inductionHypothesis next (by omega),
        outcome_of_turn turned]

end Traversal

/-- The traversal of a tree is over after as many turns as the tree has nodes, and has then
listed its recursive pre-order; the nodes below the root are that list without its first. -/
theorem traversal_lists_preorder (root : Node) :
    (Traversal.ofRoot root).turns? root.count = some { pending := [], listed := root.visited } ∧
      root.visited = root.preorder ∧
      root.preorder = root :: root.children.flatMap preorder ∧
      root.descendants = root.preorder.tail ∧
      root.descendants.length + 1 = root.count := by
  have remaining : (Traversal.ofRoot root).remaining = root.count := by
    simp only [Traversal.remaining, Traversal.ofRoot, countAll, Nat.add_zero]
  have ended := Traversal.turns?_remaining (.ofRoot root)
  rw [remaining] at ended
  have unfolded : root.preorder = root :: root.children.flatMap preorder := by
    rw [preorder_eq, preorderAll_eq_flatMap]
  have below : root.descendants = root.preorder.tail := by
    rw [descendants, visited_eq_preorder, List.drop_one]
  have length : root.visited.length = root.count := by
    rw [visited, length_visitStack, countAll, countAll, Nat.add_zero]
  refine ⟨ended, visited_eq_preorder root, unfolded, below, ?_⟩
  rw [below, ← length, visited_eq_preorder, unfolded, List.tail_cons, List.length_cons]

end SceneComponent.Node
