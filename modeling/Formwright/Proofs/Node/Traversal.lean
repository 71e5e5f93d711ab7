import Formwright.Patch
import Formwright.Proofs.Node.Position
import Mathlib.Algebra.Ring.Nat

/-!
# Walking, searching and counting

The three ways through a tree agree. The walk lists the nodes at all positions in document order,
the search for an id stops at the first node of the walk that has it, whatever ids are repeated,
and the count of a tree is made of the counts of the nodes right below its root.
-/
namespace Formwright.Node

/-! ## The walk, region by region -/

/-- A walk over nodes is the walks over them, one after the other. -/
theorem walkAll_eq_flatMap (nodes : List Node) : walkAll nodes = nodes.flatMap walk := by
  induction nodes with
  | nil => rfl
  | cons node later ih => rw [walkAll, List.flatMap_cons, ih]

/-- A walk over slots is the walks over their nodes, one after the other. -/
theorem walkSlots_eq_flatMap (slots : List (String × List Node)) :
    walkSlots slots = slots.flatMap fun slot => slot.2.flatMap walk := by
  induction slots with
  | nil => rfl
  | cons slot later ih => rw [walkSlots, List.flatMap_cons, ih, walkAll_eq_flatMap]

/-- The nodes right below a node: the children of a container and the nodes in the slots of a
component. -/
def nodesBelow (node : Node) : List Node := node.regions.flatMap Region.nodes

/-- A walk comes to a node and then goes through the nodes right below it. -/
theorem walk_eq_cons (node : Node) : node.walk = node :: node.nodesBelow.flatMap walk := by
  cases node with
  | container envelope body children =>
    rw [walk, walkAll_eq_flatMap, nodesBelow, regions, List.flatMap_singleton]
  | component envelope element slots =>
    rw [walk, walkSlots_eq_flatMap, nodesBelow, regions, List.flatMap_map, List.flatMap_assoc]

/-- A tree has one node more than the trees right below its root have together. -/
theorem count_eq (tree : Node) : tree.count = 1 + (tree.nodesBelow.map count).sum := by
  rw [count, walk_eq_cons, List.length_cons, List.length_flatMap, Nat.add_comm]
  rfl

/-! ## The search -/

mutual

/-- The search for an id finds the first node of the walk that has it. -/
theorem find?_eq (wanted : NodeId) : ∀ tree : Node,
    tree.find? wanted = tree.walk.find? fun node => node.id = wanted
  | .container envelope body children => by
    have own : (container envelope body children).id = envelope.id := rfl
    rw [find?, walk, List.find?_cons, own, findIn?_eq]
    by_cases here : envelope.id = wanted
    · rw [if_pos here, decide_eq_true here]
    · rw [if_neg here, decide_eq_false here]
  | .component envelope element slots => by
    have own : (component envelope element slots).id = envelope.id := rfl
    rw [find?, walk, List.find?_cons, own, findInSlots?_eq]
    by_cases here : envelope.id = wanted
    · rw [if_pos here, decide_eq_true here]
    · rw [if_neg here, decide_eq_false here]

/-- The search in a list of nodes finds the first node of the walk over them that has the id. -/
theorem findIn?_eq (wanted : NodeId) : ∀ nodes : List Node,
    findIn? wanted nodes = (walkAll nodes).find? fun node => node.id = wanted
  | [] => rfl
  | node :: later => by
    rw [findIn?, walkAll, List.find?_append, find?_eq, findIn?_eq]
    cases (walk node).find? fun node => node.id = wanted <;> rfl

/-- The search in slots finds the first node of the walk over them that has the id. -/
theorem findInSlots?_eq (wanted : NodeId) : ∀ slots : List (String × List Node),
    findInSlots? wanted slots = (walkSlots slots).find? fun node => node.id = wanted
  | [] => rfl
  | (_, nodes) :: later => by
    rw [findInSlots?, walkSlots, List.find?_append, findIn?_eq, findInSlots?_eq]
    cases (walkAll nodes).find? fun node => node.id = wanted <;> rfl

end

/-! ## All ways through a tree -/

/-- For every tree, the search for an id gives a node exactly where it is the first of the walk that
has the id, and none exactly where no node of the walk has it; the target of a patch is what the
search for its id gives. The count is the number of nodes of the walk, and one more than the counts
of all nodes right below the root together. And the walk lists the nodes at the positions of the
tree: all positions at which a node stands, each of them once, in document order. -/
theorem traversals_agree (tree : Node) :
    (∀ wanted node, tree.find? wanted = some node ↔ ∃ before after,
      tree.walk = before ++ node :: after ∧ node.id = wanted ∧
        ∀ other ∈ before, other.id ≠ wanted) ∧
    (∀ wanted, tree.find? wanted = none ↔ ∀ node ∈ tree.walk, node.id ≠ wanted) ∧
    (∀ patch : Patch, patch.target? tree = tree.find? patch.targetId) ∧
    tree.count = tree.walk.length ∧
    tree.count = 1 + ((tree.regions.flatMap Region.nodes).map count).sum ∧
    tree.positions.map tree.nodeAt? = tree.walk.map some ∧
    (∀ position, position ∈ tree.positions ↔ (tree.nodeAt? position).isSome) ∧
    tree.positions.Nodup ∧ tree.positions.Pairwise Position.Precedes := by
  refine ⟨fun wanted node => ?_, fun wanted => ?_, fun _ => rfl, rfl, count_eq tree,
    map_nodeAt?_positions tree, fun _ => mem_positions_iff, ?_, pairwise_positions tree⟩
  · rw [find?_eq, List.find?_eq_some_iff_append]
    simp only [decide_eq_true_eq, Bool.not_eq_eq_eq_not, Bool.not_true, decide_eq_false_iff_not]
    constructor
    · rintro ⟨own, before, after, split, first⟩
      exact ⟨before, after, split, own, first⟩
    · rintro ⟨before, after, split, own, first⟩
      exact ⟨own, before, after, split, first⟩
  · rw [find?_eq, List.find?_eq_none]
    simp only [decide_eq_true_eq]
  · exact (pairwise_positions tree).imp Position.Precedes.ne

end Formwright.Node
