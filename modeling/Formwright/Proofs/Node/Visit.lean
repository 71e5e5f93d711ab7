import Formwright.Node.Address

/-!
# Walks over trees

What holds throughout a tree, told by its nodes one by one. And a walk over a tree that notes, for
every node it comes to, the pointer to the node and the nodes that stand above it; without these
notes it is the walk of the tree.
-/
namespace Formwright

namespace Node

variable {holds : Node → Prop}

/-- Something holds of a node and of all nodes below it. -/
def Throughout (holds : Node → Prop) (tree : Node) : Prop := ∀ node ∈ tree.walk, holds node

/-- What holds of the nodes of a walk over a list holds throughout each node of the list. -/
theorem forall_walkAll_iff (nodes : List Node) :
    (∀ node ∈ walkAll nodes, holds node) ↔ ∀ node ∈ nodes, node.Throughout holds := by
  induction nodes with
  | nil => simp [walkAll]
  | cons node later ih => rw [walkAll, List.forall_mem_append, ih, List.forall_mem_cons, Throughout]

/-- What holds of the nodes of a walk over slots holds throughout each node in a slot. -/
theorem forall_walkSlots_iff (slots : List (String × List Node)) :
    (∀ node ∈ walkSlots slots, holds node) ↔
      ∀ slot ∈ slots, ∀ node ∈ slot.2, node.Throughout holds := by
  induction slots with
  | nil => simp [walkSlots]
  | cons slot later ih =>
    rw [walkSlots, List.forall_mem_append, forall_walkAll_iff, ih, List.forall_mem_cons]

/-- What holds throughout a container holds of it and throughout its children. -/
theorem throughout_container_iff (envelope : Envelope) (body : Container) (children : List Node) :
    (container envelope body children).Throughout holds ↔
      holds (container envelope body children) ∧ ∀ child ∈ children, child.Throughout holds := by
  rw [Throughout, walk, List.forall_mem_cons, forall_walkAll_iff]

/-- What holds throughout a component holds of it and throughout the nodes in its slots. -/
theorem throughout_component_iff (envelope : Envelope) (element : Component)
    (slots : List (String × List Node)) :
    (component envelope element slots).Throughout holds ↔
      holds (component envelope element slots) ∧
        ∀ slot ∈ slots, ∀ node ∈ slot.2, node.Throughout holds := by
  rw [Throughout, walk, List.forall_mem_cons, forall_walkSlots_iff]

end Node

/-- What a walk notes of a node that it comes to. -/
structure Visit where
  /-- The pointer to the node. -/
  path : String
  /-- The nodes that the node stands below, the nearest first. -/
  above : List Node
  node : Node

namespace Node

mutual

/-- The visits of a walk over a node and all nodes below it, where the pointer to the node and the
nodes above it are given. -/
def visits (path : String) (above : List Node) : Node → List Visit
  | .container envelope body children =>
    ⟨path, above, .container envelope body children⟩ ::
      visitsFrom (Pointer.push path childrenKey) (.container envelope body children :: above) 0
        children
  | .component envelope element slots =>
    ⟨path, above, .component envelope element slots⟩ ::
      visitsSlots (Pointer.push path slotsKey) (.component envelope element slots :: above) slots

/-- The visits of the nodes of a list, from an index on. -/
def visitsFrom (path : String) (above : List Node) (place : Nat) : List Node → List Visit
  | [] => []
  | node :: later =>
    visits (Pointer.index path place) above node ++ visitsFrom path above (place + 1) later

/-- The visits of the nodes in some slots. -/
def visitsSlots (path : String) (above : List Node) : List (String × List Node) → List Visit
  | [] => []
  | (slot, nodes) :: later =>
    visitsFrom (Pointer.push path slot) above 0 nodes ++ visitsSlots path above later

end

mutual

/-- The nodes visited are those of the walk, in its order. -/
theorem map_node_visits : ∀ (path : String) (above : List Node) (node : Node),
    (node.visits path above).map Visit.node = node.walk
  | path, above, .container envelope body children => by
    rw [visits, walk, List.map_cons, map_node_visitsFrom]
  | path, above, .component envelope element slots => by
    rw [visits, walk, List.map_cons, map_node_visitsSlots]

/-- The nodes visited of a list are those of the walk over the list. -/
theorem map_node_visitsFrom : ∀ (path : String) (above : List Node) (place : Nat)
    (nodes : List Node), (visitsFrom path above place nodes).map Visit.node = walkAll nodes
  | path, above, place, [] => by rw [visitsFrom, walkAll, List.map_nil]
  | path, above, place, node :: later => by
    rw [visitsFrom, walkAll, List.map_append, map_node_visits, map_node_visitsFrom]

/-- The nodes visited of some slots are those of the walk over the slots. -/
theorem map_node_visitsSlots : ∀ (path : String) (above : List Node)
    (slots : List (String × List Node)),
    (visitsSlots path above slots).map Visit.node = walkSlots slots
  | path, above, [] => by rw [visitsSlots, walkSlots, List.map_nil]
  | path, above, (slot, nodes) :: later => by
    rw [visitsSlots, walkSlots, List.map_append, map_node_visitsFrom, map_node_visitsSlots]

end

/-- What holds of every visit by its node holds of every node of the walk. -/
theorem forall_visits_iff {holds : Node → Prop} (path : String) (above : List Node)
    (tree : Node) :
    (∀ visit ∈ tree.visits path above, holds visit.node) ↔ ∀ node ∈ tree.walk, holds node := by
  rw [← map_node_visits path above tree, List.forall_mem_map]

end Node
end Formwright
