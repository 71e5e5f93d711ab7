import Formwright.Node.Basic
import Formwright.Pointer

/-!
# Where nodes stand in a tree

The regions of a node are the lists of nodes that stand right below it, and each has a pointer that
continues the pointer to the node. A tree is walked from its root, with the regions of a node in
document order, and searched for an id in the same order.
-/
namespace Formwright

/-- A list of nodes below a node. -/
structure Region where
  /-- The key of the region: the name of the slot, or the key of the children. -/
  key : String
  /-- Whether the region is a slot of a component. -/
  isSlot : Bool
  nodes : List Node
deriving Repr

namespace Node

/-- The lists of nodes below a node, in document order. -/
def regions : Node → List Region
  | .container _ _ children => [⟨childrenKey, false, children⟩]
  | .component _ _ slots => slots.map fun (key, nodes) => ⟨key, true, nodes⟩

mutual

/-- A node and all nodes below it: every node before those below it, and the regions of a node in
document order. -/
def walk : Node → List Node
  | .container envelope body children =>
    .container envelope body children :: walkAll children
  | .component envelope element slots =>
    .component envelope element slots :: walkSlots slots

/-- The nodes of a list and all nodes below them. -/
def walkAll : List Node → List Node
  | [] => []
  | node :: later => walk node ++ walkAll later

/-- The nodes of some slots and all nodes below them. -/
def walkSlots : List (String × List Node) → List Node
  | [] => []
  | (_, nodes) :: later => walkAll nodes ++ walkSlots later

end

/-- The number of nodes of a tree. -/
def count (node : Node) : Nat := node.walk.length

mutual

/-- The first node with an id, searched from the root downwards without visiting what stands after
it. -/
def find? (wanted : NodeId) : Node → Option Node
  | .container envelope body children =>
    if envelope.id = wanted then some (.container envelope body children)
    else findIn? wanted children
  | .component envelope element slots =>
    if envelope.id = wanted then some (.component envelope element slots)
    else findInSlots? wanted slots

/-- The first node with an id in a list of nodes. -/
def findIn? (wanted : NodeId) : List Node → Option Node
  | [] => none
  | node :: later =>
    match find? wanted node with
    | some found => some found
    | none => findIn? wanted later

/-- The first node with an id in some slots. -/
def findInSlots? (wanted : NodeId) : List (String × List Node) → Option Node
  | [] => none
  | (_, nodes) :: later =>
    match findIn? wanted nodes with
    | some found => some found
    | none => findInSlots? wanted later

end

end Node

/-- The pointer to a region of the node that a pointer names. -/
def Region.pointer (region : Region) (path : String) : String :=
  if region.isSlot then Pointer.push (Pointer.push path Node.slotsKey) region.key
  else Pointer.push path region.key

end Formwright
