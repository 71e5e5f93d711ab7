import Formwright.Proofs.Json.Keyed
import Formwright.Proofs.Json.NumberText
import Formwright.Proofs.Node.Traversal
import Formwright.Proofs.Pointer.Resolution
import Formwright.Proofs.Validation.Trace

/-!
# Addresses of nodes

The pointer to a node is made on the way down to it, of the pointers to the regions that are gone
through and the places in them. In the written tree it names the written node, no other position of
the tree has it, whatever the slots are called, and the check of shape comes to the nodes with just
these pointers.
-/
namespace Formwright
open Pointer

/-! ## Regions -/

/-- The steps from a node to a region of it. -/
def Region.steps (region : Region) : List String :=
  if region.isSlot then [Node.slotsKey, region.key] else [region.key]

/-- The pointer to a region has the steps to the node and those from there to the region. -/
theorem Region.steps?_pointer {path : String} {steps : List String}
    (made : steps? path = some steps) (region : Region) :
    steps? (region.pointer path) = some (steps ++ region.steps) := by
  rw [pointer, Region.steps]
  split
  · rw [steps?_push (steps?_push made _), List.append_assoc]
    rfl
  · rw [steps?_push made]

/-- The steps to regions of one node tell the keys of the regions, whatever steps come after. -/
theorem Region.key_eq_of_steps {node : Node} {region other : Region} {rest rest' : List String}
    (listed : region ∈ node.regions) (listed' : other ∈ node.regions)
    (same : region.steps ++ rest = other.steps ++ rest') :
    region.key = other.key ∧ rest = rest' := by
  cases node with
  | container envelope body children =>
    obtain rfl := List.mem_singleton.mp listed
    obtain rfl := List.mem_singleton.mp listed'
    exact ⟨rfl, List.append_cancel_left same⟩
  | component envelope element slots =>
    obtain ⟨slot, -, rfl⟩ := List.mem_map.mp listed
    obtain ⟨slot', -, rfl⟩ := List.mem_map.mp listed'
    simpa [Region.steps] using same

namespace Node

/-- No two regions of a node of the tree have the same key: the slots of a component are a table,
with one entry for a name. -/
def IsKeyed (tree : Node) : Prop := tree.Throughout fun node => (node.regions.map Region.key).Nodup

variable {node child : Node} {region : Region}

/-- A tree is keyed where its root is and the trees right below the root are. -/
theorem isKeyed_iff : node.IsKeyed ↔ (node.regions.map Region.key).Nodup ∧
    ∀ region ∈ node.regions, ∀ child ∈ region.nodes, child.IsKeyed := by
  rw [IsKeyed, Throughout, walk_eq_cons, List.forall_mem_cons]
  simp only [nodesBelow, List.mem_flatMap]
  constructor
  · rintro ⟨here, below⟩
    exact ⟨here, fun region listed child held other inside =>
      below other ⟨child, ⟨region, listed, held⟩, inside⟩⟩
  · rintro ⟨here, below⟩
    refine ⟨here, ?_⟩
    rintro other ⟨child, ⟨region, listed, held⟩, inside⟩
    exact below region listed child held other inside

/-- Nodes are written one by one. -/
theorem toJsonAll_eq_map (nodes : List Node) : toJsonAll nodes = nodes.map toJson := by
  induction nodes with
  | nil => rfl
  | cons node later ih => rw [toJsonAll, List.map_cons, ih]

/-- Under the name of a slot stand the nodes of the slot. -/
theorem lookup_toJsonSlots (slots : List (String × List Node)) (key : String) :
    (toJsonSlots slots).lookup key =
      (slots.lookup key).map fun nodes => .array (toJsonAll nodes) := by
  induction slots with
  | nil => rfl
  | cons slot later ih =>
    obtain ⟨name, nodes⟩ := slot
    rw [toJsonSlots, lookup_cons_ite, lookup_cons_ite, ih]
    split <;> rfl

/-- The pointer to a region names the list of the nodes of the region. -/
theorem at?_pointer {document : Json} {path : String}
    (named : document.at? path = some node.toJson) (keyed : (node.regions.map Region.key).Nodup)
    (listed : region ∈ node.regions) :
    document.at? (region.pointer path) = some (.array (toJsonAll region.nodes)) := by
  rw [toJson_eq] at named
  cases node with
  | container envelope body children =>
    obtain rfl := List.mem_singleton.mp listed
    rw [Region.pointer, if_neg Bool.false_ne_true, Json.at?_push named, lookup_children]
  | component envelope element slots =>
    obtain ⟨slot, held, rfl⟩ := List.mem_map.mp listed
    have names : (slots.map Prod.fst).Nodup := by
      rwa [regions, List.map_map] at keyed
    have used : ¬slots.isEmpty = true := by
      rw [List.isEmpty_iff]
      exact List.ne_nil_of_mem held
    have table : document.at? (Pointer.push path slotsKey) =
        some (.object (toJsonSlots slots)) := by
      rw [Json.at?_push named, lookup_slots, if_neg used]
    rw [Region.pointer, if_pos rfl, Json.at?_push table, lookup_toJsonSlots,
      lookup_of_mem names held]
    rfl

end Node

/-! ## Turns -/

namespace Visit

variable {visit next found : Visit} {turn : Nat × Nat} {position : Position} {document : Json}

/-- Where the regions of the nodes of a tree are told by their keys, so are those further down. -/
theorem isKeyed_of_turn? (keyed : visit.node.IsKeyed) (taken : visit.turn? turn = some next) :
    next.node.IsKeyed := by
  obtain ⟨region, child, chosen, held, rfl⟩ := turn?_eq_some_iff.mp taken
  exact (Node.isKeyed_iff.mp keyed).2 region (List.mem_of_getElem? chosen) child
    (List.mem_of_getElem? held)

/-- A turn leads from the pointer to a written node to the pointer to a written node. -/
theorem at?_of_turn? (named : document.at? visit.path = some visit.node.toJson)
    (keyed : visit.node.IsKeyed) (taken : visit.turn? turn = some next) :
    document.at? next.path = some next.node.toJson := by
  obtain ⟨region, child, chosen, held, rfl⟩ := turn?_eq_some_iff.mp taken
  have nodes := Node.at?_pointer named (Node.isKeyed_iff.mp keyed).1 (List.mem_of_getElem? chosen)
  rw [Json.at?_index nodes, Node.toJsonAll_eq_map, List.getElem?_map, held]
  rfl

/-- Turns lead from the pointer to a written node to the pointer to a written node. -/
theorem at?_of_follow? (named : document.at? visit.path = some visit.node.toJson)
    (keyed : visit.node.IsKeyed) (led : visit.follow? position = some found) :
    document.at? found.path = some found.node.toJson := by
  induction position generalizing visit with
  | nil =>
    cases led
    exact named
  | cons turn later ih =>
    obtain ⟨next, taken, onward⟩ := follow?_cons_eq_some_iff.mp led
    exact ih (at?_of_turn? named keyed taken) (isKeyed_of_turn? keyed taken) onward

/-! ## Steps -/

variable {steps : List String}

/-- A turn adds the steps to a region and the one to a place in it. -/
theorem steps?_of_turn? (made : steps? visit.path = some steps)
    (taken : visit.turn? turn = some next) : ∃ region, visit.node.regions[turn.1]? = some region ∧
      steps? next.path = some (steps ++ (region.steps ++ [toString turn.2])) := by
  obtain ⟨region, child, chosen, held, rfl⟩ := turn?_eq_some_iff.mp taken
  refine ⟨region, chosen, ?_⟩
  rw [steps?_index (region.steps?_pointer made), List.append_assoc]

/-- Turns add steps, and at least one if any is taken. -/
theorem exists_steps_of_follow? (made : steps? visit.path = some steps)
    (led : visit.follow? position = some found) :
    ∃ added, steps? found.path = some (steps ++ added) ∧ (added = [] → position = []) := by
  induction position generalizing visit steps with
  | nil =>
    cases led
    exact ⟨[], by rw [made, List.append_nil], fun _ => rfl⟩
  | cons turn later ih =>
    obtain ⟨next, taken, onward⟩ := follow?_cons_eq_some_iff.mp led
    obtain ⟨region, -, there⟩ := steps?_of_turn? made taken
    obtain ⟨added, whole, -⟩ := ih there onward
    refine ⟨region.steps ++ [toString turn.2] ++ added, ?_, fun none => ?_⟩
    · rw [whole, List.append_assoc]
    · simp at none

/-- Turns from one node are told by the pointers to where they lead. -/
theorem eq_of_path_eq {first second : Visit} {other : Position} (keyed : visit.node.IsKeyed)
    (made : steps? visit.path = some steps) (led : visit.follow? position = some first)
    (led' : visit.follow? other = some second) (same : first.path = second.path) :
    position = other := by
  -- The pointers have the same steps, and these are read turn by turn from the common node on.
  induction position generalizing visit other steps with
  | nil =>
    cases led
    obtain ⟨added, whole, unmoved⟩ := exists_steps_of_follow? made led'
    rw [← same, made, Option.some.injEq] at whole
    exact (unmoved (List.append_right_eq_self.mp whole.symm)).symm
  | cons turn later ih =>
    cases other with
    | nil =>
      cases led'
      obtain ⟨added, whole, unmoved⟩ := exists_steps_of_follow? made led
      rw [same, made, Option.some.injEq] at whole
      exact unmoved (List.append_right_eq_self.mp whole.symm)
    | cons turn' later' =>
      obtain ⟨next, taken, onward⟩ := follow?_cons_eq_some_iff.mp led
      obtain ⟨next', taken', onward'⟩ := follow?_cons_eq_some_iff.mp led'
      obtain ⟨region, chosen, there⟩ := steps?_of_turn? made taken
      obtain ⟨region', chosen', there'⟩ := steps?_of_turn? made taken'
      obtain ⟨added, whole, -⟩ := exists_steps_of_follow? there onward
      obtain ⟨added', whole', -⟩ := exists_steps_of_follow? there' onward'
      have spelled : region.steps ++ (toString turn.2 :: added) =
          region'.steps ++ (toString turn'.2 :: added') := by
        rw [same, whole', Option.some.injEq] at whole
        simpa using whole.symm
      obtain ⟨keys, places⟩ := Region.key_eq_of_steps (List.mem_of_getElem? chosen)
        (List.mem_of_getElem? chosen') spelled
      have numbers : turn.1 = turn'.1 := by
        have inside : turn.1 < (visit.node.regions.map Region.key).length := by
          rw [List.length_map]
          exact (List.getElem?_eq_some_iff.mp chosen).1
        refine (List.getElem?_inj inside (Node.isKeyed_iff.mp keyed).1).mp ?_
        rw [List.getElem?_map, List.getElem?_map, chosen, chosen', Option.map_some,
          Option.map_some, keys]
      have turns : turn = turn' :=
        Prod.ext numbers (Json.toString_injective (List.cons.inj places).1)
      subst turns
      obtain rfl : next = next' := Option.some.inj (taken.symm.trans taken')
      rw [ih (isKeyed_of_turn? keyed taken) there onward onward']

end Visit

/-! ## Addresses -/

namespace Node

/-- In a tree in which no two slots of a component have the same name, the walk visits every
position once, in document order, and the pointer it has there is the one made on the way down. That
pointer names the written node in the written tree, and no other position has it. The check of the
shape of the written tree comes to nodes with just these pointers, in the order of the walk. -/
theorem pointers_resolve_uniquely {tree : Node} (keyed : tree.IsKeyed) :
    (tree.visits "" []).map Visit.node = tree.walk ∧
    tree.positions.map tree.visitAt? = (tree.visits "" []).map some ∧
    (∀ position, position ∈ tree.positions ↔ (tree.visitAt? position).isSome) ∧
    tree.positions.Pairwise Position.Precedes ∧
    (∀ position visit, tree.visitAt? position = some visit →
      tree.toJson.at? visit.path = some visit.node.toJson) ∧
    (∀ position other visit visit', tree.visitAt? position = some visit →
      tree.visitAt? other = some visit' → visit.path = visit'.path → position = other) ∧
    Shape.entered (Shape.nodeTrace "" tree.toJson) = (tree.visits "" []).map Visit.path ∧
    Shape.reported (Shape.nodeTrace "" tree.toJson) = Shape.node "" tree.toJson := by
  refine ⟨map_node_visits "" [] tree, map_follow?_positions "" [] tree, fun position => ?listed,
    pairwise_positions tree, fun position visit led => ?named,
    fun position other visit visit' led led' same => ?apart, Shape.entered_nodeTrace "" [] tree,
    Shape.reported_nodeTrace "" tree.toJson⟩
  case listed => rw [mem_positions_iff, nodeAt?, Option.isSome_map]
  case named => exact Visit.at?_of_follow? Json.at?_root keyed led
  case apart => exact Visit.eq_of_path_eq keyed rfl led led' same

/-- A component has slots without a name, with a number for a name, with the name of the children of
containers, and with a name that needs escapes. -/
theorem pointers_resolve_uniquely_slots :
    let envelope : Envelope := { id := ⟨List.replicate 32 0, rfl⟩ }
    let leaf : Node := .container envelope .block []
    let stack : Node := .container envelope (.stack .vertical) [leaf, leaf]
    let tree : Node := .component envelope ⟨"Card", [], none, []⟩
      [("", [leaf]), ("0", [leaf, leaf]), ("a/b~c", [stack]), ("children", [leaf])]
    tree.IsKeyed ∧ tree.toJson.at? "/slots/a~1b~0c/0/children/1" = some leaf.toJson ∧
      Shape.entered (Shape.nodeTrace "" tree.toJson) = ["", "/slots//0", "/slots/0/0", "/slots/0/1",
        "/slots/a~1b~0c/0", "/slots/a~1b~0c/0/children/0", "/slots/a~1b~0c/0/children/1",
        "/slots/children/0"] := by
  intro envelope leaf stack tree
  have keyed : tree.IsKeyed := by
    simp [IsKeyed, Throughout, tree, stack, leaf, walk, walkAll, walkSlots, regions]
  obtain ⟨-, -, -, -, named, -, entered, -⟩ := pointers_resolve_uniquely keyed
  let path := index (push (index (push (push "" slotsKey) "a/b~c") 0) childrenKey) 1
  have spelled : path = "/slots/a~1b~0c/0/children/1" := by decide +kernel
  let visit : Visit := ⟨path, [stack, tree], leaf⟩
  have led : tree.visitAt? [(2, 0), (0, 1)] = some visit := rfl
  refine ⟨keyed, spelled ▸ named _ visit led, entered.trans ?_⟩
  decide +kernel

end Node
end Formwright
