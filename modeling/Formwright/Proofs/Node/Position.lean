import Formwright.Proofs.Node.Visit
import Mathlib.Data.List.Lex

/-!
# Positions in trees

A position says how to come from the root of a tree to a node: at each turn the number of a region
and the place of the next node in it. The walk over a tree comes to every position once, in document
order, and what it notes there is what is found by taking the turns.
-/
namespace Formwright

/-- The turns from a node to one below it, each the number of a region and a place in the region. -/
abbrev Position := List (Nat × Nat)

/-- One position stands before another in a document: a node before those below it, and where the
ways to two nodes part, the one in the earlier region or at the earlier place of one region. -/
def Position.Precedes : Position → Position → Prop := List.Lex (Prod.Lex (· < ·) (· < ·))

namespace Position

variable {position other : Position} {turn : Nat × Nat} {number place : Nat}

/-- No position stands before itself. -/
theorem Precedes.ne (before : position.Precedes other) : position ≠ other := by
  refine List.Lex.to_ne (List.Lex.imp (fun first second earlier same => ?_) _ _ before)
  subst same
  exact absurd earlier (irrefl first)

/-- A node stands before those below it. -/
theorem precedes_cons (turn : Nat × Nat) (later : Position) : Precedes [] (turn :: later) :=
  List.Lex.nil

/-- After a turn that is taken to both, positions stand as they do from there. -/
theorem Precedes.cons (before : position.Precedes other) (turn : Nat × Nat) :
    Precedes (turn :: position) (turn :: other) :=
  List.Lex.cons before

/-- What is in an earlier region stands before what is in a later one. -/
theorem precedes_of_region {number' : Nat} (earlier : number < number') (place place' : Nat)
    (position other : Position) :
    Precedes ((number, place) :: position) ((number', place') :: other) :=
  List.Lex.rel (Prod.Lex.left place place' earlier)

/-- What is at an earlier place of a region stands before what is at a later one. -/
theorem precedes_of_place {place' : Nat} (earlier : place < place') (number : Nat)
    (position other : Position) :
    Precedes ((number, place) :: position) ((number, place') :: other) :=
  List.Lex.rel (Prod.Lex.right number earlier)

end Position

/-! ## Taking turns -/

namespace Visit

/-- The visit of the node that a turn leads to, where the node that it is taken at is visited. -/
def turn? (visit : Visit) (turn : Nat × Nat) : Option Visit := do
  let region ← visit.node.regions[turn.1]?
  let child ← region.nodes[turn.2]?
  some ⟨Pointer.index (region.pointer visit.path) turn.2, visit.node :: visit.above, child⟩

/-- The visit of the node that some turns lead to. -/
def follow? (visit : Visit) (position : Position) : Option Visit := position.foldlM turn? visit

variable {visit next : Visit} {turn : Nat × Nat} {later : Position}

/-- A turn leads to a node of a region, and the pointer to the node is made of that to the
region. -/
theorem turn?_eq_some_iff : visit.turn? turn = some next ↔
    ∃ region child, visit.node.regions[turn.1]? = some region ∧
      region.nodes[turn.2]? = some child ∧ next =
        ⟨Pointer.index (region.pointer visit.path) turn.2, visit.node :: visit.above, child⟩ := by
  simp only [turn?, Option.bind_eq_bind, Option.bind_eq_some_iff, Option.some.injEq]
  constructor
  · rintro ⟨region, found, child, held, rfl⟩
    exact ⟨region, child, found, held, rfl⟩
  · rintro ⟨region, child, found, held, rfl⟩
    exact ⟨region, found, child, held, rfl⟩

/-- Turns are taken one after the other. -/
theorem follow?_cons (visit : Visit) (turn : Nat × Nat) (later : Position) :
    visit.follow? (turn :: later) = (visit.turn? turn).bind (·.follow? later) :=
  List.foldlM_cons

/-- Turns that lead to a node start with one that does. -/
theorem follow?_cons_eq_some_iff {visit found : Visit} :
    visit.follow? (turn :: later) = some found ↔
      ∃ next, visit.turn? turn = some next ∧ next.follow? later = some found := by
  rw [follow?_cons, Option.bind_eq_some_iff]

end Visit

namespace Node

/-- The visit of the node at a position of a tree. -/
def visitAt? (tree : Node) (position : Position) : Option Visit :=
  Visit.follow? ⟨"", [], tree⟩ position

/-- The node at a position of a tree. -/
def nodeAt? (tree : Node) (position : Position) : Option Node :=
  (tree.visitAt? position).map Visit.node

/-! ## All positions -/

mutual

/-- The positions of a tree, in the order of the walk. -/
def positions : Node → List Position
  | .container _ _ children => [] :: positionsIn 0 0 children
  | .component _ _ slots => [] :: positionsInSlots 0 slots

/-- The positions in the region with a number, from a place on. -/
def positionsIn (number place : Nat) : List Node → List Position
  | [] => []
  | node :: later =>
    (positions node).map ((number, place) :: ·) ++ positionsIn number (place + 1) later

/-- The positions in slots that are regions from a number on. -/
def positionsInSlots (number : Nat) : List (String × List Node) → List Position
  | [] => []
  | (_, nodes) :: later => positionsIn number 0 nodes ++ positionsInSlots (number + 1) later

end

/-! ### What stands there -/

mutual

/-- At the positions of a tree stands what the walk over it notes, in the same order. -/
theorem map_follow?_positions : ∀ (path : String) (above : List Node) (node : Node),
    node.positions.map (Visit.follow? ⟨path, above, node⟩) = (node.visits path above).map some
  | path, above, .container envelope body children => by
    rw [positions, visits, List.map_cons, List.map_cons,
      map_follow?_positionsIn ⟨path, above, .container envelope body children⟩ rfl children rfl]
    rfl
  | path, above, .component envelope element slots => by
    rw [positions, visits, List.map_cons, List.map_cons,
      map_follow?_positionsInSlots ⟨path, above, .component envelope element slots⟩ 0 slots
        List.drop_zero]
    rfl

/-- At the positions in a region stands what the walk over the nodes of the region notes. -/
theorem map_follow?_positionsIn (visit : Visit) {number place : Nat} {region : Region}
    (found : visit.node.regions[number]? = some region) : ∀ nodes : List Node,
    region.nodes.drop place = nodes → (positionsIn number place nodes).map visit.follow? =
      (visitsFrom (region.pointer visit.path) (visit.node :: visit.above) place nodes).map some
  | [], _ => rfl
  | node :: later, rest => by
    have held : region.nodes[place]? = some node := by
      rw [← List.head?_drop, rest]
      rfl
    have taken : visit.turn? (number, place) =
        some ⟨Pointer.index (region.pointer visit.path) place, visit.node :: visit.above, node⟩ :=
      Visit.turn?_eq_some_iff.mpr ⟨region, node, found, held, rfl⟩
    have onward : region.nodes.drop (place + 1) = later := by
      rw [← List.tail_drop, rest]
      rfl
    have below (position : Position) : visit.follow? ((number, place) :: position) =
        Visit.follow? ⟨Pointer.index (region.pointer visit.path) place,
          visit.node :: visit.above, node⟩ position := by
      rw [Visit.follow?_cons, taken, Option.bind_some]
    rw [positionsIn, visitsFrom, List.map_append, List.map_append, List.map_map,
      map_follow?_positionsIn visit found later onward, ← map_follow?_positions]
    exact congrArg (· ++ _) (List.map_congr_left fun position _ => below position)

/-- At the positions in slots stands what the walk over the slots notes. -/
theorem map_follow?_positionsInSlots (visit : Visit) (number : Nat) :
    ∀ slots : List (String × List Node),
    visit.node.regions.drop number = slots.map (fun (key, nodes) => ⟨key, true, nodes⟩) →
    (positionsInSlots number slots).map visit.follow? =
      (visitsSlots (Pointer.push visit.path slotsKey) (visit.node :: visit.above) slots).map some
  | [], _ => rfl
  | (key, nodes) :: later, rest => by
    have found : visit.node.regions[number]? = some ⟨key, true, nodes⟩ := by
      rw [← List.head?_drop, rest]
      rfl
    have onward : visit.node.regions.drop (number + 1) =
        later.map (fun (key, nodes) => ⟨key, true, nodes⟩) := by
      rw [← List.tail_drop, rest]
      rfl
    rw [positionsInSlots, visitsSlots, List.map_append, List.map_append,
      map_follow?_positionsIn visit found nodes (List.drop_zero ..),
      map_follow?_positionsInSlots visit (number + 1) later onward]
    rfl

end

/-- At the positions of a tree stand the nodes of the walk over it, in the same order. -/
theorem map_nodeAt?_positions (tree : Node) :
    tree.positions.map tree.nodeAt? = tree.walk.map some := by
  have visited : tree.positions.map tree.visitAt? = (tree.visits "" []).map some :=
    map_follow?_positions "" [] tree
  calc tree.positions.map tree.nodeAt?
      = (tree.positions.map tree.visitAt?).map (·.map Visit.node) := (List.map_map ..).symm
    _ = ((tree.visits "" []).map Visit.node).map some := by
      rw [visited, List.map_map, List.map_map]
      rfl
    _ = tree.walk.map some := by rw [map_node_visits]

/-! ### All of them -/

section

variable {number place offset : Nat} {child : Node} {nodes : List Node} {later : Position}

/-- The positions below a node of a region are among those in the region. -/
theorem mem_positionsIn (held : nodes[offset]? = some child) (listed : later ∈ child.positions) :
    (number, place + offset) :: later ∈ positionsIn number place nodes := by
  induction nodes generalizing place offset with
  | nil => contradiction
  | cons first rest ih =>
    rw [positionsIn]
    cases offset with
    | zero =>
      cases Option.some.inj held
      exact List.mem_append_left _ (List.mem_map_of_mem listed)
    | succ offset =>
      rw [← Nat.add_assoc, Nat.add_right_comm]
      exact List.mem_append_right _ (ih held)

/-- The positions in a slot are among those in the slots. -/
theorem mem_positionsInSlots {slots : List (String × List Node)} {slot : String × List Node}
    (found : slots[offset]? = some slot) (listed : later ∈ positionsIn (number + offset) 0 slot.2) :
    later ∈ positionsInSlots number slots := by
  induction slots generalizing number offset with
  | nil => contradiction
  | cons first rest ih =>
    rw [positionsInSlots]
    cases offset with
    | zero =>
      cases Option.some.inj found
      exact List.mem_append_left _ listed
    | succ offset =>
      rw [← Nat.add_assoc, Nat.add_right_comm] at listed
      exact List.mem_append_right _ (ih found listed)

/-- A turn to a node leads to the positions below the node. -/
theorem mem_positions_cons {node : Node} {region : Region}
    (found : node.regions[number]? = some region) (held : region.nodes[place]? = some child)
    (listed : later ∈ child.positions) : (number, place) :: later ∈ node.positions := by
  have inside (number : Nat) : (number, place) :: later ∈ positionsIn number 0 region.nodes := by
    have there : (number, 0 + place) :: later ∈ positionsIn number 0 region.nodes :=
      mem_positionsIn held listed
    rwa [Nat.zero_add] at there
  cases node with
  | container envelope body children =>
    rw [positions]
    cases number with
    | zero =>
      cases Option.some.inj found
      exact List.mem_cons_of_mem _ (inside 0)
    | succ number => contradiction
  | component envelope element slots =>
    rw [positions]
    rw [regions, List.getElem?_map, Option.map_eq_some_iff] at found
    obtain ⟨slot, standsThere, rfl⟩ := found
    refine List.mem_cons_of_mem _ (mem_positionsInSlots standsThere ?_)
    rw [Nat.zero_add]
    exact inside number

end

/-- Turns that lead to a node are a position of the tree. -/
theorem mem_positions_of_follow? {position : Position} {visit found : Visit}
    (led : visit.follow? position = some found) : position ∈ visit.node.positions := by
  induction position generalizing visit with
  | nil => cases visit.node <;> exact List.mem_cons_self
  | cons turn later ih =>
    obtain ⟨next, taken, onward⟩ := Visit.follow?_cons_eq_some_iff.mp led
    obtain ⟨region, child, chosen, held, rfl⟩ := Visit.turn?_eq_some_iff.mp taken
    exact mem_positions_cons chosen held (ih onward)

/-- The positions of a tree are those at which a node stands. -/
theorem mem_positions_iff {tree : Node} {position : Position} :
    position ∈ tree.positions ↔ (tree.nodeAt? position).isSome := by
  constructor
  · intro listed
    have stands : tree.nodeAt? position ∈ tree.walk.map some := by
      rw [← map_nodeAt?_positions]
      exact List.mem_map_of_mem listed
    obtain ⟨node, -, same⟩ := List.mem_map.mp stands
    rw [← same]
    rfl
  · intro stands
    rw [nodeAt?, Option.isSome_map] at stands
    obtain ⟨found, led⟩ := Option.isSome_iff_exists.mp stands
    exact mem_positions_of_follow? led

/-! ### In document order -/

/-- Every position in a region from a place on starts with a turn to such a place. -/
theorem exists_of_mem_positionsIn {number place : Nat} {nodes : List Node} {position : Position}
    (listed : position ∈ positionsIn number place nodes) :
    ∃ place' later, place ≤ place' ∧ position = (number, place') :: later := by
  induction nodes generalizing place with
  | nil => exact absurd listed List.not_mem_nil
  | cons node rest ih =>
    rw [positionsIn, List.mem_append] at listed
    rcases listed with here | there
    · obtain ⟨later, -, rfl⟩ := List.mem_map.mp here
      exact ⟨place, later, le_refl place, rfl⟩
    · obtain ⟨place', later, onward, rfl⟩ := ih there
      exact ⟨place', later, Nat.le_of_succ_le onward, rfl⟩

/-- Every position in slots that are regions from a number on starts with a turn into such a
region. -/
theorem exists_of_mem_positionsInSlots {number : Nat} {slots : List (String × List Node)}
    {position : Position} (listed : position ∈ positionsInSlots number slots) :
    ∃ number' place later, number ≤ number' ∧ position = (number', place) :: later := by
  induction slots generalizing number with
  | nil => exact absurd listed List.not_mem_nil
  | cons slot rest ih =>
    rw [positionsInSlots, List.mem_append] at listed
    rcases listed with here | there
    · obtain ⟨place, later, -, rfl⟩ := exists_of_mem_positionsIn here
      exact ⟨number, place, later, le_refl number, rfl⟩
    · obtain ⟨number', place, later, onward, rfl⟩ := ih there
      exact ⟨number', place, later, Nat.le_of_succ_le onward, rfl⟩

mutual

/-- The positions of a tree are listed in document order. -/
theorem pairwise_positions : ∀ node : Node, node.positions.Pairwise Position.Precedes
  | .container _ _ children => by
    refine List.pairwise_cons.mpr ⟨fun position listed => ?_, pairwise_positionsIn 0 0 children⟩
    obtain ⟨place, later, -, rfl⟩ := exists_of_mem_positionsIn listed
    exact Position.precedes_cons _ later
  | .component _ _ slots => by
    refine List.pairwise_cons.mpr ⟨fun position listed => ?_, pairwise_positionsInSlots 0 slots⟩
    obtain ⟨number, place, later, -, rfl⟩ := exists_of_mem_positionsInSlots listed
    exact Position.precedes_cons _ later

/-- The positions in a region are listed in document order. -/
theorem pairwise_positionsIn : ∀ (number place : Nat) (nodes : List Node),
    (positionsIn number place nodes).Pairwise Position.Precedes
  | _, _, [] => List.Pairwise.nil
  | number, place, node :: rest => by
    have below : ((positions node).map ((number, place) :: ·)).Pairwise Position.Precedes :=
      (pairwise_positions node).map _ fun _ _ before => before.cons _
    refine List.pairwise_append.mpr ⟨below, pairwise_positionsIn number (place + 1) rest, ?_⟩
    intro first here second there
    obtain ⟨later, -, rfl⟩ := List.mem_map.mp here
    obtain ⟨place', later', onward, rfl⟩ := exists_of_mem_positionsIn there
    exact Position.precedes_of_place onward number later later'

/-- The positions in slots are listed in document order. -/
theorem pairwise_positionsInSlots : ∀ (number : Nat) (slots : List (String × List Node)),
    (positionsInSlots number slots).Pairwise Position.Precedes
  | _, [] => List.Pairwise.nil
  | number, (_, nodes) :: rest => by
    refine List.pairwise_append.mpr ⟨pairwise_positionsIn number 0 nodes,
      pairwise_positionsInSlots (number + 1) rest, ?_⟩
    intro first here second there
    obtain ⟨place, later, -, rfl⟩ := exists_of_mem_positionsIn here
    obtain ⟨number', place', later', onward, rfl⟩ := exists_of_mem_positionsInSlots there
    exact Position.precedes_of_region onward place place' later later'

end

end Node
end Formwright
