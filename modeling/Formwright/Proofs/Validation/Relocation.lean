import Formwright.Proofs.Validation.Agreement

/-!
# Diagnostics of parts and of the whole

What is reported of a value does not depend on where the value stands: a check that starts at a
pointer reports what it reports at the root, with the pointer in front of each path. So the
diagnostics of a container whose own fields are sound are made of those of its children, as long as
the gate between the two checks is kept in mind: one child of unsound shape silences the registry on
all of them.
-/
namespace Formwright

/-- A diagnostic with a pointer in front of its path. -/
def Diagnostic.relocate (base : String) (diagnostic : Diagnostic) : Diagnostic :=
  { diagnostic with path := diagnostic.path.map (base ++ ·) }

/-- Diagnostics with a pointer in front of each path. -/
def relocateAll (base : String) (diagnostics : List Diagnostic) : List Diagnostic :=
  diagnostics.map (Diagnostic.relocate base)

variable {base path : String}

/-- No diagnostics stay none. -/
@[simp]
theorem relocateAll_nil : relocateAll base [] = [] := rfl

/-- Lists of diagnostics are relocated one by one. -/
@[simp]
theorem relocateAll_append (first later : List Diagnostic) :
    relocateAll base (first ++ later) = relocateAll base first ++ relocateAll base later :=
  List.map_append

/-- There are no relocated diagnostics exactly if there were none before. -/
@[simp]
theorem relocateAll_eq_nil_iff {diagnostics : List Diagnostic} :
    relocateAll base diagnostics = [] ↔ diagnostics = [] := List.map_eq_nil_iff

/-- A step from a relocated pointer is a relocated step. -/
theorem Pointer.push_append (base path key : String) :
    push (base ++ path) key = base ++ push path key := by
  simp only [push, String.append_assoc]

/-- A step to an item from a relocated pointer is a relocated step. -/
theorem Pointer.index_append (base path : String) (place : Nat) :
    index (base ++ path) place = base ++ index path place := by
  simp only [index, String.append_assoc]

namespace Shape
open Pointer

/-! ## Checks of shapes -/

/-- The check reports the same wherever it starts. -/
def Check.Relocates (check : Check) : Prop :=
  ∀ base path value, check (base ++ path) value = relocateAll base (check path value)

variable {members : Members} {key : String} {check : Check}

/-- A problem is relocated with its pointer. -/
@[simp]
theorem fault_append (base path message : String) :
    fault (base ++ path) message = relocateAll base (fault path message) := rfl

/-- A value of the wrong kind is reported the same wherever it stands. -/
@[simp]
theorem unexpected_append (base path expected : String) (value : Json) :
    unexpected (base ++ path) expected value = relocateAll base (unexpected path expected value) :=
  rfl

/-- A field that is left out is reported the same wherever its object stands. -/
@[simp]
theorem missing_append (base path key : String) :
    missing (base ++ path) key = relocateAll base (missing path key) := by
  rw [missing, push_append, fault_append, missing]

/-- A field that may be left out is reported the same wherever its object stands. -/
@[simp]
theorem optional_append (relocates : check.Relocates) :
    optional members key (base ++ path) check =
      relocateAll base (optional members key path check) := by
  unfold optional
  split
  · rw [push_append, relocates]
  · rfl

/-- A field that must be there is reported the same wherever its object stands. -/
@[simp]
theorem required_append (relocates : check.Relocates) :
    required members key (base ++ path) check =
      relocateAll base (required members key path check) := by
  unfold required
  split
  · rw [push_append, relocates]
  · rw [missing_append]

/-- Texts are reported the same wherever they stand. -/
@[simp]
theorem text_relocates : text.Relocates := by
  intro base path value
  cases value <;> simp [text]

/-- Texts that must not be blank are reported the same wherever they stand. -/
@[simp]
theorem filledText_relocates : filledText.Relocates := by
  intro base path value
  cases value with
  | string held => simp only [filledText]; split <;> simp
  | _ => simp [filledText]

/-- Truth values are reported the same wherever they stand. -/
@[simp]
theorem truth_relocates : truth.Relocates := by
  intro base path value
  cases value <;> simp [truth]

/-- Values that may be anything are reported nowhere. -/
@[simp]
theorem anything_relocates : anything.Relocates := by
  intro base path value
  rfl

/-- Values that must be one of some words are reported the same wherever they stand. -/
@[simp]
theorem oneOf_relocates (words : List String) : (oneOf words).Relocates := by
  intro base path value
  cases value with
  | string held => simp only [oneOf]; split <;> simp
  | _ => simp [oneOf]

/-- An object is reported the same wherever it stands if its members are. -/
@[simp]
theorem object_relocates {checkMembers : String → Members → List Diagnostic}
    (relocates : ∀ base path members,
      checkMembers (base ++ path) members = relocateAll base (checkMembers path members)) :
    (object checkMembers).Relocates := by
  intro base path value
  cases value with
  | object members => exact relocates base path members
  | _ => exact unexpected_append _ _ _ _

/-- The items of a list are reported the same wherever the list stands. -/
theorem itemsFrom_append (relocates : check.Relocates) (place : Nat) (items : List Json) :
    itemsFrom check (base ++ path) place items =
      relocateAll base (itemsFrom check path place items) := by
  induction items generalizing place with
  | nil => rfl
  | cons item later ih => simp only [itemsFrom, index_append, relocates _, ih, relocateAll_append]

/-- A list is reported the same wherever it stands if its items are. -/
@[simp]
theorem list_relocates (relocates : check.Relocates) : (list check).Relocates := by
  intro base path value
  cases value with
  | array items => exact itemsFrom_append relocates 0 items
  | _ => exact unexpected_append _ _ _ _

/-- Ids are reported the same wherever they stand. -/
@[simp]
theorem nodeId_relocates : nodeId.Relocates := by
  intro base path value
  cases value with
  | string held => simp only [nodeId]; split <;> simp
  | _ => simp [nodeId]

/-- Numbers of columns are reported the same wherever they stand. -/
@[simp]
theorem columns_relocates : columns.Relocates := by
  intro base path value
  unfold columns
  split
  · split <;> simp
  · simp

/-- Times are reported the same wherever they stand. -/
@[simp]
theorem milliseconds_relocates : milliseconds.Relocates := by
  intro base path value
  unfold milliseconds
  split <;> simp

/-- The tags of nodes are reported the same wherever they stand. -/
@[simp]
theorem kindTag_relocates : kindTag.Relocates := oneOf_relocates _

/-- A tagged value is reported the same wherever it stands if the fields that its tag decides on
are. -/
theorem tagged_append {words : List String} {fields moved : String → List Diagnostic}
    (relocates : ∀ word, moved word = relocateAll base (fields word)) :
    tagged members key (base ++ path) words moved =
      relocateAll base (tagged members key path words fields) := by
  unfold tagged required
  split
  · rw [push_append]
    dsimp only
    split
    · split
      · exact relocates _
      · exact oneOf_relocates words _ _ _
    · exact oneOf_relocates words _ _ _
  · exact missing_append _ _ _

/-- A data source is reported the same wherever it stands. -/
@[simp]
theorem dataSource_append (base path : String) (members : Members) :
    dataSource (base ++ path) members = relocateAll base (dataSource path members) := by
  rw [dataSource, dataSource, relocateAll_append, required_append filledText_relocates,
    tagged_append fun word => ?_]
  split <;> simp

/-- The payload of a section is reported the same wherever it stands. -/
@[simp]
theorem payload_append (base path : String) (members : Members) :
    payload (base ++ path) members = relocateAll base (payload path members) := by
  refine tagged_append fun word => ?_
  rw [relocateAll_append, required_append filledText_relocates]
  congr 1
  split <;> simp

/-- A binding is reported the same wherever it stands. -/
@[simp]
theorem binding_append (base path : String) (members : Members) :
    binding (base ++ path) members = relocateAll base (binding path members) := by
  simp [binding]

/-- What a node says to assistive technology is reported the same wherever it stands. -/
@[simp]
theorem accessibility_append (base path : String) (members : Members) :
    accessibility (base ++ path) members = relocateAll base (accessibility path members) := by
  simp [accessibility]

/-- The layout of a node is reported the same wherever it stands. -/
@[simp]
theorem layout_append (base path : String) (members : Members) :
    layout (base ++ path) members = relocateAll base (layout path members) := by
  simp [layout]

/-- The envelope of a node is reported the same wherever the node stands. -/
@[simp]
theorem envelope_append (base path : String) (members : Members) :
    envelope (base ++ path) members = relocateAll base (envelope path members) := by
  simp [envelope]

/-- The fields of a node before the nodes below it are reported the same wherever it stands. -/
@[simp]
theorem ownFields_append (kind : NodeKind) (base path : String) (members : Members) :
    ownFields kind (base ++ path) members = relocateAll base (ownFields kind path members) := by
  have props : (object fun _ _ => []).Relocates := object_relocates fun _ _ _ => rfl
  cases kind <;> simp [ownFields, props, list_relocates (object_relocates dataSource_append)]

/-- The fields of a node after the nodes below it are reported the same wherever it stands. -/
@[simp]
theorem lastFields_append (kind : NodeKind) (base path : String) (members : Members) :
    lastFields kind (base ++ path) members = relocateAll base (lastFields kind path members) := by
  cases kind <;> simp [lastFields, list_relocates (object_relocates binding_append)]

mutual

/-- What is reported of a node and of all below it is the same wherever the node stands. -/
theorem node_append : ∀ (base path : String) (value : Json),
    node (base ++ path) value = relocateAll base (node path value)
  | base, path, .object members => by
    have below := children_append base path members
    have slotted := slots_append base path members
    simp only [node]
    split
    · simp
    · split <;> simp [below, slotted]
  | base, path, .null | base, path, .bool _ | base, path, .integer _ | base, path, .float _
  | base, path, .string _ | base, path, .array _ => by simp [node]

/-- What is reported of the children among the members of a node is the same wherever the node
stands. -/
theorem children_append : ∀ (base path : String) (members : List (String × Json)),
    children (base ++ path) members = relocateAll base (children path members)
  | base, path, [] => by simp [children]
  | base, path, (key, value) :: later => by
    have here := nodes_append base (push path Node.childrenKey) value
    have after := children_append base path later
    simp only [children, push_append]
    split
    · exact here
    · exact after

/-- What is reported of the slots among the members of a node is the same wherever the node
stands. -/
theorem slots_append : ∀ (base path : String) (members : List (String × Json)),
    slots (base ++ path) members = relocateAll base (slots path members)
  | base, path, [] => by simp [slots]
  | base, path, (key, value) :: later => by
    have here := slotTable_append base (push path Node.slotsKey) value
    have after := slots_append base path later
    simp only [slots, push_append]
    split
    · exact here
    · exact after

/-- What is reported of a value that holds slots is the same wherever it stands. -/
theorem slotTable_append : ∀ (base path : String) (value : Json),
    slotTable (base ++ path) value = relocateAll base (slotTable path value)
  | base, path, .object members => slotEntries_append base path members
  | base, path, .null | base, path, .bool _ | base, path, .integer _ | base, path, .float _
  | base, path, .string _ | base, path, .array _ => by simp [slotTable]

/-- What is reported of some slots is the same wherever the value that holds them stands. -/
theorem slotEntries_append : ∀ (base path : String) (members : List (String × Json)),
    slotEntries (base ++ path) members = relocateAll base (slotEntries path members)
  | base, path, [] => by simp [slotEntries]
  | base, path, (slot, value) :: later => by
    have here := nodes_append base (push path slot) value
    have after := slotEntries_append base path later
    simp [slotEntries, push_append, here, after]

/-- What is reported of a value that holds nodes is the same wherever it stands. -/
theorem nodes_append : ∀ (base path : String) (value : Json),
    nodes (base ++ path) value = relocateAll base (nodes path value)
  | base, path, .array items => nodesFrom_append base path 0 items
  | base, path, .null | base, path, .bool _ | base, path, .integer _ | base, path, .float _
  | base, path, .string _ | base, path, .object _ => by simp [nodes]

/-- What is reported of nodes from an index on is the same wherever their list stands. -/
theorem nodesFrom_append : ∀ (base path : String) (place : Nat) (items : List Json),
    nodesFrom (base ++ path) place items = relocateAll base (nodesFrom path place items)
  | base, path, place, [] => by simp [nodesFrom]
  | base, path, place, item :: later => by
    have here := node_append base (index path place) item
    have after := nodesFrom_append base path (place + 1) later
    simp [nodesFrom, index_append, here, after]

end

/-- What is reported of a value at a pointer is what is reported of it at the root, relocated. -/
theorem node_eq_relocateAll (path : String) (value : Json) :
    node path value = relocateAll path (node "" value) := by
  simpa only [String.append_empty] using node_append path "" value

/-- Whether a value is of sound shape does not depend on where it stands. -/
theorem node_eq_nil_iff (path : String) (value : Json) :
    node path value = [] ↔ node "" value = [] := by
  rw [node_eq_relocateAll, relocateAll_eq_nil_iff]

/-- What is reported of the nodes of a list is what is reported of each at the root, relocated. -/
theorem nodesFrom_eq_flatMap (path : String) (place : Nat) (items : List Json) :
    nodesFrom path place items = (items.zipIdx place).flatMap fun (item, offset) =>
      relocateAll (index path offset) (node "" item) := by
  induction items generalizing place with
  | nil => rfl
  | cons item later ih =>
    rw [nodesFrom, ih, node_eq_relocateAll, List.zipIdx_cons, List.flatMap_cons]

/-- Nodes of sound shape may be left out of what is reported of a list. -/
theorem flatMap_filter_faulty (pointer : Nat → String) (nodes : List (Json × Nat)) :
    (nodes.filter fun (item, _) => node "" item ≠ []).flatMap
        (fun (item, place) => relocateAll (pointer place) (node "" item)) =
      nodes.flatMap fun (item, place) => relocateAll (pointer place) (node "" item) := by
  induction nodes with
  | nil => rfl
  | cons first later ih =>
    obtain ⟨item, place⟩ := first
    by_cases silent : node "" item = []
    · rw [List.filter_cons_of_neg (by simp [silent]), List.flatMap_cons, ih]
      simp only [silent, relocateAll_nil, List.nil_append]
    · rw [List.filter_cons_of_pos (by simp [silent]), List.flatMap_cons, List.flatMap_cons, ih]

/-- The nodes of a list are silent exactly when each is at the root. -/
theorem nodesFrom_eq_nil_iff (path : String) (place : Nat) (items : List Json) :
    nodesFrom path place items = [] ↔ ∀ item ∈ items, node "" item = [] := by
  induction items generalizing place with
  | nil => simp [nodesFrom]
  | cons item later ih =>
    rw [nodesFrom, List.append_eq_nil_iff, node_eq_nil_iff, ih, List.forall_mem_cons]

end Shape

namespace RegistryCheck
open Pointer

/-! ## The check against a registry -/

variable (registry : ComponentRegistry)

/-- What an entry has to say of a component is the same wherever the component stands. -/
theorem entryDiagnostics_append (entry : RegistryEntry) (base path : String) (element : Component)
    (slots : List String) : entryDiagnostics entry (base ++ path) element slots =
      relocateAll base (entryDiagnostics entry path element slots) := by
  have variant : variantFaults entry (base ++ path) element =
      relocateAll base (variantFaults entry path element) := by
    unfold variantFaults
    split
    · split
      · rfl
      · rw [push_append]
        rfl
    · rfl
  have slot : slotFaults entry (base ++ path) element.component slots =
      relocateAll base (slotFaults entry path element.component slots) := by
    simp only [slotFaults, relocateAll, push_append, List.map_map]
    rfl
  have prop : propWarnings entry (base ++ path) element =
      relocateAll base (propWarnings entry path element) := by
    simp only [propWarnings, relocateAll, push_append, List.map_map]
    rfl
  rw [entryDiagnostics, variant, slot, prop, entryDiagnostics, relocateAll_append,
    relocateAll_append]

mutual

/-- What a registry has to say of a tree is the same wherever the tree stands. -/
theorem node_append : ∀ (base path : String) (tree : Node),
    node registry (base ++ path) tree = relocateAll base (node registry path tree)
  | base, path, .container _ _ children => by
    rw [node, push_append, nodesFrom_append base (push path Node.childrenKey) 0 children, node]
  | base, path, .component _ element slots => by
    have below := slotNodes_append base (push path Node.slotsKey) slots
    simp only [node]
    split
    · rw [unknownComponent, push_append]
      rfl
    · rw [entryDiagnostics_append, push_append, below, relocateAll_append]

/-- What a registry has to say of nodes from an index on is the same wherever their list stands. -/
theorem nodesFrom_append : ∀ (base path : String) (place : Nat) (nodes : List Node),
    nodesFrom registry (base ++ path) place nodes =
      relocateAll base (nodesFrom registry path place nodes)
  | base, path, place, [] => by simp [nodesFrom]
  | base, path, place, child :: later => by
    have here := node_append base (index path place) child
    have after := nodesFrom_append base path (place + 1) later
    simp [nodesFrom, index_append, here, after]

/-- What a registry has to say of the nodes in slots is the same wherever the slots stand. -/
theorem slotNodes_append : ∀ (base path : String) (slots : List (String × List Node)),
    slotNodes registry (base ++ path) slots = relocateAll base (slotNodes registry path slots)
  | base, path, [] => by simp [slotNodes]
  | base, path, (slot, nodes) :: later => by
    have here := nodesFrom_append base (push path slot) 0 nodes
    have after := slotNodes_append base path later
    simp [slotNodes, push_append, here, after]

end

/-- What a registry has to say of a tree at a pointer is what it has to say of it at the root,
relocated. -/
theorem node_eq_relocateAll (path : String) (tree : Node) :
    node registry path tree = relocateAll path (node registry "" tree) := by
  simpa only [String.append_empty] using node_append registry path "" tree

end RegistryCheck

/-! ## Containers -/

namespace Shape

/-- The members are those of a container of a kind: nothing is wrong with the fields that are its
own, and its children are the given values, which may be anything. -/
structure IsContainer (kind : NodeKind) (members : Members) (items : List Json) : Prop where
  named : kind? members = some kind
  container : kind.isContainer
  envelope : envelope "" members = []
  ownFields : ownFields kind "" members = []
  children : members.lookup Node.childrenKey = some (.array items) ∨
    members.lookup Node.childrenKey = none ∧ items = []

/-- A node that names a kind has a sound tag. -/
theorem required_kindTag_eq_nil {members : Members} {kind : NodeKind}
    (named : kind? members = some kind) : required members "type" "" kindTag = [] := by
  obtain ⟨tag, tagged, named⟩ := Option.bind_eq_some_iff.mp named
  obtain ⟨word, spelled, found⟩ := Option.bind_eq_some_iff.mp named
  cases tag with
  | string held =>
    cases spelled
    have known : word ∈ Vocabulary.words NodeKind :=
      (Vocabulary.mem_words_iff word).mpr ⟨kind, found⟩
    exact required_eq_nil_iff.mpr ⟨_, tagged, by simp [kindTag, oneOf, known]⟩
  | _ => cases spelled

/-- Where nothing is reported of a value, it does not matter whether its kind may be given by its
place. -/
theorem read?_eq_ofJson? {value : Json} (silent : node "" value = []) (byPlace : Bool) :
    Node.read? byPlace value = Node.ofJson? value := by
  cases value with
  | object members =>
    simp only [node, List.append_eq_nil_iff] at silent
    obtain ⟨kind, shown, -⟩ := exists_kind false silent.1.1
    simp only [Node.ofJson?, Node.read?, Node.head?, kindOf?_of_kind? _ shown]
  | _ => simp [node] at silent

namespace IsContainer

variable {kind : NodeKind} {members : Members} {items : List Json}

/-- All that is reported of the shape of a container with sound fields is reported of its
children. -/
theorem node_eq (parent : IsContainer kind members items) :
    node "" (.object members) = nodesFrom (Pointer.push "" Node.childrenKey) 0 items := by
  have last : lastFields kind "" members = [] := by
    cases kind <;> first | rfl | exact absurd parent.container (by decide)
  have below : Shape.children "" members =
      nodesFrom (Pointer.push "" Node.childrenKey) 0 items := by
    rw [children_eq]
    obtain held | ⟨absent, rfl⟩ := parent.children
    · rw [held]
      rfl
    · rw [absent]
      rfl
  simp only [node, required_kindTag_eq_nil parent.named, parent.envelope, parent.named,
    parent.ownFields, parent.container, below, last, ↓reduceIte, List.nil_append, List.append_nil]

/-- A container with sound fields is of sound shape exactly when its children are. -/
theorem node_eq_nil_iff (parent : IsContainer kind members items) :
    node "" (.object members) = [] ↔ ∀ item ∈ items, node "" item = [] := by
  rw [parent.node_eq, nodesFrom_eq_nil_iff]

/-- A container of sound shape spells a container whose children are spelled by its own. -/
theorem exists_tree (parent : IsContainer kind members items)
    (silent : ∀ item ∈ items, node "" item = []) :
    ∃ envelope body nodes, Node.ofJson? (.object members) = some (.container envelope body nodes) ∧
      Node.readItems? items = some nodes := by
  obtain ⟨nodes, read⟩ := nodesFrom_reads "" 0 items ((nodesFrom_eq_nil_iff "" 0 items).mpr silent)
  obtain ⟨envelope, body, head⟩ := exists_containerHead (kindOf?_of_kind? false parent.named)
    parent.container parent.envelope parent.ownFields
  have below : Node.readChildren? members = some nodes := by
    rw [Node.readChildren?_eq]
    obtain held | ⟨absent, rfl⟩ := parent.children
    · rw [held]
      exact read
    · rw [absent]
      exact read
  exact ⟨envelope, body, nodes, by simp [Node.ofJson?, Node.read?, head, below], read⟩

end IsContainer
end Shape

namespace Validation
open Shape

variable (registry : ComponentRegistry)

/-- What a registry has to say of the trees that some values spell is what validation reports of
each value, relocated. -/
theorem nodesFrom_of_readItems? (path : String) {items : List Json} {nodes : List Node}
    (silent : ∀ item ∈ items, Shape.node "" item = []) (read : Node.readItems? items = some nodes)
    (place : Nat) :
    RegistryCheck.nodesFrom registry path place nodes =
      (items.zipIdx place).flatMap fun (item, offset) =>
        relocateAll (Pointer.index path offset) (diagnostics item registry) := by
  induction items generalizing nodes place with
  | nil =>
    cases read
    rfl
  | cons item later ih =>
    obtain ⟨here, rest⟩ := List.forall_mem_cons.mp silent
    simp only [Node.readItems?, Option.bind_eq_bind, Option.bind_eq_some_iff, Option.pure_def,
      Option.some.injEq] at read
    obtain ⟨tree, spelled, trees, found, rfl⟩ := read
    rw [read?_eq_ofJson? here] at spelled
    rw [RegistryCheck.nodesFrom, ih rest found, RegistryCheck.node_eq_relocateAll,
      ← diagnostics_of_tree registry here spelled, List.zipIdx_cons, List.flatMap_cons]

/-- The diagnostics of a container whose children are all of sound shape are theirs, relocated. -/
theorem diagnostics_of_sound_children {kind : NodeKind} {members : Members} {items : List Json}
    (parent : IsContainer kind members items) (silent : ∀ item ∈ items, Shape.node "" item = []) :
    diagnostics (.object members) registry = items.zipIdx.flatMap fun (item, place) =>
      relocateAll (Pointer.index (Pointer.push "" Node.childrenKey) place)
        (diagnostics item registry) := by
  obtain ⟨envelope, body, nodes, spelled, read⟩ := parent.exists_tree silent
  rw [diagnostics_of_tree registry (parent.node_eq_nil_iff.mpr silent) spelled,
    RegistryCheck.node, nodesFrom_of_readItems? registry _ silent read]

/-- The diagnostics of a container with a child of unsound shape are those of the shape of such
children, relocated. -/
theorem diagnostics_of_unsound_child {kind : NodeKind} {members : Members} {items : List Json}
    (parent : IsContainer kind members items) (faulty : ∃ item ∈ items, Shape.node "" item ≠ []) :
    diagnostics (.object members) registry =
      (items.zipIdx.filter fun (item, _) => Shape.node "" item ≠ []).flatMap fun (item, place) =>
        relocateAll (Pointer.index (Pointer.push "" Node.childrenKey) place)
          (Shape.node "" item) := by
  obtain ⟨item, held, fault⟩ := faulty
  have unsound : Shape.node "" (.object members) ≠ [] :=
    fun quiet => fault (parent.node_eq_nil_iff.mp quiet item held)
  rw [diagnostics_of_faults registry unsound, parent.node_eq, nodesFrom_eq_flatMap,
    flatMap_filter_faulty]

/-! ### Validity -/

/-- Relocation leaves the gravity of diagnostics alone. -/
theorem any_isError_relocateAll (base : String) (diagnostics : List Diagnostic) :
    (relocateAll base diagnostics).any (·.isError) = diagnostics.any (·.isError) := by
  rw [relocateAll, List.any_map]
  rfl

/-- A document of unsound shape is not valid. -/
theorem valid_of_faulty {document : Json} (faulty : Shape.node "" document ≠ []) :
    (validateNode document registry).valid = false := by
  obtain ⟨fault, reported⟩ := List.exists_mem_of_ne_nil _ faulty
  have error := (Shape.onlyFaults_node "" document fault reported).1
  rw [← diagnostics_of_faults registry faulty] at reported
  exact valid_ofDiagnostics_eq_false reported error

/-- A container with sound fields is valid exactly when its children are. -/
theorem valid_container_iff {kind : NodeKind} {members : Members} {items : List Json}
    (parent : IsContainer kind members items) :
    (validateNode (.object members) registry).valid = true ↔
      ∀ item ∈ items, (validateNode item registry).valid = true := by
  by_cases silent : ∀ item ∈ items, Shape.node "" item = []
  · have child (item : Json) : (validateNode item registry).valid = true ↔
        (diagnostics item registry).any (·.isError) = false := by
      simp [validateNode, ValidationResult.ofDiagnostics]
    have placed (p : Json → Prop) :
        (∀ child ∈ items.zipIdx, p child.1) ↔ ∀ item ∈ items, p item :=
      (List.forall_mem_map (f := Prod.fst) (P := p)).symm.trans (by rw [List.zipIdx_map_fst])
    simp only [child, diagnostics_of_sound_children registry parent silent, List.any_flatMap,
      any_isError_relocateAll]
    rw [← placed fun item => (diagnostics item registry).any (·.isError) = false]
    simp only [List.any_eq_false, Bool.not_eq_true]
  · obtain ⟨item, held, faulty⟩ : ∃ item ∈ items, Shape.node "" item ≠ [] := by simpa using silent
    have unsound : Shape.node "" (.object members) ≠ [] :=
      fun quiet => faulty (parent.node_eq_nil_iff.mp quiet item held)
    rw [valid_of_faulty registry unsound]
    exact iff_of_false Bool.false_ne_true fun accepted =>
      Bool.false_ne_true ((valid_of_faulty registry faulty).symm.trans (accepted item held))

/-- What either check reports does not depend on where it starts. So the diagnostics of a container
whose own fields are sound are those of its children: all of them where every child is of sound
shape, and those of the children of unsound shape alone where there is one. -/
theorem diagnostics_compose (registry : ComponentRegistry) :
    (∀ path value, Shape.node path value = relocateAll path (Shape.node "" value)) ∧
      (∀ path tree, RegistryCheck.node registry path tree =
        relocateAll path (RegistryCheck.node registry "" tree)) ∧
      ∀ kind members items, Shape.IsContainer kind members items →
        ((∀ item ∈ items, Shape.node "" item = []) →
          (validateNode (.object members) registry).diagnostics =
            items.zipIdx.flatMap fun (item, place) =>
              relocateAll ("/children/" ++ toString place)
                (validateNode item registry).diagnostics) ∧
        ((validateNode (.object members) registry).valid = true ↔
          ∀ item ∈ items, (validateNode item registry).valid = true) ∧
        ((∃ item ∈ items, Shape.node "" item ≠ []) →
          (validateNode (.object members) registry).diagnostics =
            (items.zipIdx.filter fun (item, _) => Shape.node "" item ≠ []).flatMap
              fun (item, place) =>
                relocateAll ("/children/" ++ toString place) (Shape.node "" item)) := by
  refine ⟨Shape.node_eq_relocateAll, RegistryCheck.node_eq_relocateAll registry,
    fun kind members items parent => ⟨diagnostics_of_sound_children registry parent,
      valid_container_iff registry parent, diagnostics_of_unsound_child registry parent⟩⟩

/-- A stack with two unknown components is told of both, and of neither once a block without an id
stands beside them. -/
theorem diagnostics_compose_stack :
    let id := ("id", Json.string "00000000-0000-4000-8000-000000000000")
    let card := Json.object [("type", .string "component"), id, ("component", .string "Card")]
    let nameless := Json.object [("type", .string "block")]
    let stack (items : List Json) := [("type", Json.string "stack"), id, ("children", .array items)]
    (∀ items, Shape.IsContainer .stack (stack items) items) ∧
      (validateNode (.object (stack [card, card])) .empty).diagnostics.map (·.path) =
        [some "/children/0/component", some "/children/1/component"] ∧
      (validateNode (.object (stack [card, nameless])) .empty).diagnostics.map (·.path) =
        [some "/children/1/id"] := by
  intro id card nameless stack
  have parent (items : List Json) : Shape.IsContainer .stack (stack items) items :=
    ⟨rfl, rfl, rfl, rfl, .inl rfl⟩
  obtain ⟨-, -, composed⟩ := diagnostics_compose .empty
  refine ⟨parent, ?_, ?_⟩
  · rw [(composed _ _ _ (parent _)).1 (by decide +kernel)]
    decide +kernel
  · rw [(composed _ _ _ (parent _)).2.2 ⟨nameless, by simp, by decide +kernel⟩]
    decide +kernel

end Validation
end Formwright
