import Formwright.Proofs.Compilation
import Formwright.Proofs.Node.Spelled

/-!
# The entries that a document depends on

Of a registry, validation looks at the entries of the components that the document mentions and at
nothing else. So two registries that agree on these tell the same of the document, and a document
that is valid stays as it is when components are added.
-/
namespace Formwright

/-! ## Mentions -/

/-- Somewhere in the value an object names the component. -/
inductive Json.Mentions (name : String) : Json → Prop
  | here {members : Members} (named : members.lookup "component" = some (.string name)) :
      Mentions name (.object members)
  | member {members : Members} {key : String} {value : Json} (held : (key, value) ∈ members)
      (below : Mentions name value) : Mentions name (.object members)
  | item {items : List Json} {value : Json} (held : value ∈ items)
      (below : Mentions name value) : Mentions name (.array items)

namespace Node

/-- The component that a node is an instance of. -/
def componentName? : Node → Option String
  | .container .. => none
  | .component _ element _ => some element.component

/-- The components that the nodes of a tree are instances of, in the order of a walk. -/
def componentNames (tree : Node) : List String := tree.walk.filterMap componentName?

/-- Something holds of the component that a node is an instance of, if it is one. -/
def Names (holds : String → Prop) (node : Node) : Prop :=
  ∀ name, node.componentName? = some name → holds name

/-- What holds of all components of a tree holds of the component of every node. -/
theorem forall_componentNames_iff {holds : String → Prop} (tree : Node) :
    (∀ name ∈ tree.componentNames, holds name) ↔ tree.Throughout (Names holds) := by
  simp only [componentNames, List.forall_mem_filterMap, Throughout, Names]

/-- What holds of every node holds if it follows from what holds of every node. -/
theorem Throughout.imp {holds follows : Node → Prop} {tree : Node} (all : tree.Throughout holds)
    (each : ∀ node, holds node → follows node) : tree.Throughout follows :=
  fun node member => each node (all node member)

/-! ## What a tree mentions is mentioned in its document -/

/-- A list of nodes was read of a list with an item for each of them. -/
theorem exists_of_readList? {value : Json} {nodes : List Node}
    (read : readList? value = some nodes) :
    ∃ items, value = .array items ∧
      ∀ node ∈ nodes, ∃ item ∈ items, read? true item = some node := by
  cases value with
  | array items =>
    rw [readList?] at read
    refine ⟨items, rfl, ?_⟩
    induction items generalizing nodes with
    | nil =>
      cases read
      nofun
    | cons item later ih =>
      rw [readItems?] at read
      obtain ⟨first, readFirst, read⟩ := Option.bind_eq_some_iff.mp read
      obtain ⟨rest, readRest, same⟩ := Option.bind_eq_some_iff.mp read
      cases same
      refine List.forall_mem_cons.mpr ⟨⟨item, List.mem_cons_self, readFirst⟩, fun node member => ?_⟩
      obtain ⟨held, listed, spelled⟩ := ih readRest node member
      exact ⟨held, List.mem_cons_of_mem item listed, spelled⟩
  | _ => simp [readList?] at read

/-- A table of slots was read of an object with a list for each of them. -/
theorem exists_of_readTable? {value : Json} {slots : List (String × List Node)}
    (read : readTable? value = some slots) :
    ∃ members, value = .object members ∧
      ∀ slot ∈ slots, ∃ list, (slot.1, list) ∈ members ∧ readList? list = some slot.2 := by
  cases value with
  | object members =>
    rw [readTable?] at read
    refine ⟨members, rfl, ?_⟩
    induction members generalizing slots with
    | nil =>
      cases read
      nofun
    | cons entry later ih =>
      rw [readEntries?] at read
      obtain ⟨nodes, readNodes, read⟩ := Option.bind_eq_some_iff.mp read
      obtain ⟨rest, readRest, same⟩ := Option.bind_eq_some_iff.mp read
      cases same
      refine List.forall_mem_cons.mpr ⟨⟨_, List.mem_cons_self, readNodes⟩, fun slot member => ?_⟩
      obtain ⟨list, listed, spelled⟩ := ih readRest slot member
      exact ⟨list, List.mem_cons_of_mem entry listed, spelled⟩
  | _ => simp [readTable?] at read

mutual

/-- Every component of a tree is mentioned in the value that the tree was read of. -/
theorem mentions_of_read? : ∀ (tree : Node) {byPlace : Bool} {value : Json},
    read? byPlace value = some tree → tree.Throughout (Names value.Mentions)
  | .container envelope body children, byPlace, value, read => by
    obtain ⟨members, rfl, found⟩ := exists_of_read?_container read
    refine (throughout_container_iff envelope body children).mpr ⟨nofun, fun child member => ?_⟩
    rw [readChildren?_eq] at found
    cases listed : members.lookup childrenKey with
    | none =>
      obtain rfl : [] = children := by simpa [listed] using found
      contradiction
    | some list =>
      obtain ⟨items, rfl, each⟩ := exists_of_readList? (by simpa [listed] using found)
      exact (mentions_of_items children each child member).imp
        fun _ mentioned name named => .member (mem_of_lookup listed) (mentioned name named)
  | .component envelope element slots, byPlace, value, read => by
    obtain ⟨members, rfl, fields, found⟩ := exists_of_read?_component read
    refine (throughout_component_iff envelope element slots).mpr
      ⟨?_, fun slot member node below => ?_⟩
    · rintro _ ⟨rfl⟩
      exact .here (Component.exists_fields fields).1
    · rw [readSlots?_eq] at found
      cases listed : members.lookup slotsKey with
      | none =>
        obtain rfl : [] = slots := by simpa [listed] using found
        contradiction
      | some table =>
        obtain ⟨entries, rfl, each⟩ := exists_of_readTable? (by simpa [listed] using found)
        exact (mentions_of_entries slots each slot member node below).imp
          fun _ mentioned name named => .member (mem_of_lookup listed) (mentioned name named)

/-- Every component of some trees is mentioned in a list with items that they were read of. -/
theorem mentions_of_items : ∀ (nodes : List Node) {items : List Json},
    (∀ node ∈ nodes, ∃ item ∈ items, read? true item = some node) →
      ∀ node ∈ nodes, node.Throughout (Names (Json.array items).Mentions)
  | [], _, _ => nofun
  | node :: later, items, each => by
    obtain ⟨⟨item, listed, read⟩, rest⟩ := List.forall_mem_cons.mp each
    refine List.forall_mem_cons.mpr ⟨?_, mentions_of_items later rest⟩
    exact (mentions_of_read? node read).imp
      fun _ mentioned name named => .item listed (mentioned name named)

/-- Every component in some slots is mentioned in an object with lists that they were read of. -/
theorem mentions_of_entries : ∀ (slots : List (String × List Node)) {members : Members},
    (∀ slot ∈ slots, ∃ list, (slot.1, list) ∈ members ∧ readList? list = some slot.2) →
      ∀ slot ∈ slots, ∀ node ∈ slot.2, node.Throughout (Names (Json.object members).Mentions)
  | [], _, _ => nofun
  | (key, nodes) :: later, members, each => by
    obtain ⟨⟨list, listed, read⟩, rest⟩ := List.forall_mem_cons.mp each
    refine List.forall_mem_cons.mpr ⟨fun node member => ?_, mentions_of_entries later rest⟩
    obtain ⟨items, rfl, each⟩ := exists_of_readList? read
    exact (mentions_of_items nodes each node member).imp
      fun _ mentioned name named => .member listed (mentioned name named)

end

end Node

/-! ## Registries that agree -/

/-- The two registries have the same entry for the component, or both have none. -/
def AgreeOn (registry other : ComponentRegistry) (name : String) : Prop :=
  registry.get? name = other.get? name

namespace ComponentRegistry

variable {registry larger : ComponentRegistry}

/-- The larger registry has all entries of the registry. -/
def IsWithin (registry larger : ComponentRegistry) : Prop :=
  ∀ name entry, registry.get? name = some entry → larger.get? name = some entry

/-- A registry stays within a larger one when a component is registered there that it does not
have. -/
theorem IsWithin.insert {name : String} (within : registry.IsWithin larger)
    (fresh : registry.get? name = none) (entry : RegistryEntry) :
    registry.IsWithin (larger.insert name entry) := by
  intro other held found
  have different : other ≠ name := by
    rintro rfl
    rw [fresh] at found
    cases found
  rw [get?, ComponentRegistry.insert, lookup_insertNamed, if_neg different]
  exact within other held found

/-- A registry is within what it becomes when components are registered that it does not have. -/
theorem isWithin_extend {added : ComponentRegistry}
    (fresh : ∀ named ∈ added.components, registry.get? named.1 = none) :
    registry.IsWithin (registry.extend added) :=
  List.foldlRecOn added.components _ (fun _ _ found => found)
    fun _ within named member => within.insert (fresh named member) named.2

/-- A larger registry agrees with the registry on what the registry has. -/
theorem IsWithin.agreeOn (within : registry.IsWithin larger) {name : String}
    {entry : RegistryEntry} (found : registry.get? name = some entry) :
    AgreeOn larger registry name :=
  (within name entry found).trans found.symm

end ComponentRegistry

namespace RegistryCheck
open Node

variable {registry other : ComponentRegistry}

mutual

/-- Registries that agree on the components of a tree have the same to say of it. -/
theorem node_congr : ∀ (path : String) (tree : Node),
    tree.Throughout (Names (AgreeOn registry other)) →
      node registry path tree = node other path tree
  | path, .container envelope body children, agree => by
    have below := ((throughout_container_iff envelope body children).mp agree).2
    rw [node, node, nodesFrom_congr _ 0 children below]
  | path, .component envelope element slots, agree => by
    obtain ⟨here, below⟩ := (throughout_component_iff envelope element slots).mp agree
    have same : registry.get? element.component = other.get? element.component := here _ rfl
    rw [node, node, same, slotNodes_congr _ slots below]

/-- Registries that agree on the components of some nodes have the same to say of the nodes. -/
theorem nodesFrom_congr : ∀ (path : String) (place : Nat) (nodes : List Node),
    (∀ node ∈ nodes, node.Throughout (Names (AgreeOn registry other))) →
      nodesFrom registry path place nodes = nodesFrom other path place nodes
  | path, place, [], _ => rfl
  | path, place, child :: later, agree => by
    obtain ⟨first, rest⟩ := List.forall_mem_cons.mp agree
    rw [nodesFrom, nodesFrom, node_congr _ child first, nodesFrom_congr path _ later rest]

/-- Registries that agree on the components in some slots have the same to say of the slots. -/
theorem slotNodes_congr : ∀ (path : String) (slots : List (String × List Node)),
    (∀ slot ∈ slots, ∀ node ∈ slot.2, node.Throughout (Names (AgreeOn registry other))) →
      slotNodes registry path slots = slotNodes other path slots
  | path, [], _ => rfl
  | path, (slot, nodes) :: later, agree => by
    obtain ⟨first, rest⟩ := List.forall_mem_cons.mp agree
    rw [slotNodes, slotNodes, nodesFrom_congr _ 0 nodes first, slotNodes_congr path later rest]

end

/-- A node that conforms to a registry is of a component that a larger registry agrees on. -/
theorem Conforms.agreeOn {larger : ComponentRegistry} (within : registry.IsWithin larger)
    {node : Node} (conforms : Conforms registry node) : Names (AgreeOn larger registry) node := by
  cases node with
  | container envelope body children => nofun
  | component envelope element slots =>
    obtain ⟨entry, found, -⟩ := conforms
    rintro _ ⟨rfl⟩
    exact within.agreeOn found

end RegistryCheck

/-! ## Validation and compilation -/

namespace Validation
open Node

variable {registry other larger : ComponentRegistry} {document : Json}

/-- Registries that agree on the components of the tree that a document spells have the same to say
of the document. -/
theorem diagnostics_congr (agree : ∀ tree, ofJson? document = some tree →
      ∀ name ∈ tree.componentNames, AgreeOn registry other name) :
    diagnostics document registry = diagnostics document other := by
  unfold diagnostics
  split
  · split
    · next tree spelled =>
      exact RegistryCheck.node_congr "" tree
        ((forall_componentNames_iff tree).mp (agree tree spelled))
    · rfl
  · rfl

/-- A larger registry has the same to say of a document in which the registry finds no error. -/
theorem diagnostics_of_isWithin (within : registry.IsWithin larger)
    (accepted : (diagnostics document registry).any (·.isError) = false) :
    diagnostics document larger = diagnostics document registry := by
  unfold diagnostics at accepted ⊢
  split at accepted
  · split at accepted
    · next tree spelled =>
      have conforms := (RegistryCheck.any_isError_node_iff "" tree).mp accepted
      exact RegistryCheck.node_congr "" tree fun node member =>
        (conforms node member).agreeOn within
    · rfl
  · rfl

/-- Registries that have the same to say of a document validate it alike as a page. -/
theorem validatePage_congr
    (same : diagnostics document registry = diagnostics document other) :
    validatePage document registry = validatePage document other := by
  cases document with
  | object members => simp only [validatePage, same]
  | _ => rfl

/-- In a document that is valid as a page no error is found. -/
theorem accepted_of_validatePage (valid : (validatePage document registry).valid = true) :
    (diagnostics document registry).any (·.isError) = false := by
  cases document with
  | object members =>
    rw [validatePage, ValidationResult.ofDiagnostics, Bool.not_eq_true', List.any_append,
      Bool.or_eq_false_iff] at valid
    exact valid.2
  | _ =>
    exact absurd valid (by
      simp [validatePage, ValidationResult.ofDiagnostics, Diagnostic.isError, Diagnostic.ofError])

/-- What is mentioned decides on what is spelled. -/
theorem diagnostics_congr_of_mentions
    (agree : ∀ name, document.Mentions name → AgreeOn registry other name) :
    diagnostics document registry = diagnostics document other :=
  diagnostics_congr fun tree spelled name member =>
    agree name ((forall_componentNames_iff tree).mpr (mentions_of_read? tree spelled) name member)

end Validation

section Compilation

variable {parser : SyntaxParser} {document : Document} {options : CompileOptions}
  {registry other larger : ComponentRegistry}

/-- Registries that have the same to say of the page of a document compile the document alike. -/
theorem compileWith_congr
    (same : Validation.diagnostics (Lowering.page document).toJson registry =
      Validation.diagnostics (Lowering.page document).toJson other) :
    compileWith parser document registry options = compileWith parser document other options := by
  simp only [compileWith, Validation.validatePage_congr same]

/-- The page of a document that is compiled without an error is valid. -/
theorem valid_page_of_compileWith
    (valid : (compileWith parser document registry options).validation.valid = true) :
    (Validation.validatePage (Lowering.page document).toJson registry).valid = true := by
  by_contra invalid
  simp only [compileWith, invalid, ↓reduceIte] at valid

end Compilation

namespace Validation
open Node

/-- Registries that agree on all components that a document mentions validate it alike, and
registries that agree on all components of the page of a document compile it alike. What is valid
under a registry has the same outcome under a larger one, such as any that components were added to
which it did not have. -/
theorem depends_on_mentions (registry other : ComponentRegistry) :
    (∀ document : Json, (∀ name, document.Mentions name → AgreeOn registry other name) →
      validateNode document registry = validateNode document other ∧
        validatePage document registry = validatePage document other) ∧
    (∀ (parser : SyntaxParser) (document : Document) (options : CompileOptions),
      (∀ name ∈ (Lowering.page document).componentNames, AgreeOn registry other name) →
        compileWith parser document registry options =
          compileWith parser document other options) ∧
    (registry.IsWithin other →
      (∀ document : Json,
        ((validateNode document registry).valid = true →
          validateNode document other = validateNode document registry) ∧
        ((validatePage document registry).valid = true →
          validatePage document other = validatePage document registry)) ∧
      ∀ (parser : SyntaxParser) (document : Document) (options : CompileOptions),
        (compileWith parser document registry options).validation.valid = true →
          compileWith parser document other options =
            compileWith parser document registry options) ∧
    ((∀ named ∈ other.components, registry.get? named.1 = none) →
      registry.IsWithin (registry.extend other)) := by
  refine ⟨fun document agree => ?_, fun parser document options agree => ?_,
    fun within => ⟨fun document => ⟨fun valid => ?_, fun valid => ?_⟩,
      fun parser document options valid => ?_⟩,
    ComponentRegistry.isWithin_extend⟩
  · have same := diagnostics_congr_of_mentions agree
    exact ⟨by rw [validateNode, validateNode, same], validatePage_congr same⟩
  · refine compileWith_congr (diagnostics_congr fun tree spelled => ?_)
    rw [ofJson?_toJson] at spelled
    cases spelled
    exact agree
  · have accepted : (diagnostics document registry).any (·.isError) = false := by
      simpa [validateNode, ValidationResult.ofDiagnostics] using valid
    rw [validateNode, validateNode, diagnostics_of_isWithin within accepted]
  · exact validatePage_congr (diagnostics_of_isWithin within (accepted_of_validatePage valid))
  · exact compileWith_congr (diagnostics_of_isWithin within
      (accepted_of_validatePage (valid_page_of_compileWith valid)))

/-- Neither a card nor a form to sign in by depends on an entry for zebras. -/
theorem depends_on_mentions_zebra :
    let zebra : ComponentRegistry := ⟨[("Zebra", { source := "zoo" })]⟩
    let cards : ComponentRegistry := ⟨[("Card", { source := "ui" })]⟩
    let card : Json :=
      .object [("type", .string "component"),
        ("id", .string "00000000-0000-4000-8000-000000000000"), ("component", .string "Card")]
    let document : Document :=
      { kind := .form, title := "Sign in", scaffold := some .formAuth
        fields := [.plain "email" "Email" .input]
        actions := [⟨"action-submit", "Sign in", .submit, .primary, none⟩] }
    validateNode card .empty = validateNode card zebra ∧
      compileWith (fun _ => []) document .empty {} = compileWith (fun _ => []) document zebra {} ∧
      validateNode card (cards.extend zebra) = validateNode card cards := by
  intro zebra cards card document
  have mentioned : ∀ name, card.Mentions name → name = "Card" := by
    rw [show card = .object _ from rfl]
    intro name names
    cases names with
    | here named => simpa [List.lookup_cons] using named.symm
    | member held below =>
      obtain ⟨-, rfl⟩ | ⟨-, rfl⟩ | ⟨-, rfl⟩ : _ ∨ _ ∨ _ := by simpa using held
      all_goals contradiction
  have within := (depends_on_mentions cards zebra).2.2.2 (by decide +kernel)
  exact ⟨((depends_on_mentions .empty zebra).1 card fun name names =>
      mentioned name names ▸ (by decide +kernel : (ComponentRegistry.empty.get? "Card" = _))).1,
    (depends_on_mentions .empty zebra).2.1 (fun _ => []) document {}
      (by unfold AgreeOn; decide +kernel),
    (((depends_on_mentions cards (cards.extend zebra)).2.2.1 within).1 card).1
      (by decide +kernel)⟩

end Validation
end Formwright
