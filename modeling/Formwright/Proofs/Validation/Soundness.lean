import Formwright.Proofs.Node.RoundTrip
import Formwright.Proofs.Validation.Reading
import Formwright.Proofs.Validation.Registry

/-!
# A document of sound shape spells a tree

A document of which the check of shapes reports nothing is read as a node tree. So validation never
has to say that it could not read a document, and its diagnostics are of one kind at a time: errors
of shape, or what the registry has to say of the tree that the document spells.
-/
namespace Formwright.Shape
open Json

/-! ## The head of a node -/

/-- The kind that a node names to the check of shapes is the one that readers find. -/
theorem kindOf?_of_kind? {members : Members} {kind : NodeKind} (byPlace : Bool)
    (named : kind? members = some kind) : Node.kindOf? byPlace members = some kind := by
  obtain ⟨tag, tagged, named⟩ := Option.bind_eq_some_iff.mp named
  obtain ⟨word, spelled, found⟩ := Option.bind_eq_some_iff.mp named
  cases tag with
  | string held =>
    cases spelled
    have known : word ∈ Vocabulary.words NodeKind :=
      (Vocabulary.mem_words_iff word).mpr ⟨kind, found⟩
    simp [Node.kindOf?, tagged, TagForm.variant, Node.tagForm, known, Except.toOption, found]
  | _ => cases spelled

/-- A node of which the tag is not reported names a kind, which readers find as well. -/
theorem exists_kind {path : String} {members : Members} (byPlace : Bool)
    (silent : required members "type" path kindTag = []) :
    ∃ kind, kind? members = some kind ∧ Node.kindOf? byPlace members = some kind := by
  obtain ⟨value, named, quiet⟩ := required_eq_nil_iff.mp silent
  obtain ⟨word, known, rfl⟩ := exists_word_of_oneOf quiet
  obtain ⟨kind, found⟩ := (Vocabulary.mem_words_iff word).mp known
  have named' : kind? members = some kind := by simp [kind?, named, Json.string?, found]
  exact ⟨kind, named', kindOf?_of_kind? byPlace named'⟩

/-- The kinds other than that of components are read as containers. -/
theorem exists_containerFields {kind : NodeKind} (container : kind.isContainer) :
    ∃ fields, Container.fields? kind = some fields := by
  cases kind with
  | component => contradiction
  | _ => exact ⟨_, rfl⟩

section

variable {byPlace : Bool} {path : String} {members : Members}

/-- The fields of a container that are no nodes are read where nothing is reported of them. -/
theorem exists_containerHead {kind : NodeKind} (named : Node.kindOf? byPlace members = some kind)
    (container : kind.isContainer) (common : envelope path members = [])
    (own : ownFields kind path members = []) :
    ∃ envelope body, Node.head? byPlace members = some (.container envelope body) := by
  obtain ⟨fields, found⟩ := exists_containerFields container
  obtain ⟨envelope, readEnvelope⟩ := envelope_reads common
  obtain ⟨body, readBody⟩ := ownFields_reads found own
  exact ⟨envelope, body, Node.head?_container named found readEnvelope readBody⟩

/-- The fields of an instance of a component that are no nodes are read where nothing is reported of
them. -/
theorem exists_componentHead (named : Node.kindOf? byPlace members = some .component)
    (common : envelope path members = []) (own : ownFields .component path members = [])
    (last : lastFields .component path members = []) :
    ∃ envelope element, Node.head? byPlace members = some (.component envelope element) := by
  obtain ⟨envelope, readEnvelope⟩ := envelope_reads common
  obtain ⟨element, readElement⟩ := component_reads own last
  exact ⟨envelope, element, Node.head?_component named readEnvelope readElement⟩

end

/-! ## Trees -/

mutual

/-- A value is read as a node where nothing is reported of it. -/
theorem node_reads (byPlace : Bool) : ∀ (path : String) (value : Json), node path value = [] →
    ∃ tree, Node.read? byPlace value = some tree
  | path, .object members, silent => by
    simp only [node, List.append_eq_nil_iff] at silent
    obtain ⟨⟨tag, common⟩, rest⟩ := silent
    obtain ⟨kind, shown, named⟩ := exists_kind byPlace tag
    simp only [shown, List.append_eq_nil_iff] at rest
    obtain ⟨⟨own, below⟩, last⟩ := rest
    by_cases container : kind.isContainer
    · obtain ⟨envelope, body, head⟩ := exists_containerHead named container common own
      simp only [container, ↓reduceIte] at below
      obtain ⟨children, readChildren⟩ := children_reads path members below
      exact ⟨.container envelope body children, by simp [Node.read?, head, readChildren]⟩
    · obtain rfl : kind = .component := by
        cases kind <;> first | rfl | exact absurd rfl container
      obtain ⟨envelope, element, head⟩ := exists_componentHead named common own last
      simp only [container] at below
      obtain ⟨slots, readSlots⟩ := slots_reads path members below
      exact ⟨.component envelope element slots, by simp [Node.read?, head, readSlots]⟩
  | path, .null, silent | path, .bool _, silent | path, .integer _, silent
  | path, .float _, silent | path, .string _, silent | path, .array _, silent => by
    simp [node] at silent

/-- The children among some members are read where nothing is reported of them. -/
theorem children_reads : ∀ (path : String) (members : List (String × Json)),
    children path members = [] → ∃ read, Node.readChildren? members = some read
  | path, [], _ => ⟨[], by simp [Node.readChildren?]⟩
  | path, (key, value) :: later, silent => by
    simp only [children] at silent
    by_cases own : key = Node.childrenKey
    · simp only [own, ↓reduceIte] at silent
      obtain ⟨read, found⟩ := nodes_reads _ value silent
      exact ⟨read, by simp [Node.readChildren?, own, found]⟩
    · simp only [own, ↓reduceIte] at silent
      obtain ⟨read, found⟩ := children_reads path later silent
      exact ⟨read, by simp [Node.readChildren?, own, found]⟩

/-- The slots among some members are read where nothing is reported of them. -/
theorem slots_reads : ∀ (path : String) (members : List (String × Json)),
    slots path members = [] → ∃ read, Node.readSlots? members = some read
  | path, [], _ => ⟨[], by simp [Node.readSlots?]⟩
  | path, (key, value) :: later, silent => by
    simp only [slots] at silent
    by_cases own : key = Node.slotsKey
    · simp only [own, ↓reduceIte] at silent
      obtain ⟨read, found⟩ := slotTable_reads _ value silent
      exact ⟨read, by simp [Node.readSlots?, own, found]⟩
    · simp only [own, ↓reduceIte] at silent
      obtain ⟨read, found⟩ := slots_reads path later silent
      exact ⟨read, by simp [Node.readSlots?, own, found]⟩

/-- A table of slots is read where nothing is reported of it. -/
theorem slotTable_reads : ∀ (path : String) (value : Json), slotTable path value = [] →
    ∃ read, Node.readTable? value = some read
  | path, .object members, silent => by
    obtain ⟨read, found⟩ := slotEntries_reads path members (by simpa [slotTable] using silent)
    exact ⟨read, by simp [Node.readTable?, found]⟩
  | path, .null, silent | path, .bool _, silent | path, .integer _, silent
  | path, .float _, silent | path, .string _, silent | path, .array _, silent => by
    simp [slotTable] at silent

/-- The entries of a table of slots are read where nothing is reported of them. -/
theorem slotEntries_reads : ∀ (path : String) (members : List (String × Json)),
    slotEntries path members = [] → ∃ read, Node.readEntries? members = some read
  | path, [], _ => ⟨[], by simp [Node.readEntries?]⟩
  | path, (slot, value) :: later, silent => by
    simp only [slotEntries, List.append_eq_nil_iff] at silent
    obtain ⟨nodes, found⟩ := nodes_reads _ value silent.1
    obtain ⟨read, rest⟩ := slotEntries_reads path later silent.2
    exact ⟨(slot, nodes) :: read, by simp [Node.readEntries?, found, rest]⟩

/-- A list of nodes is read where nothing is reported of it. -/
theorem nodes_reads : ∀ (path : String) (value : Json), nodes path value = [] →
    ∃ read, Node.readList? value = some read
  | path, .array items, silent => by
    obtain ⟨read, found⟩ := nodesFrom_reads path 0 items (by simpa [nodes] using silent)
    exact ⟨read, by simp [Node.readList?, found]⟩
  | path, .null, silent | path, .bool _, silent | path, .integer _, silent
  | path, .float _, silent | path, .string _, silent | path, .object _, silent => by
    simp [nodes] at silent

/-- The nodes of a list are read where nothing is reported of any of them. -/
theorem nodesFrom_reads : ∀ (path : String) (place : Nat) (items : List Json),
    nodesFrom path place items = [] → ∃ read, Node.readItems? items = some read
  | path, place, [], _ => ⟨[], by simp [Node.readItems?]⟩
  | path, place, item :: later, silent => by
    simp only [nodesFrom, List.append_eq_nil_iff] at silent
    obtain ⟨tree, found⟩ := node_reads true _ item silent.1
    obtain ⟨read, rest⟩ := nodesFrom_reads path (place + 1) later silent.2
    exact ⟨tree :: read, by simp [Node.readItems?, found, rest]⟩

end

end Formwright.Shape

namespace Formwright.Validation

/-- The diagnostics of a document of unsound shape are those of its shape. -/
theorem diagnostics_of_faults {document : Json} (registry : ComponentRegistry)
    (faulty : Shape.node "" document ≠ []) :
    diagnostics document registry = Shape.node "" document := by
  unfold diagnostics
  split
  · contradiction
  · rfl

/-- The diagnostics of a document of sound shape are those of the tree that it spells. -/
theorem diagnostics_of_tree {document : Json} {tree : Node} (registry : ComponentRegistry)
    (sound : Shape.node "" document = []) (spelled : Node.ofJson? document = some tree) :
    diagnostics document registry = RegistryCheck.node registry "" tree := by
  simp only [diagnostics, sound, spelled]

/-- The diagnostics that a validation shows are those of its document. -/
theorem diagnostics_validateNode (document : Json) (registry : ComponentRegistry) :
    (validateNode document registry).diagnostics = diagnostics document registry := rfl

/-- A document of sound shape is read, so that validation never fails to read one; and it reports
either errors of shape alone or what the registry has to say of the tree that was read. -/
theorem validateNode_reads (document : Json) (registry : ComponentRegistry) :
    (∀ path, Shape.node path document = [] → ∃ tree, Node.ofJson? document = some tree) ∧
      (∀ diagnostic ∈ (validateNode document registry).diagnostics,
        diagnostic.code ≠ some Diagnostic.unknownError) ∧
      ((Shape.node "" document ≠ [] ∧
          (validateNode document registry).diagnostics = Shape.node "" document ∧
          ∀ diagnostic ∈ (validateNode document registry).diagnostics,
            diagnostic.level = .error ∧ diagnostic.code = some Diagnostic.schemaError) ∨
        Shape.node "" document = [] ∧ ∃ tree, Node.ofJson? document = some tree ∧
          (validateNode document registry).diagnostics = RegistryCheck.node registry "" tree ∧
          ∀ diagnostic ∈ (validateNode document registry).diagnostics,
            RegistryCheck.IsReport diagnostic) := by
  refine ⟨fun path silent => Shape.node_reads false path document silent, ?_⟩
  by_cases sound : Shape.node "" document = []
  · obtain ⟨tree, spelled⟩ := Shape.node_reads false "" document sound
    rw [diagnostics_validateNode, diagnostics_of_tree registry sound spelled]
    have reports : ∀ diagnostic ∈ RegistryCheck.node registry "" tree,
        RegistryCheck.IsReport diagnostic := fun _ => RegistryCheck.isReport_of_mem_node
    refine ⟨fun diagnostic reported => ?_, .inr ⟨sound, tree, spelled, rfl, reports⟩⟩
    obtain ⟨_, code | code | code⟩ | ⟨_, code⟩ := reports diagnostic reported <;>
      rw [code] <;> decide
  · rw [diagnostics_validateNode, diagnostics_of_faults registry sound]
    have faults := Shape.onlyFaults_node "" document
    refine ⟨fun diagnostic reported => ?_, .inl ⟨sound, rfl, faults⟩⟩
    rw [(faults diagnostic reported).2]
    decide

end Formwright.Validation
