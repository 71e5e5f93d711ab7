import Formwright.Proofs.Node.RoundTrip
import Formwright.Proofs.Node.Spelled

/-!
# Rewriting documents of trees

A document that is read as a tree and written again settles at once: what is written is read as the
same tree, so it is written again as it stands. Keys that the format does not know are gone from it,
at every node and in every record inside a node, and what a node leaves to a default is written
out.
-/
namespace Formwright
open Json Json.Fields

attribute [local simp] List.lookup_append lookup_cons_ite

/-! ## Keys -/

/-- The value has no members but under the keys. -/
def Json.KeysWithin (value : Json) (keys : List String) : Prop :=
  ∀ key ∉ keys, value.get? key = none

/-- The keys of what a node says to assistive technology. -/
def Accessibility.keys : List String :=
  ["role", "label", "labelledBy", "describedBy", "live", "hidden"]

/-- The keys of a layout. -/
def Layout.keys : List String :=
  ["width", "height", "maxWidth", "padding", "margin", "gap", "align", "justify"]

/-- The keys of a data source. -/
def DataSource.keys (source : DataSource) : List String :=
  match source.origin with
  | .placeholder _ => ["type", "id", "description"]
  | .static _ => ["type", "id", "data"]
  | .url .. => ["type", "id", "url", "method", "refreshMs"]

/-- The keys of a payload. -/
def Payload.keys (payload : Payload) : List String :=
  match payload.view with
  | .table _ => ["kind", "dataSourceId", "columns"]
  | .chart _ => ["kind", "dataSourceId", "chartType"]

/-- The keys of a binding. -/
def Binding.keys : List String := ["sourceId", "path", "prop"]

/-- The keys of the nodes of a kind that stand beside the envelope. -/
def NodeKind.keys : NodeKind → List String
  | .page => ["title", "dataSources", Node.childrenKey]
  | .section => ["title", "payload", Node.childrenKey]
  | .grid => ["columns", Node.childrenKey]
  | .stack => ["direction", Node.childrenKey]
  | .twoColumn => ["ratio", Node.childrenKey]
  | .threeColumn => [Node.childrenKey]
  | .sidebar => ["side", "width", Node.childrenKey]
  | .block => [Node.childrenKey]
  | .component => ["component", "props", "variant", "bind", Node.slotsKey]

/-- What a node says to assistive technology is written under its keys. -/
theorem Accessibility.keysWithin_toJson (a11y : Accessibility) :
    a11y.toJson.KeysWithin keys := by
  intro key foreign
  simp only [keys, List.mem_cons, List.not_mem_nil, or_false, not_or] at foreign
  simp [toJson, get?, members?, foreign]

/-- A layout is written under its keys. -/
theorem Layout.keysWithin_toJson (layout : Layout) : layout.toJson.KeysWithin keys := by
  intro key foreign
  simp only [keys, List.mem_cons, List.not_mem_nil, or_false, not_or] at foreign
  simp [toJson, get?, members?, foreign]

/-- A data source is written under its keys. -/
theorem DataSource.keysWithin_toJson (source : DataSource) :
    source.toJson.KeysWithin source.keys := by
  obtain ⟨id, origin⟩ := source
  intro key foreign
  cases origin <;>
    simp only [keys, List.mem_cons, List.not_mem_nil, or_false, not_or] at foreign <;>
    simp [toJson, get?, members?, foreign]

/-- A payload is written under its keys. -/
theorem Payload.keysWithin_toJson (payload : Payload) :
    payload.toJson.KeysWithin payload.keys := by
  obtain ⟨source, view⟩ := payload
  intro key foreign
  cases view <;>
    simp only [keys, List.mem_cons, List.not_mem_nil, or_false, not_or] at foreign <;>
    simp [toJson, get?, members?, foreign]

/-- A binding is written under its keys. -/
theorem Binding.keysWithin_toJson (binding : Binding) : binding.toJson.KeysWithin keys := by
  intro key foreign
  simp only [keys, List.mem_cons, List.not_mem_nil, or_false, not_or] at foreign
  simp [toJson, get?, members?, foreign]

/-! ## The records of a node -/

/-- The records inside an envelope, each beside its keys. -/
def Envelope.records (envelope : Envelope) : List (Json × List String) :=
  (envelope.accessibility.map fun a11y => (a11y.toJson, Accessibility.keys)).toList
    ++ (envelope.layout.map fun layout => (layout.toJson, Layout.keys)).toList

/-- The records inside a container, each beside its keys. -/
def Container.records : Container → List (Json × List String)
  | .page _ dataSources => dataSources.map fun source => (source.toJson, source.keys)
  | .section _ payload => (payload.map fun held => (held.toJson, held.keys)).toList
  | _ => []

/-- The records inside an instance of a component, each beside its keys. -/
def Component.records (element : Component) : List (Json × List String) :=
  element.bindings.map fun binding => (binding.toJson, Binding.keys)

namespace Node

/-- The keys of a node. -/
def keys (node : Node) : List String := "type" :: Envelope.keys ++ node.kind.keys

/-- The records that a node is written with, each beside its keys: the node itself and the records
of its envelope and of its kind. -/
def records (node : Node) : List (Json × List String) :=
  (node.toJson, node.keys) :: node.envelope.records ++
    match node with
    | .container _ body _ => body.records
    | .component _ element _ => element.records

/-- A node is written under its keys. -/
theorem keysWithin_toJson (node : Node) : node.toJson.KeysWithin node.keys := by
  intro key foreign
  simp only [keys, List.cons_append, List.mem_cons, List.mem_append, not_or] at foreign
  obtain ⟨notType, notShared, notOwn⟩ := foreign
  have unshared : node.envelope.members.lookup key = none :=
    Envelope.lookup_members_eq_none notShared
  have unheld : node.ownMembers.lookup key = none ∧ node.membersBelow.lookup key = none := by
    cases node with
    | container envelope body children =>
      cases body <;>
        simp only [kind, Container.kind, NodeKind.keys, List.mem_cons, List.not_mem_nil, or_false,
          not_or] at notOwn <;>
        simp [ownMembers, Container.members, membersBelow, notOwn]
    | component envelope element slots =>
      simp only [kind, NodeKind.keys, List.mem_cons, List.not_mem_nil, or_false, not_or] at notOwn
      cases slots <;> simp [ownMembers, Component.members, membersBelow, notOwn]
  simp [toJson_eq, get?, members?, members, notType, unshared, unheld]

/-- Every record that a node is written with is written under its keys. -/
theorem keysWithin_of_mem_records {node : Node} :
    ∀ record ∈ node.records, record.1.KeysWithin record.2 := by
  have common : ∀ record ∈ node.envelope.records, record.1.KeysWithin record.2 := by
    simp only [Envelope.records, List.forall_mem_append, Option.mem_toList, Option.map_eq_some_iff]
    constructor
    · rintro _ ⟨a11y, -, rfl⟩
      exact a11y.keysWithin_toJson
    · rintro _ ⟨layout, -, rfl⟩
      exact layout.keysWithin_toJson
  simp only [records, List.cons_append, List.forall_mem_cons, List.forall_mem_append]
  refine ⟨node.keysWithin_toJson, common, ?_⟩
  cases node with
  | container envelope body children =>
    cases body with
    | page title dataSources =>
      simpa only [Container.records, List.forall_mem_map] using
        fun source _ => source.keysWithin_toJson
    | «section» title payload =>
      simp only [Container.records, Option.mem_toList, Option.map_eq_some_iff]
      rintro _ ⟨held, -, rfl⟩
      exact held.keysWithin_toJson
    | _ => exact List.forall_mem_nil _
  | component envelope element slots =>
    simpa only [Component.records, List.forall_mem_map] using
      fun binding _ => binding.keysWithin_toJson

end Node

/-! ## Defaults -/

/-- What is written of a node of a kind for the fields of its own that it leaves out. -/
def NodeKind.ownDefaults : NodeKind → Members
  | .page => [("dataSources", .array [])]
  | .stack => [("direction", wordJson Direction.vertical)]
  | .sidebar => [("side", wordJson Side.left)]
  | .component => [("props", .object [])]
  | .section | .grid | .twoColumn | .threeColumn | .block => []

/-- What is written of a node of a kind for what it leaves out. -/
def NodeKind.defaults (kind : NodeKind) : Members :=
  kind.ownDefaults ++ if kind.isContainer then [(Node.childrenKey, .array [])] else []

/-- A field with a default that is left out is read as its default. -/
theorem Json.Fields.eq_of_absent {α : Type} {record : Record} {name : String} {absent value : α}
    {reader : Reader α} (read : (withDefault name absent reader).Yields record value)
    (missing : record.entries.lookup name = none) : value = absent :=
  (Except.ok.inj ((yields_absent missing).symm.trans read)).symm

/-- A container is of the kind that its fields were chosen by. -/
theorem Container.kind_eq_of_yields {kind : NodeKind} {fields : Fields Container}
    {record : Record} {body : Container} (known : fields? kind = some fields)
    (read : fields.Yields record body) : body.kind = kind := by
  cases kind with
  | component => contradiction
  | page | sidebar | «section» =>
    cases known
    obtain ⟨_, _, first, _, rfl⟩ := read.exists_seq
    obtain ⟨_, _, rfl⟩ := first.exists_map
    rfl
  | grid | stack | twoColumn =>
    cases known
    obtain ⟨_, _, rfl⟩ := read.exists_map
    rfl
  | threeColumn | block =>
    cases known
    cases read
    rfl

/-- What is left to read of a tagged value that was written as an object is the whole of it. -/
theorem Json.TagForm.content_eq_of_split {form : TagForm} {members : Members} {variant : String}
    {content : Json} (parted : form.split (.object members) = .ok (variant, content)) :
    content = .object members := by
  rw [split] at parted
  split at parted
  · contradiction
  · next tag _ =>
    cases named : form.variant tag with
    | error mismatch => simp [named, Except.map] at parted
    | ok name =>
      rw [named] at parted
      exact (congrArg Prod.snd (Except.ok.inj parted)).symm

/-- A container that leaves out a field of its own with a default is written with the default. -/
theorem Container.lookup_of_absent {body : Container} {fields : Fields Container}
    {held : Members} (known : fields? body.kind = some fields)
    (read : fields.Yields (.keyed held) body) : ∀ entry ∈ body.kind.ownDefaults,
    held.lookup entry.1 = none →
      entry.1 ∈ keys ∧ body.members.lookup entry.1 = some entry.2 := by
  cases body with
  | page title dataSources =>
    cases known
    obtain ⟨_, _, titled, sources, same⟩ := read.exists_seq
    obtain ⟨_, _, rfl⟩ := titled.exists_map
    cases same
    refine List.forall_mem_singleton.mpr fun missing => ⟨by decide, ?_⟩
    simp [members, eq_of_absent sources missing]
  | stack direction =>
    cases known
    obtain ⟨_, directed, same⟩ := read.exists_map
    cases same
    refine List.forall_mem_singleton.mpr fun missing => ⟨by decide, ?_⟩
    simp [members, eq_of_absent directed missing]
  | sidebar side width =>
    cases known
    obtain ⟨_, _, placed, _, same⟩ := read.exists_seq
    obtain ⟨_, sided, rfl⟩ := placed.exists_map
    cases same
    refine List.forall_mem_singleton.mpr fun missing => ⟨by decide, ?_⟩
    simp [members, eq_of_absent sided missing]
  | «section» | grid | twoColumn | threeColumn | block => exact List.forall_mem_nil _

/-- An instance of a component that leaves out its props is written with none. -/
theorem Component.lookup_of_absent {element : Component} {held : Members}
    (read : fields.Yields (.keyed held) element) : ∀ entry ∈ NodeKind.component.ownDefaults,
    held.lookup entry.1 = none →
      entry.1 ∈ keys ∧ element.members.lookup entry.1 = some entry.2 := by
  obtain ⟨_, _, upToVariant, _, same⟩ := read.exists_seq
  obtain ⟨_, _, upToProps, _, rfl⟩ := upToVariant.exists_seq
  obtain ⟨_, _, named, readProps, rfl⟩ := upToProps.exists_seq
  obtain ⟨_, _, rfl⟩ := named.exists_map
  cases same
  refine List.forall_mem_singleton.mpr fun missing => ⟨by decide, ?_⟩
  simp [members, eq_of_absent readProps missing]

/-- A payload that was written as an object without columns shows none in a table. -/
theorem Payload.columns_eq_nil {members : Members} {payload : Payload} {columns : List String}
    (read : reader (.object members) = .ok payload) (missing : members.lookup "columns" = none)
    (shown : payload.view = .table columns) : columns = [] := by
  rw [reader] at read
  cases parted : tagForm.split (.object members) with
  | error mismatch => simp [parted, bind, Except.bind] at read
  | ok found =>
    obtain ⟨variant, content⟩ := found
    obtain rfl := TagForm.content_eq_of_split parted
    simp only [parted, bind, Except.bind] at read
    unfold readVariant at read
    split at read
    · obtain ⟨_, listed, _, readColumns, rfl⟩ := (Reader.yields_of_record read).exists_seq
      rename_i source
      obtain ⟨_, _, rfl⟩ := source.exists_map
      cases shown
      exact eq_of_absent readColumns missing
    · obtain ⟨_, _, source, _, rfl⟩ := (Reader.yields_of_record read).exists_seq
      obtain ⟨_, _, rfl⟩ := source.exists_map
      cases shown

namespace Node

/-- A node shows what an object that it was read of leaves to a default: what its kind has defaults
for, and the columns of a table. -/
structure FillsIn (node : Node) (members : Members) : Prop where
  fields : ∀ entry ∈ node.kind.defaults, members.lookup entry.1 = none →
    node.toJson.get? entry.1 = some entry.2
  columns : ∀ {envelope title payload children held columns},
    node = .container envelope (.section title (some payload)) children →
    members.lookup "payload" = some (.object held) → held.lookup "columns" = none →
    payload.view = .table columns → columns = []

variable {byPlace : Bool} {members : Members}

/-- A node was read of the fields of its head. -/
theorem head?_of_read? {node : Node} (read : read? byPlace (.object members) = some node) :
    head? byPlace members = some node.toHead := by
  rw [read?] at read
  obtain ⟨head, found, read⟩ := Option.bind_eq_some_iff.mp read
  cases head with
  | container envelope body =>
    obtain ⟨_, _, same⟩ := Option.bind_eq_some_iff.mp read
    cases same
    exact found
  | component envelope element =>
    obtain ⟨_, _, same⟩ := Option.bind_eq_some_iff.mp read
    cases same
    exact found

/-- A container was read of the fields of its kind. -/
theorem exists_fields_of_head? {envelope : Envelope} {body : Container}
    (read : head? byPlace members = some (.container envelope body)) :
    ∃ fields, Container.fields? body.kind = some fields ∧
      fields.Yields (.keyed members) body := by
  unfold head? at read
  obtain ⟨kind, _, read⟩ := Option.bind_eq_some_iff.mp read
  obtain ⟨common, _, read⟩ := Option.bind_eq_some_iff.mp read
  split at read
  · next fields known =>
    obtain ⟨found, taken, same⟩ := Option.bind_eq_some_iff.mp read
    cases same
    have own : fields.Yields (.keyed members) body := by
      unfold Yields
      cases held : fields (.keyed members) with
      | error faults => simp [held, Except.toOption] at taken
      | ok body => simpa [held, Except.toOption] using taken
    exact ⟨fields, Container.kind_eq_of_yields known own ▸ known, own⟩
  · obtain ⟨_, _, same⟩ := Option.bind_eq_some_iff.mp read
    cases same

/-- A node fills in what an object that it was read of leaves out. -/
theorem fillsIn_of_read? {node : Node} (read : read? byPlace (.object members) = some node) :
    node.FillsIn members := by
  cases node with
  | container envelope body children =>
    obtain ⟨_, same, below⟩ := exists_of_read?_container read
    cases same
    obtain ⟨fields, known, own⟩ := exists_fields_of_head? (head?_of_read? read)
    constructor
    · rw [toJson_eq]
      have contained : body.kind.isContainer = true := by cases body <;> rfl
      simp only [kind, NodeKind.defaults, contained, ↓reduceIte, List.forall_mem_append,
        List.forall_mem_singleton]
      constructor
      · intro entry member missing
        obtain ⟨listed, shown⟩ := Container.lookup_of_absent known own entry member missing
        exact (lookup_container listed).trans shown
      · intro missing
        rw [readChildren?_eq, missing, Option.elim_none, Option.some.injEq] at below
        exact (lookup_children envelope body children).trans (by rw [← below, toJsonAll])
    · rintro _ title payload _ held columns same present missing shown
      cases same
      cases known
      obtain ⟨_, _, titled, readPayload, same⟩ := own.exists_seq
      obtain ⟨_, _, rfl⟩ := titled.exists_map
      cases same
      obtain ⟨value, found, taken⟩ :=
        exists_of_withDefault readPayload (Option.some_ne_none payload)
      cases found.symm.trans present
      exact Payload.columns_eq_nil (Reader.of_optional_ok taken) missing shown
  | component envelope element slots =>
    obtain ⟨_, same, own, _⟩ := exists_of_read?_component read
    cases same
    constructor
    · intro entry member missing
      obtain ⟨listed, shown⟩ := Component.lookup_of_absent own entry member missing
      rw [toJson_eq]
      exact (lookup_component listed).trans shown
    · rintro _ _ _ _ _ _ same
      cases same

/-! ## Rewriting -/

/-- The value that a document becomes when it is read as a tree and written again. -/
def rewrite? (document : Json) : Option Json := (ofJson? document).map toJson

/-- Every tree is read back as it was written. So a document that is read as a tree becomes, once
written again, a value that does not change any more; in it no node and no record inside a node has
a key that the format does not know, and where the document leaves something to a default, the node
that its pointer comes to is written with the default. -/
theorem rewrite?_idempotent :
    (∀ tree : Node, ofJson? tree.toJson = some tree) ∧
    ∀ document tree, ofJson? document = some tree →
      rewrite? document = some tree.toJson ∧ rewrite? tree.toJson = some tree.toJson ∧
      (∀ node ∈ tree.walk, ∀ record ∈ node.records, record.1.KeysWithin record.2) ∧
      (document.IsKeyed → ∀ visit ∈ tree.visits "" [], ∃ members,
        document.at? visit.path = some (.object members) ∧ visit.node.FillsIn members) := by
  refine ⟨ofJson?_toJson, fun document tree read => ⟨?_, ?_, ?_, ?_⟩⟩
  · rw [rewrite?, read, Option.map_some]
  · rw [rewrite?, ofJson?_toJson, Option.map_some]
  · exact fun node _ => keysWithin_of_mem_records
  · intro keyed visit member
    obtain ⟨byPlace, value, named, spelled⟩ :=
      spells_visits document keyed at?_root read visit member
    cases value with
    | object members => exact ⟨members, named, fillsIn_of_read? spelled⟩
    | _ => simp [read?] at spelled

/-- A stack with a key that the format does not know, without a direction, over a component without
props settles. -/
theorem rewrite?_idempotent_stack :
    let nil := "00000000-0000-0000-0000-000000000000"
    let document : Json := .object [
      ("children", .array [.object [("component", .string "Card"), ("id", .string nil),
        ("type", .string "component")]]),
      ("id", .string nil), ("note", .bool true), ("type", .string "stack")]
    let settled : Json := .object [("type", .string "stack"), ("id", .string nil),
      ("direction", .string "vertical"),
      ("children", .array [.object [("type", .string "component"), ("id", .string nil),
        ("component", .string "Card"), ("props", .object [])]])]
    rewrite? document = some settled ∧ rewrite? settled = some settled := by
  intro nil document settled
  let id : NodeId := ⟨List.replicate 32 0, rfl⟩
  let tree : Node := .container ⟨id, none, none, none, none, none⟩ (.stack .vertical)
    [.component ⟨id, none, none, none, none, none⟩ ⟨"Card", [], none, []⟩ []]
  have read : ofJson? document = some tree := by
    simp only [document, tree, nil, id]
    rfl
  have written : tree.toJson = settled := by rfl
  obtain ⟨first, again, _⟩ := rewrite?_idempotent.2 document tree read
  rw [written] at first again
  exact ⟨first, again⟩

end Node

end Formwright
