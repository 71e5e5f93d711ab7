import Formwright.Proofs.Validation.Alike
import Formwright.Proofs.Validation.Soundness
import Formwright.Proofs.Validation.Written

/-!
# Foreign keys

A node is checked and read by what stands under the keys of its vocabulary. So a key that is foreign
to an object of a document may be put into it with any value: the document is checked and read like
before, and thus validated like before.
-/
namespace Formwright
open Json

/-- A case on a value is told by what is made of the value. -/
theorem elim_eq_getD {α β : Type} (value : Option α) (absent : β) (found : α → β) :
    value.elim absent found = (value.map found).getD absent := by
  cases value <;> rfl

/-! ## Nodes -/

section

variable {members members' : Members} {path : String} {byPlace : Bool}

/-- In no kind does anything of its own stand under the keys that all nodes have. -/
theorem Node.lookup_spots {name : String} (shared : name ∈ "type" :: Envelope.keys) :
    (Node.spots byPlace members).lookup name = Envelope.spots.lookup name := by
  have own : (((Node.kindOf? byPlace members).map NodeKind.spots).getD []).lookup name = none := by
    revert name
    cases Node.kindOf? byPlace members with
    | none => exact fun _ => rfl
    | some kind => cases kind <;> decide
  rw [Node.spots, List.lookup_append, own, Option.or_none]

section

variable (alike : ∀ name ∈ Node.vocabulary byPlace members,
  Spot.AlikeAt (Node.spots byPlace members) members members' name)
include alike

/-- The simple values under the keys that all nodes have are the same. -/
theorem Node.lookup_eq : ∀ name ∈ ["type", "id", "name", "testId", "dataUiId"],
    members'.lookup name = members.lookup name := by
  have simple : ∀ name ∈ ["type", "id", "name", "testId", "dataUiId"],
      name ∈ "type" :: Envelope.keys ∧ Envelope.spots.lookup name = none := by decide
  intro name listed
  obtain ⟨shared, none⟩ := simple name listed
  exact (alike name (List.mem_append_left _ shared)).lookup_eq ((lookup_spots shared).trans none)

/-- What all nodes carry is checked alike. -/
theorem Node.envelope_checked (path : String) :
    Shape.envelope path members' = Shape.envelope path members := by
  have simple := Node.lookup_eq alike
  have a11y := (alike "a11y" (List.mem_append_left _ (by decide))).check_eq
    ((lookup_spots (by decide)).trans rfl)
  have layout := (alike "layout" (List.mem_append_left _ (by decide))).check_eq
    ((lookup_spots (by decide)).trans rfl)
  simp only [Spot.check] at a11y layout
  simp (disch := decide) [Shape.envelope, Shape.optional_eq_getD, Shape.required_eq_getD, simple,
    a11y, layout]

/-- What all nodes carry is read alike. -/
theorem Node.envelope_read :
    Envelope.fields.read? (.keyed members') = Envelope.fields.read? (.keyed members) := by
  have simple := Node.lookup_eq alike
  have a11y := (alike "a11y" (List.mem_append_left _ (by decide))).optional_eq
    ((lookup_spots (by decide)).trans rfl) Accessibility.reader fun alike => alike.read
  have layout := (alike "layout" (List.mem_append_left _ (by decide))).optional_eq
    ((lookup_spots (by decide)).trans rfl) Layout.reader fun alike => alike.read
  simp (disch := decide) [Envelope.fields, Record.keyed, simple, a11y, layout]

end

/-- The containers have their children under a key of theirs. -/
theorem NodeKind.children_spot {kind : NodeKind} (contains : kind.isContainer) :
    Node.childrenKey ∈ kind.keys ∧
      (Envelope.spots ++ kind.spots).lookup Node.childrenKey = some .nodes := by
  revert contains
  cases kind <;> decide

section

variable {kind : NodeKind} (own : ∀ name ∈ kind.keys,
  Spot.AlikeAt (Envelope.spots ++ kind.spots) members members' name)
include own

/-- The simple values under the keys of a kind are the same. -/
theorem NodeKind.lookup_eq : ∀ name ∈ kind.keys,
    (Envelope.spots ++ kind.spots).lookup name = none →
      members'.lookup name = members.lookup name :=
  fun name listed => (own name listed).lookup_eq

/-- The fields of a kind are checked alike. -/
theorem NodeKind.ownFields_checked (path : String) :
    Shape.ownFields kind path members' = Shape.ownFields kind path members := by
  have simple := NodeKind.lookup_eq own
  cases kind with
  | page =>
    have sources := (own "dataSources" (by decide)).check_eq rfl
    simp only [Spot.check] at sources
    simp (disch := decide) only [Shape.ownFields, Shape.optional_eq_getD, simple, sources]
  | «section» =>
    have payload := (own "payload" (by decide)).check_eq rfl
    simp only [Spot.check] at payload
    simp (disch := decide) only [Shape.ownFields, Shape.optional_eq_getD, simple, payload]
  | _ =>
    simp (disch := decide) only [Shape.ownFields, Shape.optional_eq_getD, Shape.required_eq_getD,
      simple]

/-- The fields of a kind that stand after the nodes below are checked alike. -/
theorem NodeKind.lastFields_checked (path : String) :
    Shape.lastFields kind path members' = Shape.lastFields kind path members := by
  cases kind with
  | component =>
    have bindings := (own "bind" (by decide)).check_eq rfl
    simp only [Spot.check] at bindings
    simp only [Shape.lastFields, Shape.optional_eq_getD, bindings]
  | _ => rfl

/-- The nodes below a node are checked alike. -/
theorem NodeKind.below_checked (path : String) :
    (if kind.isContainer then Shape.children path members' else Shape.slots path members') =
      if kind.isContainer then Shape.children path members else Shape.slots path members := by
  by_cases contains : kind.isContainer
  · obtain ⟨listed, spot⟩ := NodeKind.children_spot contains
    have below := (own _ listed).check_eq spot (Pointer.push path Node.childrenKey)
    simp only [Spot.check] at below
    simp only [if_pos contains, Shape.children_eq, elim_eq_getD, below]
  · obtain rfl : kind = .component := by
      revert contains
      cases kind <;> decide
    have below := (own Node.slotsKey (by decide)).check_eq rfl (Pointer.push path Node.slotsKey)
    simp only [Spot.check] at below
    simp only [if_neg contains, Shape.slots_eq, elim_eq_getD, below]

/-- The fields of a container are read alike. -/
theorem NodeKind.fields_read {fields : Fields Container}
    (known : Container.fields? kind = some fields) :
    fields.read? (.keyed members') = fields.read? (.keyed members) := by
  have simple := NodeKind.lookup_eq own
  cases kind with
  | page =>
    cases known
    have sources : (members'.lookup "dataSources").map (Reader.list DataSource.reader).read? =
        (members.lookup "dataSources").map (Reader.list DataSource.reader).read? :=
      (own "dataSources" (by decide)).map_eq rfl fun alike => alike.read
    simp (disch := decide) [Record.keyed, simple, sources]
  | «section» =>
    cases known
    have payload :=
      (own "payload" (by decide)).optional_eq rfl Payload.reader fun alike => alike.read
    simp (disch := decide) [Record.keyed, simple, payload]
  | component => contradiction
  | _ =>
    cases known
    simp (disch := decide) [Record.keyed, simple]

/-- The children of a container are read alike. -/
theorem NodeKind.children_read (contains : kind.isContainer) :
    Node.readChildren? members' = Node.readChildren? members := by
  obtain ⟨listed, spot⟩ := NodeKind.children_spot contains
  have below : (members'.lookup Node.childrenKey).map Node.readList? =
      (members.lookup Node.childrenKey).map Node.readList? :=
    (own _ listed).map_eq spot fun alike => alike.read
  rw [Node.readChildren?_eq, Node.readChildren?_eq, elim_eq_getD, elim_eq_getD, below]

end

/-- The fields and the slots of an instance of a component are read alike. -/
theorem Component.read_alike
    (own : ∀ name ∈ NodeKind.component.keys,
      Spot.AlikeAt (Envelope.spots ++ NodeKind.component.spots) members members' name) :
    Component.fields.read? (.keyed members') = Component.fields.read? (.keyed members) ∧
      Node.readSlots? members' = Node.readSlots? members := by
  have simple := NodeKind.lookup_eq own
  have bindings : (members'.lookup "bind").map (Reader.list Binding.reader).read? =
      (members.lookup "bind").map (Reader.list Binding.reader).read? :=
    (own "bind" (by decide)).map_eq rfl fun alike => alike.read
  have slots : (members'.lookup Node.slotsKey).map Node.readTable? =
      (members.lookup Node.slotsKey).map Node.readTable? :=
    (own Node.slotsKey (by decide)).map_eq rfl fun alike => alike.read
  constructor
  · simp (disch := decide) [Component.fields, Record.keyed, simple, bindings]
  · rw [Node.readSlots?_eq, Node.readSlots?_eq, elim_eq_getD, elim_eq_getD, slots]

/-- A node is read of its kind, of the fields that all nodes have, and of the fields and the nodes
below that its kind has. -/
theorem Node.read?_object (byPlace : Bool) (members : Members) :
    read? byPlace (.object members) = (kindOf? byPlace members).bind fun kind =>
      (Envelope.fields.read? (.keyed members)).bind fun envelope =>
        match Container.fields? kind with
        | some fields => (fields.read? (.keyed members)).bind fun body =>
            (readChildren? members).map (.container envelope body)
        | none => (Component.fields.read? (.keyed members)).bind fun element =>
            (readSlots? members).map (.component envelope element) := by
  rw [read?, head?]
  cases kindOf? byPlace members with
  | none => rfl
  | some kind =>
    simp only [bind, Option.bind_some, Fields.read?]
    cases Envelope.fields (.keyed members) with
    | error faults => rfl
    | ok envelope =>
      cases Container.fields? kind with
      | some fields =>
        cases held : fields (.keyed members) with
        | error faults => simp [held, Except.toOption]
        | ok body => cases readChildren? members <;> simp [held, Except.toOption]
      | none =>
        cases held : Component.fields (.keyed members) with
        | error faults => simp [Except.toOption]
        | ok element => cases readSlots? members <;> simp [Except.toOption]

/-- A node is told by what stands under the keys of its vocabulary. -/
theorem Node.alike (alike : ∀ name ∈ vocabulary byPlace members,
      Spot.AlikeAt (spots byPlace members) members members' name) :
    (Spot.node byPlace).Alike (.object members) (.object members') := by
  have type := lookup_eq alike "type" (by decide)
  have own {kind : NodeKind} (named : kindOf? byPlace members = some kind) :
      ∀ name ∈ kind.keys,
        Spot.AlikeAt (Envelope.spots ++ kind.spots) members members' name := by
    intro name listed
    have known : name ∈ vocabulary byPlace members := by
      rw [vocabulary, named]
      exact List.mem_append_right _ listed
    have at' := alike name known
    rwa [spots, named] at at'
  refine ⟨fun path => ?_, ?_, nofun, nofun⟩
  · simp only [Spot.check]
    have kinds : Shape.kind? members' = Shape.kind? members := by rw [Shape.kind?, type]; rfl
    rw [Shape.node, Shape.node, Shape.required_eq_getD, Shape.required_eq_getD, type, kinds,
      envelope_checked alike]
    cases named : Shape.kind? members with
    | none => rfl
    | some kind =>
      have own := own (Shape.kindOf?_of_kind? byPlace named)
      dsimp only
      rw [kind.ownFields_checked own, kind.lastFields_checked own, kind.below_checked own]
  · change read? byPlace (.object members') = read? byPlace (.object members)
    have kinds : kindOf? byPlace members' = kindOf? byPlace members := by rw [kindOf?, type]; rfl
    rw [read?_object, read?_object, kinds, envelope_read alike]
    cases named : kindOf? byPlace members with
    | none => rfl
    | some kind =>
      have own := own named
      dsimp only [Option.bind_some]
      cases known : Container.fields? kind with
      | some fields =>
        have contains : kind.isContainer := by cases kind <;> first | rfl | contradiction
        simp only [kind.fields_read own known, kind.children_read own contains]
      | none =>
        obtain rfl : kind = .component := by cases kind <;> first | rfl | contradiction
        obtain ⟨element, slots⟩ := Component.read_alike own
        simp only [element, slots]

end

/-! ## Documents -/

section

variable {key : String} {value : Json}

/-- Under every name but one, a member that is replaced leaves all as it is. -/
theorem lookup_replaced {before after : Members} {name other : String} {held held' : Json}
    (different : other ≠ name) : (before ++ (name, held') :: after).lookup other =
      (before ++ (name, held) :: after).lookup other := by
  simp only [List.lookup_append, lookup_cons_ite, if_neg different]

/-- Under every name two objects hold the same or are alike where a value of one is put in the place
of one that is alike. -/
theorem Spot.alikeAt_of_member {spots : List (String × Spot)} {inner : Spot}
    {before after : Members} {name : String} {held held' : Json}
    (read : spots.lookup name = some inner) (first : name ∉ before.map Prod.fst)
    (alike : inner.Alike held held') (other : String) :
    AlikeAt spots (before ++ (name, held) :: after) (before ++ (name, held') :: after) other := by
  by_cases same : other = name
  · subst same
    have none : before.lookup other = none := by
      rwa [← Option.not_isSome_iff_eq_none, isSome_lookup_iff]
    refine .inr ⟨inner, held, held', read, ?_, ?_, alike⟩
    · simp [List.lookup_append, none]
    · simp [List.lookup_append, none]
  · exact .inl (lookup_replaced same)

/-- What becomes of a value when a foreign key is put into an object inside it is alike in its
place. -/
theorem Extends.alike {spot : Spot} {document extended : Json}
    (added : Extends key value spot document extended) : spot.Alike document extended := by
  -- In the object itself nothing changes that is looked up; in what it stands in, a value is put in
  -- the place of one that is alike.
  induction added with
  | @here spot members keys known foreign =>
    have same : ∀ name ∈ keys,
        (insertNamed key value members).lookup name = members.lookup name := by
      intro name listed
      have apart : name ≠ key := fun clash => foreign (clash ▸ listed)
      rw [lookup_insertNamed, if_neg apart]
    cases spot with
    | node byPlace =>
      cases known
      exact Node.alike fun name listed => .inl (same name listed)
    | accessibility =>
      cases known
      exact Accessibility.alike same
    | layout =>
      cases known
      exact Layout.alike same
    | payload =>
      cases known
      exact Payload.alike same
    | dataSource =>
      cases known
      exact DataSource.alike same
    | binding =>
      cases known
      exact Binding.alike same
    | nodes | slots | dataSources | bindings => cases known
  | @member spot inner before after name held held' read first _ alike =>
    cases spot with
    | node byPlace => exact Node.alike fun other _ => Spot.alikeAt_of_member read first alike other
    | slots =>
      cases read
      exact Spot.alike_of_entry alike
    | _ => cases read
  | item read _ alike => exact Spot.alike_of_item read alike

/-- A node into which a foreign key is put somewhere is of the same type. -/
theorem Extends.exists_members {byPlace : Bool} {document extended : Json}
    (added : Extends key value (.node byPlace) document extended) :
    ∃ members members', document = .object members ∧ extended = .object members' ∧
      members'.lookup "type" = members.lookup "type" := by
  cases added with
  | here known foreign =>
    cases known
    refine ⟨_, _, rfl, rfl, ?_⟩
    rw [lookup_insertNamed, if_neg]
    rintro rfl
    exact foreign List.mem_cons_self
  | @member _ inner before after name held held' read first below =>
    refine ⟨_, _, rfl, rfl, lookup_replaced ?_⟩
    rintro rfl
    have none : (Node.spots byPlace (before ++ ("type", held) :: after)).lookup "type" = none :=
      Node.lookup_spots List.mem_cons_self
    cases none.symm.trans read
  | item read below => cases read

namespace Validation

/-- Foreign keys are ignored everywhere. A document into which one is put with any value, in any
object that is read as a node or as a record inside a node, is validated like before against every
registry, as a node and as a page, and it is read as the same tree or still not at all. -/
theorem validate_of_extends {document extended : Json}
    (added : Extends key value (.node false) document extended) :
    (∀ registry, validateNode extended registry = validateNode document registry ∧
      validatePage extended registry = validatePage document registry) ∧
    Node.ofJson? extended = Node.ofJson? document := by
  obtain ⟨checked, read, -⟩ := added.alike
  have tree : Node.ofJson? extended = Node.ofJson? document := read
  have shape : Shape.node "" extended = Shape.node "" document := checked ""
  have same (registry : ComponentRegistry) :
      diagnostics extended registry = diagnostics document registry := by
    rw [diagnostics, shape, tree, diagnostics]
  refine ⟨fun registry => ⟨?_, ?_⟩, tree⟩
  · rw [validateNode, same, validateNode]
  · -- Beyond the diagnostics, the check of a page looks at the type of the root alone.
    obtain ⟨members, members', rfl, rfl, type⟩ := added.exists_members
    simp only [validatePage, same, rootFaults, type]

/-- A grid on a page is given slots, which grids do not have, with a node in them that is none. -/
theorem validate_of_extends_gridSlots :
    let id := Json.string "00000000-0000-4000-8000-000000000000"
    let grid : Members := [("columns", .integer 2), ("id", id), ("type", .string "grid")]
    let slots : Json := .object [("header", .array [.object [("type", .string "nothing")]])]
    let page (child : Members) : Json :=
      .object [("children", .array [.object child]), ("id", id), ("type", .string "page")]
    let extended := page (insertNamed "slots" slots grid)
    Extends "slots" slots (.node false) (page grid) extended ∧
      (∀ registry, validatePage extended registry = .ofDiagnostics []) ∧
      (Node.ofJson? extended).isSome := by
  intro id grid slots page extended
  have here : Extends "slots" slots (.node true) (.object grid)
      (.object (insertNamed "slots" slots grid)) := .here rfl (by decide)
  have among : Extends "slots" slots .nodes (.array ([] ++ .object grid :: []))
      (.array ([] ++ .object (insertNamed "slots" slots grid) :: [])) := .item rfl here
  have added : Extends "slots" slots (.node false) (page grid) extended := by
    have outer : Extends "slots" slots (.node false)
        (.object ([] ++ ("children", .array [.object grid]) ::
          [("id", id), ("type", .string "page")])) extended := .member rfl (by decide) among
    exact outer
  obtain ⟨validated, read⟩ := validate_of_extends added
  have shape : Shape.node "" (page grid) = [] := by decide +kernel
  let nodeId : NodeId :=
    ⟨List.replicate 12 0 ++ 4 :: List.replicate 3 0 ++ 8 :: List.replicate 15 0, rfl⟩
  let envelope : Envelope := ⟨nodeId, none, none, none, none, none⟩
  let tree : Node := .container envelope (.page none []) [.container envelope (.grid 2) []]
  have spelled : Node.ofJson? (page grid) = some tree := by
    simp only [page, grid, id, tree, envelope, nodeId]
    rfl
  have quiet (registry : ComponentRegistry) : RegistryCheck.node registry "" tree = [] := by rfl
  refine ⟨added, fun registry => (validated registry).2.trans ?_, ?_⟩
  · have silent : diagnostics (page grid) registry = [] := by
      simp only [diagnostics, shape, spelled, quiet]
    simp only [page, validatePage] at silent ⊢
    rw [silent]
    rfl
  · rw [read, spelled]
    rfl

end Validation

end

end Formwright
