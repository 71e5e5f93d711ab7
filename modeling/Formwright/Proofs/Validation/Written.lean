import Formwright.Proofs.Node.Id
import Formwright.Proofs.Node.WellFormed
import Formwright.Proofs.Node.Written
import Formwright.Proofs.Validation.Shape
import Formwright.Proofs.Vocabulary

/-!
# The shape of written trees

A tree of the right type need not be of sound shape. The check of shapes reports something of a
written tree exactly when the tree is not well formed, which is told value by value: for every check
of a field it is said of which written values it reports nothing.
-/
namespace Formwright.Shape
open Json Text

attribute [local simp] List.lookup_append lookup_cons_ite

variable {α : Type} {members : Members} {key path : String} {check : Check}

/-! ## Checks of written values -/

/-- The check reports nothing of a written value exactly when something holds of the value. -/
def Check.Decides (check : Check) (toJson : α → Json) (holds : α → Prop) : Prop :=
  ∀ path value, check path (toJson value) = [] ↔ holds value

/-- The check never reports anything of a written value. -/
def Check.Passes (check : Check) (toJson : α → Json) : Prop :=
  ∀ path value, check path (toJson value) = []

/-- Before reports of nothing, nothing is reported exactly when nothing is reported at all. -/
theorem silent_before_iff {first later : List Diagnostic} (silent : later = []) :
    first ++ later = [] ↔ first = [] := List.append_eq_nil_iff.trans (and_iff_left silent)

section

variable {toJson : α → Json} {holds : α → Prop}

/-- Nothing is reported of an optional value that is written exactly when it is absent or what its
check decides on holds of it. -/
theorem optional_iff (value : Option α) (decides : check.Decides toJson holds)
    (written : members.lookup key = value.map toJson) :
    optional members key path check = [] ↔ ∀ held, value = some held → holds held := by
  rw [optional_eq_nil_iff, written]
  cases value with
  | none => simp
  | some held => simp [decides _ held]

/-- Nothing is reported of a value that is written exactly when what its check decides on holds of
it. -/
theorem required_iff (value : α) (decides : check.Decides toJson holds)
    (written : members.lookup key = some (toJson value)) :
    required members key path check = [] ↔ holds value := by
  rw [required_eq_nil_iff, written]
  simp [decides _ value]

/-- Nothing is reported of a tagged value that is written exactly when nothing is reported of the
fields of its variant. -/
theorem tagged_iff {words : List String} {fields : String → List Diagnostic} (word : String)
    (written : members.lookup key = some (.string word)) (known : word ∈ words) :
    tagged members key path words fields = [] ↔ fields word = [] := by
  rw [tagged_eq_nil_iff, written]
  simp [known]

/-- Nothing is reported of an optional value that is written where its check passes all values. -/
theorem silent_optional (value : Option α) (passes : check.Passes toJson)
    (written : members.lookup key = value.map toJson) : optional members key path check = [] := by
  rw [optional_eq_nil_iff, written]
  cases value with
  | none => simp
  | some held => simp [passes _ held]

/-- The items of a written list are silent exactly when what their check decides on holds of
each. -/
theorem list_decides (decides : check.Decides toJson holds) :
    (list check).Decides (fun values : List α => .array (values.map toJson))
      fun values => ∀ value ∈ values, holds value := by
  have items (path : String) (place : Nat) (values : List α) :
      itemsFrom check path place (values.map toJson) = [] ↔ ∀ value ∈ values, holds value := by
    induction values generalizing place with
    | nil => simp [itemsFrom]
    | cons value later ih =>
      rw [List.map_cons, itemsFrom, List.append_eq_nil_iff, decides, ih, List.forall_mem_cons]
  exact fun path values => items path 0 values

/-- The items of a written list are silent where their check passes all values. -/
theorem list_passes (passes : check.Passes toJson) :
    (list check).Passes fun values : List α => .array (values.map toJson) := by
  have decides : check.Decides toJson fun _ => True := fun path value => by simp [passes path value]
  exact fun path values => (list_decides decides path values).mpr fun _ _ => trivial

end

/-- A written text is silent. -/
theorem text_passes : text.Passes .string := fun _ _ => rfl

/-- A written truth value is silent. -/
theorem truth_passes : truth.Passes .bool := fun _ _ => rfl

/-- The word of a member of a vocabulary is one of its words. -/
theorem word_passes [Vocabulary α] [LawfulVocabulary α] :
    (oneOf (Vocabulary.words α)).Passes fun member : α => wordJson member := by
  simp [Check.Passes, oneOf, wordJson]

/-- Nothing is reported of a text that must not be blank exactly when it is not. -/
theorem filledText_decides : filledText.Decides .string IsFilled := by
  intro path held
  by_cases blank : (trim held.toList).isEmpty = true
  · simpa [filledText, blank] using (isEmpty_trim_iff held).mp blank
  · simpa [filledText, blank] using not_not.mp ((isEmpty_trim_iff held).not.mp blank)

/-- Nothing is reported of an id exactly when it is of version 4. -/
theorem nodeId_decides : nodeId.Decides NodeId.toJson fun held => held.version.val = 4 := by
  intro path held
  simp only [← NodeId.isVersion4_print, NodeId.toJson, nodeId]
  by_cases named : NodeId.isVersion4 held.print = true <;> simp [named]

/-- Nothing is reported of a number of columns exactly when it is from 1 to 12. -/
theorem columns_decides :
    columns.Decides (fun count : UInt8 => .ofNat count.toNat)
      fun count => 1 ≤ count.toNat ∧ count.toNat ≤ 12 := by
  intro path count
  have small : count.toNat < 0x10000000000000000 := by have := count.toNat_lt; omega
  simp [columns, Json.natural?, Json.ofNat, small]

/-- A number of 64 bits is a number of milliseconds. -/
theorem milliseconds_passes :
    milliseconds.Passes fun count : UInt64 => .ofNat count.toNat := by
  intro path count
  have small : count.toNat < 0x10000000000000000 := count.toNat_lt
  simp [milliseconds, Json.natural?, Json.ofNat, small]

/-- Nothing is reported of the ratio of two columns exactly when it is one of three. -/
theorem columnRatio_decides :
    (oneOf columnRatios).Decides .string
      fun held => held = "1:1" ∨ held = "1:2" ∨ held = "2:1" := by
  intro path held
  by_cases listed : held = "1:1" ∨ held = "1:2" ∨ held = "2:1" <;>
    simp [oneOf, columnRatios, listed]

/-- Nothing is ever reported of what a written node says to assistive technology. -/
theorem accessibility_passes : (object accessibility).Passes Accessibility.toJson := by
  intro path a11y
  simp only [object, Accessibility.toJson, accessibility, List.append_eq_nil_iff, List.flatMap_cons,
    List.flatMap_nil, List.append_nil]
  exact ⟨⟨⟨silent_optional a11y.role text_passes (by simp),
      silent_optional a11y.label text_passes (by simp),
      silent_optional a11y.labelledBy text_passes (by simp),
      silent_optional a11y.describedBy text_passes (by simp)⟩,
    silent_optional a11y.live word_passes (by simp)⟩,
    silent_optional a11y.hidden truth_passes (by simp)⟩

/-- Nothing is ever reported of a written layout. -/
theorem layout_passes : (object layout).Passes Layout.toJson := by
  intro path written
  simp only [object, Layout.toJson, layout, List.append_eq_nil_iff, List.flatMap_cons,
    List.flatMap_nil, List.append_nil]
  exact ⟨⟨⟨⟨silent_optional written.width text_passes (by simp),
        silent_optional written.height text_passes (by simp),
        silent_optional written.maxWidth text_passes (by simp)⟩,
      silent_optional written.padding word_passes (by simp),
      silent_optional written.margin word_passes (by simp),
      silent_optional written.gap word_passes (by simp)⟩,
    silent_optional written.align word_passes (by simp)⟩,
    silent_optional written.justify word_passes (by simp)⟩

/-- Nothing is reported of a data source exactly when it is well formed. -/
theorem dataSource_decides :
    (object dataSource).Decides DataSource.toJson DataSource.WellFormed := by
  rintro path ⟨id, origin⟩
  cases origin with
  | placeholder description =>
    refine List.append_eq_nil_iff.trans (and_congr (required_iff id filledText_decides (by simp))
      ((tagged_iff "placeholder" (by simp) (by decide)).trans (iff_of_true ?_ trivial)))
    exact silent_optional description text_passes (by simp)
  | static data =>
    refine List.append_eq_nil_iff.trans (and_congr (required_iff id filledText_decides (by simp))
      ((tagged_iff "static" (by simp) (by decide)).trans (iff_of_true ?_ trivial)))
    exact required_eq_nil_iff.mpr ⟨data, by simp, rfl⟩
  | url url method refreshMs =>
    refine List.append_eq_nil_iff.trans (and_congr (required_iff id filledText_decides (by simp))
      ((tagged_iff "url" (by simp) (by decide)).trans ?_))
    refine (silent_before_iff ?refresh).trans ((silent_before_iff ?method).trans
      (required_iff url filledText_decides (by simp)))
    case refresh => exact silent_optional refreshMs milliseconds_passes (by simp)
    case method => exact silent_optional method word_passes (by simp)

/-- Nothing is reported of a payload exactly when it is well formed. -/
theorem payload_decides : (object payload).Decides Payload.toJson Payload.WellFormed := by
  rintro path ⟨source, view⟩
  cases view with
  | table columns =>
    simp only [object, Payload.toJson, payload]
    refine (tagged_iff "dataTable" (by simp) (by decide)).trans
      ((silent_before_iff ?_).trans (required_iff source filledText_decides (by simp)))
    exact silent_optional (some columns) (list_passes text_passes) (by simp)
  | chart kind =>
    simp only [object, Payload.toJson, payload]
    refine (tagged_iff "chart" (by simp) (by decide)).trans
      ((silent_before_iff ?_).trans (required_iff source filledText_decides (by simp)))
    exact required_eq_nil_iff.mpr ⟨wordJson kind, by simp, word_passes _ kind⟩

/-- Nothing is reported of a binding exactly when it is well formed. -/
theorem binding_decides : (object binding).Decides Binding.toJson Binding.WellFormed := by
  intro path held
  simp only [object, Binding.toJson, binding, List.append_eq_nil_iff, List.flatMap_cons,
    List.flatMap_nil, List.append_nil]
  exact and_congr (required_iff held.sourceId filledText_decides (by simp))
    (and_congr (required_iff held.path filledText_decides (by simp))
      (required_iff held.prop filledText_decides (by simp)))

/-! ## Written nodes -/

/-- Nothing is reported of the envelope of a written node exactly when its id is of version 4. -/
theorem envelope_iff {held : Envelope}
    (written : ∀ key ∈ Envelope.keys, members.lookup key = held.members.lookup key) :
    envelope path members = [] ↔ held.id.version.val = 4 := by
  have optionalText (key : String) (value : Option String) (listed : key ∈ Envelope.keys)
      (own : held.members.lookup key = value.map .string) :
      optional members key path text = [] :=
    silent_optional value text_passes ((written key listed).trans own)
  refine (silent_before_iff ?layout).trans ((silent_before_iff ?a11y).trans
    ((silent_before_iff ?texts).trans
      (required_iff held.id nodeId_decides (written "id" (by decide)))))
  case layout =>
    exact silent_optional held.layout layout_passes
      ((written "layout" (by decide)).trans (by simp [Envelope.members]))
  case a11y =>
    exact silent_optional held.accessibility accessibility_passes
      ((written "a11y" (by decide)).trans (by simp [Envelope.members]))
  case texts =>
    simp only [List.flatMap_cons, List.flatMap_nil, List.append_nil, List.append_eq_nil_iff]
    exact ⟨optionalText "name" held.name (by decide) (by simp [Envelope.members]),
      optionalText "testId" held.testId (by decide) (by simp [Envelope.members]),
      optionalText "dataUiId" held.dataUiId (by decide) (by simp [Envelope.members])⟩

/-- Nothing is reported of the fields of a written container exactly when they are well formed. -/
theorem ownFields_iff {body : Container}
    (written : ∀ key ∈ Container.keys, members.lookup key = body.members.lookup key) :
    ownFields body.kind path members = [] ↔ body.WellFormed := by
  cases body with
  | page title dataSources =>
    refine List.append_eq_nil_iff.trans ((and_iff_right ?title).trans
      ((optional_iff (some dataSources) (list_decides dataSource_decides) ?sources).trans ?one))
    case title =>
      exact silent_optional title text_passes
        ((written "title" (by decide)).trans (by simp [Container.members]))
    case sources => exact (written "dataSources" (by decide)).trans (by simp [Container.members])
    case one => simp [Container.WellFormed]
  | «section» title payload =>
    refine List.append_eq_nil_iff.trans ((and_iff_right ?title).trans
      (optional_iff payload payload_decides ?payload))
    case title =>
      exact silent_optional title text_passes
        ((written "title" (by decide)).trans (by simp [Container.members]))
    case payload => exact (written "payload" (by decide)).trans (by simp [Container.members])
  | grid columns =>
    exact required_iff columns columns_decides
      ((written "columns" (by decide)).trans (by simp [Container.members]))
  | stack direction =>
    refine iff_of_true (silent_optional (some direction) word_passes ?_) trivial
    exact (written "direction" (by decide)).trans (by simp [Container.members])
  | twoColumn ratio =>
    exact optional_iff ratio columnRatio_decides
      ((written "ratio" (by decide)).trans (by simp [Container.members]))
  | sidebar side width =>
    refine iff_of_true (List.append_eq_nil_iff.mpr
      ⟨silent_optional (some side) word_passes ?side, silent_optional width text_passes ?width⟩)
      trivial
    case side => exact (written "side" (by decide)).trans (by simp [Container.members])
    case width => exact (written "width" (by decide)).trans (by simp [Container.members])
  | threeColumn | block => exact iff_of_true rfl trivial

/-- Nothing is reported of the fields of a written component exactly when they are well formed. -/
theorem componentFields_iff {element : Component}
    (written : ∀ key ∈ Component.keys, members.lookup key = element.members.lookup key) :
    ownFields .component path members = [] ∧ lastFields .component path members = [] ↔
      element.WellFormed := by
  refine and_congr ?own ?last
  case own =>
    refine (silent_before_iff ?variant).trans ((silent_before_iff ?props).trans
      (required_iff element.component filledText_decides
        ((written "component" (by decide)).trans (by simp [Component.members]))))
    case variant =>
      exact silent_optional element.variant text_passes
        ((written "variant" (by decide)).trans (by simp [Component.members]))
    case props =>
      have props : members.lookup "props" = (some element.props).map .object :=
        (written "props" (by decide)).trans (by simp [Component.members])
      exact silent_optional _ (fun _ _ => rfl) props
  case last =>
    have decides := list_decides binding_decides
    cases bindings : element.bindings with
    | nil =>
      refine (optional_iff none decides ?_).trans (by simp)
      exact (written "bind" (by decide)).trans (by simp [Component.members, bindings])
    | cons first later =>
      refine (optional_iff (some (first :: later)) decides ?_).trans (by simp)
      exact (written "bind" (by decide)).trans (by simp [Component.members, bindings])

/-- The children of a container are checked where its members hold them. -/
theorem children_eq (path : String) (members : Members) :
    children path members = (members.lookup Node.childrenKey).elim []
      (nodes (Pointer.push path Node.childrenKey)) :=
  scan_eq_elim_lookup rfl (fun _ _ _ => rfl) members

/-- The slots of a component are checked where its members hold them. -/
theorem slots_eq (path : String) (members : Members) :
    slots path members = (members.lookup Node.slotsKey).elim []
      (slotTable (Pointer.push path Node.slotsKey)) :=
  scan_eq_elim_lookup rfl (fun _ _ _ => rfl) members

/-- A written node names its kind. -/
theorem kind?_members (node : Node) : kind? node.members = some node.kind := by
  simp [kind?, Node.lookup_type, wordJson, Json.string?, LawfulVocabulary.ofWord?_word]

/-- Containers are of the kinds of containers. -/
theorem isContainer_kind (body : Container) : body.kind.isContainer = true := by
  cases body <;> rfl

/-- Containers have no fields that stand after their children. -/
theorem lastFields_kind (body : Container) (path : String) (members : Members) :
    lastFields body.kind path members = [] := by
  cases body <;> rfl

/-- What is reported of a written node, part by part. -/
theorem node_toJson_eq (path : String) (tree : Node) :
    node path tree.toJson = envelope path tree.members ++ (ownFields tree.kind path tree.members
      ++ (if tree.kind.isContainer then children path tree.members else slots path tree.members)
      ++ lastFields tree.kind path tree.members) := by
  have tag : required tree.members "type" path kindTag = [] :=
    required_eq_nil_iff.mpr ⟨_, Node.lookup_type tree, word_passes _ tree.kind⟩
  rw [Node.toJson_eq, node, tag, kind?_members, List.nil_append]

mutual

/-- Nothing is reported of a written tree exactly when it is well formed. -/
theorem node_toJson_iff : ∀ (path : String) (tree : Node),
    node path tree.toJson = [] ↔ tree.WellFormed
  | path, .container shared body below => by
    have children : children path (Node.container shared body below).members = [] ↔
        ∀ node ∈ Node.walkAll below, node.IsSound := by
      rw [children_eq, Node.lookup_children]
      exact nodesFrom_toJsonAll_iff _ 0 below
    have common : envelope path (Node.container shared body below).members = [] ↔
        shared.id.version.val = 4 := envelope_iff fun _ => Node.lookup_envelope
    have own : ownFields body.kind path (Node.container shared body below).members = [] ↔
        body.WellFormed :=
      ownFields_iff fun _ => Node.lookup_container
    rw [node_toJson_eq, Node.kind, if_pos (isContainer_kind body), lastFields_kind,
      List.append_nil, List.append_eq_nil_iff, List.append_eq_nil_iff, common, own, children,
      ← and_assoc, Node.WellFormed, Node.walk, List.forall_mem_cons]
    rfl
  | path, .component shared element below => by
    have slots : slots path (Node.component shared element below).members = [] ↔
        ∀ node ∈ Node.walkSlots below, node.IsSound := by
      rw [slots_eq, Node.lookup_slots]
      cases below with
      | nil => simp [Node.walkSlots]
      | cons first later => exact slotEntries_toJsonSlots_iff _ (first :: later)
    have common : envelope path (Node.component shared element below).members = [] ↔
        shared.id.version.val = 4 := envelope_iff fun _ => Node.lookup_envelope
    have own : ownFields .component path (Node.component shared element below).members = [] ∧
        lastFields .component path (Node.component shared element below).members = [] ↔
        element.WellFormed := componentFields_iff fun _ => Node.lookup_component
    rw [node_toJson_eq, Node.kind, if_neg (by decide), List.append_eq_nil_iff,
      List.append_eq_nil_iff, List.append_eq_nil_iff, and_right_comm, common, own, slots,
      ← and_assoc, Node.WellFormed, Node.walk, List.forall_mem_cons]
    rfl

/-- Nothing is reported of a list of written nodes exactly when all are well formed. -/
theorem nodesFrom_toJsonAll_iff : ∀ (path : String) (place : Nat) (nodes : List Node),
    nodesFrom path place (Node.toJsonAll nodes) = [] ↔ ∀ node ∈ Node.walkAll nodes, node.IsSound
  | path, place, [] => by simp [Node.toJsonAll, nodesFrom, Node.walkAll]
  | path, place, node :: later => by
    rw [Node.toJsonAll, nodesFrom, List.append_eq_nil_iff, node_toJson_iff, Node.WellFormed,
      nodesFrom_toJsonAll_iff, Node.walkAll, List.forall_mem_append]

/-- Nothing is reported of written slots exactly when all nodes in them are well formed. -/
theorem slotEntries_toJsonSlots_iff : ∀ (path : String) (slots : List (String × List Node)),
    slotEntries path (Node.toJsonSlots slots) = [] ↔ ∀ node ∈ Node.walkSlots slots, node.IsSound
  | path, [] => by simp [Node.toJsonSlots, slotEntries, Node.walkSlots]
  | path, (slot, inside) :: later => by
    rw [Node.toJsonSlots, slotEntries, List.append_eq_nil_iff, nodes, nodesFrom_toJsonAll_iff,
      slotEntries_toJsonSlots_iff, Node.walkSlots, List.forall_mem_append]

end

end Formwright.Shape
