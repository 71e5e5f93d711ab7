import Formwright.Node.Reader
import Formwright.Proofs.Json.Record
import Formwright.Proofs.Node.Id
import Formwright.Proofs.Node.Written

/-!
# Reading written nodes

Whatever is written of a node tree is read back as it was: the records inside nodes, the envelope
and the fields of every kind, and the lists of nodes below a node.
-/
namespace Formwright
open Json Json.Fields

attribute [local simp] List.lookup_append lookup_cons_ite

/-! ## Records inside nodes -/

/-- A written id is read back. -/
theorem NodeId.reader_toJson (nodeId : NodeId) : NodeId.reader nodeId.toJson = .ok nodeId := by
  simp [NodeId.reader, NodeId.toJson, Reader.text, bind, Except.bind]

/-- What a node says to assistive technology is read back once written. -/
theorem Accessibility.reader_toJson (a11y : Accessibility) :
    Accessibility.reader a11y.toJson = .ok a11y :=
  Reader.record_ok ((yields_optionalText (by simp)).map.seq (yields_optionalText (by simp))
    |>.seq (yields_optionalText (by simp)) |>.seq (yields_optionalText (by simp))
    |>.seq (yields_optionalWord (by simp)) |>.seq (yields_optionalBool (by simp)))

/-- A written layout is read back. -/
theorem Layout.reader_toJson (layout : Layout) : Layout.reader layout.toJson = .ok layout :=
  Reader.record_ok ((yields_optionalText (by simp)).map.seq (yields_optionalText (by simp))
    |>.seq (yields_optionalText (by simp)) |>.seq (yields_optionalWord (by simp))
    |>.seq (yields_optionalWord (by simp)) |>.seq (yields_optionalWord (by simp))
    |>.seq (yields_optionalWord (by simp)) |>.seq (yields_optionalWord (by simp)))

/-- A written data source is read back. -/
theorem DataSource.reader_toJson (source : DataSource) :
    DataSource.reader source.toJson = .ok source := by
  obtain ⟨id, origin⟩ := source
  cases origin with
  | placeholder description =>
    refine TagForm.read_ok "placeholder" (by simp [tagForm]) (by decide) ?_
    simp only [readVariant]
    exact Reader.record_ok ((yields_text (by simp)).map.seq (yields_optionalText (by simp)))
  | static data =>
    refine TagForm.read_ok "static" (by simp [tagForm]) (by decide) ?_
    simp only [readVariant]
    exact Reader.record_ok ((yields_text (by simp)).map.seq
      (yields_required (by simp [Record.keyed]) rfl))
  | url url method refreshMs =>
    refine TagForm.read_ok "url" (by simp [tagForm]) (by decide) ?_
    simp only [readVariant]
    exact Reader.record_ok ((yields_text (by simp)).map.seq (yields_text (by simp))
      |>.seq (yields_optionalWord (by simp))
      |>.seq (yields_optional (by simp) Reader.uint64_ofNat (fun _ => nofun)))

/-- A written payload is read back. -/
theorem Payload.reader_toJson (payload : Payload) :
    Payload.reader payload.toJson = .ok payload := by
  obtain ⟨source, view⟩ := payload
  cases view with
  | table columns =>
    have columnsRead : Reader.list Reader.text (.array (columns.map .string)) = .ok columns :=
      Reader.list_ok columns fun _ => rfl
    refine TagForm.read_ok "dataTable" (by simp [tagForm]) (by decide) ?_
    simp only [readVariant]
    exact Reader.record_ok ((yields_text (by simp)).map.seq
      (yields_withDefault (by simp [Record.keyed]) columnsRead))
  | chart kind =>
    refine TagForm.read_ok "chart" (by simp [tagForm]) (by decide) ?_
    simp only [readVariant]
    exact Reader.record_ok ((yields_text (by simp)).map.seq
      (yields_required (by simp [Record.keyed]) (Reader.word_wordJson kind)))

/-- A payload is written as an object. -/
theorem Payload.toJson_ne_null (payload : Payload) : payload.toJson ≠ .null := by
  obtain ⟨source, view⟩ := payload
  cases view <;> simp [toJson]

/-- A written binding is read back. -/
theorem Binding.reader_toJson (binding : Binding) :
    Binding.reader binding.toJson = .ok binding :=
  Reader.record_ok ((yields_text (by simp)).map.seq (yields_text (by simp))
    |>.seq (yields_text (by simp)))

/-! ## The head of a node -/

/-- The envelope of a node is read back from members that hold it. -/
theorem Envelope.fields_yields {envelope : Envelope} {members : Members}
    (written : ∀ key ∈ keys, members.lookup key = envelope.members.lookup key) :
    fields.Yields (.keyed members) envelope :=
  (yields_required (written "id" (by decide)) (NodeId.reader_toJson _)).map.seq
    (yields_optionalText ((written "name" (by decide)).trans (by simp [Envelope.members])))
    |>.seq (yields_optional ((written "a11y" (by decide)).trans (by simp [Envelope.members]))
      Accessibility.reader_toJson (fun _ => nofun))
    |>.seq (yields_optional ((written "layout" (by decide)).trans (by simp [Envelope.members]))
      Layout.reader_toJson (fun _ => nofun))
    |>.seq (yields_optionalText ((written "testId" (by decide)).trans (by simp [Envelope.members])))
    |>.seq (yields_optionalText
      ((written "dataUiId" (by decide)).trans (by simp [Envelope.members])))

/-- A container is read back, its children apart, from members that hold it. -/
theorem Container.fields_yields {body : Container} {members : Members}
    (written : ∀ key ∈ keys, members.lookup key = body.members.lookup key) :
    ∃ fields, fields? body.kind = some fields ∧ fields.Yields (.keyed members) body := by
  cases body with
  | page title dataSources =>
    exact ⟨_, rfl, (yields_optionalText
      ((written "title" (by decide)).trans (by simp [Container.members]))).map.seq
      (yields_withDefault ((written "dataSources" (by decide)).trans (by simp [Container.members]))
        (Reader.list_ok dataSources DataSource.reader_toJson))⟩
  | «section» title payload =>
    exact ⟨_, rfl, (yields_optionalText
      ((written "title" (by decide)).trans (by simp [Container.members]))).map.seq
      (yields_optional ((written "payload" (by decide)).trans (by simp [Container.members]))
        Payload.reader_toJson Payload.toJson_ne_null)⟩
  | grid columns =>
    exact ⟨_, rfl, (yields_required ((written "columns" (by decide)).trans
      (by simp [Container.members])) (Reader.uint8_ofNat columns)).map⟩
  | stack direction =>
    exact ⟨_, rfl, (yields_withDefault ((written "direction" (by decide)).trans
      (by simp [Container.members])) (Reader.word_wordJson direction)).map⟩
  | twoColumn ratio =>
    exact ⟨_, rfl, (yields_optionalText
      ((written "ratio" (by decide)).trans (by simp [Container.members]))).map⟩
  | sidebar side width =>
    exact ⟨_, rfl, (yields_withDefault ((written "side" (by decide)).trans
      (by simp [Container.members])) (Reader.word_wordJson side)).map.seq
      (yields_optionalText ((written "width" (by decide)).trans (by simp [Container.members])))⟩
  | threeColumn => exact ⟨_, rfl, yields_pure _⟩
  | block => exact ⟨_, rfl, yields_pure _⟩

/-- An instance of a component is read back, its slots apart, from members that hold it. -/
theorem Component.fields_yields {element : Component} {members : Members}
    (written : ∀ key ∈ keys, members.lookup key = element.members.lookup key) :
    fields.Yields (.keyed members) element := by
  have component : members.lookup "component" = some (.string element.component) :=
    (written "component" (by decide)).trans (by simp [Component.members])
  have props : members.lookup "props" = some (.object element.props) :=
    (written "props" (by decide)).trans (by simp [Component.members])
  have propsRead : (withDefault "props" [] Reader.members).Yields (.keyed members) element.props :=
    yields_withDefault props rfl
  have variant : members.lookup "variant" = element.variant.map .string :=
    (written "variant" (by decide)).trans (by simp [Component.members])
  have bindings : (withDefault "bind" [] (Reader.list Binding.reader)).Yields (.keyed members)
      element.bindings := by
    have held := written "bind" (by decide)
    cases empty : element.bindings with
    | nil => exact yields_absent (held.trans (by simp [Component.members, empty]))
    | cons first later =>
      exact yields_withDefault (held.trans (by simp [Component.members, empty]))
        (Reader.list_ok (first :: later) Binding.reader_toJson)
  exact (yields_text component).map.seq propsRead
    |>.seq (yields_optionalText variant) |>.seq bindings

namespace Node

section

variable {byPlace : Bool} {members : Members} {envelope : Envelope}

/-- The head of a container is what its envelope and its own fields are read as. -/
theorem head?_container {kind : NodeKind} {fields : Fields Container} {body : Container}
    (named : kindOf? byPlace members = some kind) (known : Container.fields? kind = some fields)
    (common : Envelope.fields.Yields (.keyed members) envelope)
    (own : fields.Yields (.keyed members) body) :
    head? byPlace members = some (.container envelope body) := by
  unfold Yields at common own
  simp only [head?, named, known, common, own, Except.toOption, Option.bind_eq_bind,
    Option.bind_some]

/-- The head of an instance of a component is what its envelope and its own fields are read as. -/
theorem head?_component {element : Component}
    (named : kindOf? byPlace members = some .component)
    (common : Envelope.fields.Yields (.keyed members) envelope)
    (own : Component.fields.Yields (.keyed members) element) :
    head? byPlace members = some (.component envelope element) := by
  unfold Yields at common own
  simp only [head?, named, Container.fields?, common, own, Except.toOption, Option.bind_eq_bind,
    Option.bind_some]

end

/-- The kind of a written node is read back. -/
theorem kindOf?_members (byPlace : Bool) (node : Node) :
    kindOf? byPlace node.members = some node.kind := by
  simp [kindOf?, lookup_type, wordJson, TagForm.variant, tagForm, Except.toOption,
    LawfulVocabulary.ofWord?_word]

/-- The fields of a node that are no nodes. -/
def toHead : Node → Head
  | .container envelope body _ => .container envelope body
  | .component envelope element _ => .component envelope element

/-- The fields of a written node that are no nodes are read back. -/
theorem head?_members (byPlace : Bool) (node : Node) :
    head? byPlace node.members = some node.toHead := by
  have common : Envelope.fields.Yields (.keyed node.members) node.envelope :=
    Envelope.fields_yields fun _ shared => lookup_envelope shared
  cases node with
  | container envelope body children =>
    have shown : ∀ key ∈ Container.keys, (container envelope body children).members.lookup key =
        body.members.lookup key := fun _ => lookup_container
    obtain ⟨fields, known, own⟩ := Container.fields_yields shown
    exact head?_container (kindOf?_members byPlace _) known common own
  | component envelope element slots =>
    exact head?_component (kindOf?_members byPlace _) common
      (Component.fields_yields fun _ => lookup_component)

/-! ## The nodes below a node -/

/-- The children of a container are read from where its members hold them. -/
theorem readChildren?_eq (members : Members) :
    readChildren? members = (members.lookup childrenKey).elim (some []) readList? :=
  scan_eq_elim_lookup rfl (fun _ _ _ => rfl) members

/-- The slots of a component are read from where its members hold them. -/
theorem readSlots?_eq (members : Members) :
    readSlots? members = (members.lookup slotsKey).elim (some []) readTable? :=
  scan_eq_elim_lookup rfl (fun _ _ _ => rfl) members

mutual

/-- A written node is read back. -/
theorem read?_toJson (byPlace : Bool) : ∀ node : Node, read? byPlace node.toJson = some node
  | .container envelope body children => by
    rw [toJson_eq, read?, head?_members]
    simp only [toHead, readChildren?_eq, lookup_children, Option.elim, readList?,
      readItems?_toJsonAll children, Option.bind_eq_bind, Option.bind_some]
  | .component envelope element slots => by
    rw [toJson_eq, read?, head?_members]
    simp only [toHead, readSlots?_eq, lookup_slots]
    cases slots with
    | nil => rfl
    | cons slot later =>
      simp only [List.isEmpty_cons, Bool.false_eq_true, ↓reduceIte, Option.elim, readTable?,
        readEntries?_toJsonSlots (slot :: later), Option.bind_eq_bind, Option.bind_some]

/-- A list of written nodes is read back. -/
theorem readItems?_toJsonAll : ∀ nodes : List Node, readItems? (toJsonAll nodes) = some nodes
  | [] => rfl
  | node :: later => by
    simp only [toJsonAll, readItems?, read?_toJson true node, readItems?_toJsonAll later, pure,
      Option.bind_eq_bind, Option.bind_some]

/-- Written slots are read back. -/
theorem readEntries?_toJsonSlots :
    ∀ slots : List (String × List Node), readEntries? (toJsonSlots slots) = some slots
  | [] => rfl
  | (key, nodes) :: later => by
    simp only [toJsonSlots, readEntries?, readList?, readItems?_toJsonAll nodes,
      readEntries?_toJsonSlots later, pure, Option.bind_eq_bind, Option.bind_some]

end

/-- The tree that a written tree spells is the tree. -/
theorem ofJson?_toJson (tree : Node) : ofJson? tree.toJson = some tree := read?_toJson false tree

end Node

end Formwright
