import Formwright.Proofs.Json.Keyed
import Formwright.Proofs.Json.Record
import Formwright.Proofs.Node.Visit
import Formwright.Proofs.Pointer.Resolution
import Formwright.Node.Reader

/-!
# Trees and the documents that spell them

Whatever a document is read as, each node of the tree is spelled by the value that its pointer names
in the document, and what the node says of itself is held there under the key of the format.
-/
namespace Formwright
open Json

/-- A text is read of a text. -/
theorem Json.Reader.text_eq_ok {value : Json} {held : String}
    (read : Reader.text value = .ok held) :
    value = .string held := by
  cases value with
  | string text => exact congrArg Json.string (Except.ok.inj read)
  | _ => contradiction

/-- Members are read of an object. -/
theorem Json.Reader.members_eq_ok {value : Json} {held : Members}
    (read : Reader.members value = .ok held) : value = .object held := by
  cases value with
  | object members => exact congrArg Json.object (Except.ok.inj read)
  | _ => contradiction

namespace Component

variable {members : Members} {element : Component}

/-- The fields that an instance of a component was read of. -/
theorem exists_fields (read : fields.Yields (.keyed members) element) :
    members.lookup "component" = some (.string element.component) ∧
      (element.props ≠ [] → members.lookup "props" = some (.object element.props)) ∧
      ∀ variant, element.variant = some variant →
        members.lookup "variant" = some (.string variant) := by
  obtain ⟨_, bindings, upToVariant, _, rfl⟩ := read.exists_seq
  obtain ⟨_, variant, upToProps, readVariant, rfl⟩ := upToVariant.exists_seq
  obtain ⟨_, props, upToComponent, readProps, rfl⟩ := upToProps.exists_seq
  obtain ⟨component, readComponent, rfl⟩ := upToComponent.exists_map
  refine ⟨?_, fun used => ?_, fun held shown => ?_⟩
  · obtain ⟨value, present, taken⟩ := Fields.exists_of_required readComponent
    exact present.trans (congrArg some (Reader.text_eq_ok taken))
  · obtain ⟨value, present, taken⟩ := Fields.exists_of_withDefault readProps used
    exact present.trans (congrArg some (Reader.members_eq_ok taken))
  · obtain rfl : variant = some held := shown
    obtain ⟨value, present, taken⟩ := Fields.exists_of_withDefault readVariant nofun
    exact present.trans (congrArg some (Reader.text_eq_ok (Reader.of_optional_ok taken)))

end Component

namespace Node

section

variable {byPlace : Bool} {members : Members} {value : Json} {envelope : Envelope}

/-- An instance of a component was read of its fields. -/
theorem fields_of_head? {element : Component}
    (read : head? byPlace members = some (.component envelope element)) :
    Component.fields.Yields (.keyed members) element := by
  unfold head? at read
  obtain ⟨kind, _, read⟩ := Option.bind_eq_some_iff.mp read
  obtain ⟨common, _, read⟩ := Option.bind_eq_some_iff.mp read
  split at read
  · obtain ⟨_, _, same⟩ := Option.bind_eq_some_iff.mp read
    cases same
  · obtain ⟨found, taken, same⟩ := Option.bind_eq_some_iff.mp read
    cases same
    unfold Fields.Yields
    cases held : Component.fields (.keyed members) with
    | error faults => simp [held, Except.toOption] at taken
    | ok element => simpa [held, Except.toOption] using taken

/-- A container was read of an object that holds its children. -/
theorem exists_of_read?_container {body : Container} {children : List Node}
    (read : read? byPlace value = some (.container envelope body children)) :
    ∃ members, value = .object members ∧ readChildren? members = some children := by
  cases value with
  | object members =>
    rw [read?] at read
    obtain ⟨head, _, read⟩ := Option.bind_eq_some_iff.mp read
    cases head with
    | container common held =>
      obtain ⟨found, below, same⟩ := Option.bind_eq_some_iff.mp read
      cases same
      exact ⟨members, rfl, below⟩
    | component common held =>
      obtain ⟨_, _, same⟩ := Option.bind_eq_some_iff.mp read
      cases same
  | _ => simp [read?] at read

/-- An instance of a component was read of an object that holds its fields and its slots. -/
theorem exists_of_read?_component {element : Component} {slots : List (String × List Node)}
    (read : read? byPlace value = some (.component envelope element slots)) :
    ∃ members, value = .object members ∧ Component.fields.Yields (.keyed members) element ∧
      readSlots? members = some slots := by
  cases value with
  | object members =>
    rw [read?] at read
    obtain ⟨head, found, read⟩ := Option.bind_eq_some_iff.mp read
    cases head with
    | container common held =>
      obtain ⟨_, _, same⟩ := Option.bind_eq_some_iff.mp read
      cases same
    | component common held =>
      obtain ⟨_, below, same⟩ := Option.bind_eq_some_iff.mp read
      cases same
      exact ⟨members, rfl, fields_of_head? found, below⟩
  | _ => simp [read?] at read

end

/-- The value that the pointer of a visit names in a document is read as the visited node. -/
def Spells (document : Json) (visit : Visit) : Prop :=
  ∃ byPlace value, document.at? visit.path = some value ∧ read? byPlace value = some visit.node

variable {document : Json}

mutual

/-- Each node of a tree that a value is read as is spelled where its pointer points, if the pointer
to the tree names the value. -/
theorem spells_visits : ∀ {byPlace : Bool} {path : String} {above : List Node} {tree : Node}
    (value : Json), value.IsKeyed → document.at? path = some value →
    read? byPlace value = some tree → ∀ visit ∈ tree.visits path above, Spells document visit
  | byPlace, path, above, tree, .object members, ⟨_, keyed⟩, named, read => by
    cases tree with
    | container envelope body nodes =>
      obtain ⟨_, same, below⟩ := exists_of_read?_container read
      cases same
      rw [visits, List.forall_mem_cons]
      exact ⟨⟨byPlace, _, named, read⟩, spells_children members keyed
        (fun _ => (at?_push named childrenKey).trans) below⟩
    | component envelope element slots =>
      obtain ⟨_, same, _, below⟩ := exists_of_read?_component read
      cases same
      rw [visits, List.forall_mem_cons]
      exact ⟨⟨byPlace, _, named, read⟩, spells_slots members keyed
        (fun _ => (at?_push named slotsKey).trans) below⟩
  | _, _, _, _, .null, _, _, read | _, _, _, _, .bool _, _, _, read
  | _, _, _, _, .integer _, _, _, read | _, _, _, _, .float _, _, _, read
  | _, _, _, _, .string _, _, _, read | _, _, _, _, .array _, _, _, read => by
    simp [read?] at read

/-- Each node of the children that the last members of a container are read as is spelled where its
pointer points. -/
theorem spells_children : ∀ {path : String} {above nodes : List Node}
    (members : List (String × Json)), MembersKeyed members →
    (∀ value, members.lookup childrenKey = some value →
      document.at? (Pointer.push path childrenKey) = some value) →
    readChildren? members = some nodes →
    ∀ visit ∈ visitsFrom (Pointer.push path childrenKey) above 0 nodes, Spells document visit
  | path, above, nodes, [], _, _, read => by
    rw [readChildren?, Option.some.injEq] at read
    subst read
    simp [visitsFrom]
  | path, above, nodes, (key, value) :: later, ⟨here, keyed⟩, named, read => by
    rw [readChildren?] at read
    split at read
    · rename_i own
      exact spells_list value here (named value (by simp [own])) read
    · rename_i other
      refine spells_children later keyed (fun value held => named value ?_) read
      rwa [lookup_cons_ite, if_neg (Ne.symm other)]

/-- Each node in the slots that the last members of a component are read as is spelled where its
pointer points. -/
theorem spells_slots : ∀ {path : String} {above : List Node} {slots : List (String × List Node)}
    (members : List (String × Json)), MembersKeyed members →
    (∀ value, members.lookup slotsKey = some value →
      document.at? (Pointer.push path slotsKey) = some value) →
    readSlots? members = some slots →
    ∀ visit ∈ visitsSlots (Pointer.push path slotsKey) above slots, Spells document visit
  | path, above, slots, [], _, _, read => by
    rw [readSlots?, Option.some.injEq] at read
    subst read
    simp [visitsSlots]
  | path, above, slots, (key, value) :: later, ⟨here, keyed⟩, named, read => by
    rw [readSlots?] at read
    split at read
    · rename_i own
      exact spells_table value here (named value (by simp [own])) read
    · rename_i other
      refine spells_slots later keyed (fun value held => named value ?_) read
      rwa [lookup_cons_ite, if_neg (Ne.symm other)]

/-- Each node in the slots that a table is read as is spelled where its pointer points. -/
theorem spells_table : ∀ {path : String} {above : List Node} {slots : List (String × List Node)}
    (value : Json), value.IsKeyed → document.at? path = some value →
    readTable? value = some slots →
    ∀ visit ∈ visitsSlots path above slots, Spells document visit
  | path, above, slots, .object members, ⟨distinct, keyed⟩, named, read => by
    rw [readTable?] at read
    exact spells_entries members keyed
      (fun entry member => (at?_push named entry.1).trans (lookup_of_mem distinct member)) read
  | _, _, _, .null, _, _, read | _, _, _, .bool _, _, _, read | _, _, _, .integer _, _, _, read
  | _, _, _, .float _, _, _, read | _, _, _, .string _, _, _, read
  | _, _, _, .array _, _, _, read => by simp [readTable?] at read

/-- Each node in the slots that the entries of a table are read as is spelled where its pointer
points. -/
theorem spells_entries : ∀ {path : String} {above : List Node}
    {slots : List (String × List Node)} (members : List (String × Json)), MembersKeyed members →
    (∀ entry ∈ members, document.at? (Pointer.push path entry.1) = some entry.2) →
    readEntries? members = some slots →
    ∀ visit ∈ visitsSlots path above slots, Spells document visit
  | path, above, slots, [], _, _, read => by
    rw [readEntries?, Option.some.injEq] at read
    subst read
    simp [visitsSlots]
  | path, above, slots, (slot, value) :: later, ⟨here, keyed⟩, named, read => by
    obtain ⟨first, others⟩ := List.forall_mem_cons.mp named
    rw [readEntries?] at read
    obtain ⟨nodes, readNodes, read⟩ := Option.bind_eq_some_iff.mp read
    obtain ⟨rest, readRest, same⟩ := Option.bind_eq_some_iff.mp read
    cases same
    rw [visitsSlots, List.forall_mem_append]
    exact ⟨spells_list value here first readNodes, spells_entries later keyed others readRest⟩

/-- Each node that a list is read as is spelled where its pointer points. -/
theorem spells_list : ∀ {path : String} {above nodes : List Node} (value : Json), value.IsKeyed →
    document.at? path = some value → readList? value = some nodes →
    ∀ visit ∈ visitsFrom path above 0 nodes, Spells document visit
  | path, above, nodes, .array items, keyed, named, read => by
    rw [readList?] at read
    exact spells_items items keyed
      (fun offset item found => by rw [Nat.zero_add, at?_index named, found]) read
  | _, _, _, .null, _, _, read | _, _, _, .bool _, _, _, read | _, _, _, .integer _, _, _, read
  | _, _, _, .float _, _, _, read | _, _, _, .string _, _, _, read
  | _, _, _, .object _, _, _, read => by simp [readList?] at read

/-- Each node that the items of a list are read as, from an index on, is spelled where its pointer
points. -/
theorem spells_items : ∀ {path : String} {above nodes : List Node} {place : Nat}
    (items : List Json), ItemsKeyed items → (∀ offset item, items[offset]? = some item →
      document.at? (Pointer.index path (place + offset)) = some item) →
    readItems? items = some nodes →
    ∀ visit ∈ visitsFrom path above place nodes, Spells document visit
  | path, above, nodes, place, [], _, _, read => by
    rw [readItems?, Option.some.injEq] at read
    subst read
    simp [visitsFrom]
  | path, above, nodes, place, item :: later, ⟨here, keyed⟩, named, read => by
    rw [readItems?] at read
    obtain ⟨first, readFirst, read⟩ := Option.bind_eq_some_iff.mp read
    obtain ⟨rest, readRest, same⟩ := Option.bind_eq_some_iff.mp read
    cases same
    rw [visitsFrom, List.forall_mem_append]
    refine ⟨spells_visits item here (named 0 item rfl) readFirst,
      spells_items later keyed (fun offset other found => ?_) readRest⟩
    rw [Nat.add_right_comm]
    exact named (offset + 1) other found

end

end Node
end Formwright
