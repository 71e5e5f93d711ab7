import Formwright.Node.Writer
import Formwright.Proofs.Json.Lookup

/-!
# The members of written nodes

A written node holds the members of its envelope, those of its kind and those of the nodes below it
side by side. No key belongs to two of these groups, so under each key stands what its own group
holds there.
-/
namespace Formwright

attribute [local simp] List.lookup_append lookup_cons_ite

/-- The keys of an envelope. -/
def Envelope.keys : List String := ["id", "name", "a11y", "layout", "testId", "dataUiId"]

/-- The keys of the containers, that of their children apart. -/
def Container.keys : List String :=
  ["title", "dataSources", "payload", "columns", "direction", "ratio", "side", "width"]

/-- The keys of an instance of a component, that of its slots apart. -/
def Component.keys : List String := ["component", "props", "variant", "bind"]

/-- An envelope has no members but under its keys. -/
theorem Envelope.lookup_members_eq_none {envelope : Envelope} {key : String}
    (foreign : key ∉ keys) : envelope.members.lookup key = none := by
  simp only [keys, List.mem_cons, List.not_mem_nil, or_false, not_or] at foreign
  simp [members, foreign]

/-- A container has no members but under the keys of containers. -/
theorem Container.lookup_members_eq_none {body : Container} {key : String}
    (foreign : key ∉ keys) : body.members.lookup key = none := by
  simp only [keys, List.mem_cons, List.not_mem_nil, or_false, not_or] at foreign
  cases body <;> simp [members, foreign]

/-- An instance of a component has no members but under its keys. -/
theorem Component.lookup_members_eq_none {element : Component} {key : String}
    (foreign : key ∉ keys) : element.members.lookup key = none := by
  simp only [keys, List.mem_cons, List.not_mem_nil, or_false, not_or] at foreign
  simp [members, foreign]

namespace Node

/-- The members of a node that stand for what is below it. -/
def membersBelow : Node → Members
  | .container _ _ children => [(childrenKey, .array (toJsonAll children))]
  | .component _ _ slots => if slots.isEmpty then [] else [(slotsKey, .object (toJsonSlots slots))]

/-- The members of a node of its kind. -/
def ownMembers : Node → Members
  | .container _ body _ => body.members
  | .component _ element _ => element.members

/-- The members of a written node. -/
def members (node : Node) : Members :=
  [("type", wordJson node.kind)] ++ node.envelope.members ++ node.ownMembers ++ node.membersBelow

/-- A written node is the object of its members. -/
theorem toJson_eq (node : Node) : node.toJson = .object node.members := by
  cases node <;> simp [toJson, members, membersBelow, ownMembers, envelope, kind]

/-- The keys that the members of a kind stand under. -/
def ownKeys : Node → List String
  | .container .. => Container.keys
  | .component .. => Component.keys

/-- No key of an envelope belongs to another group of members. -/
theorem foreign_of_mem_envelopeKeys : ∀ key ∈ Envelope.keys, key ≠ "type" ∧
    key ∉ Container.keys ∧ key ∉ Component.keys ∧ key ≠ childrenKey ∧ key ≠ slotsKey := by
  decide

/-- No key of a kind belongs to another group of members. -/
theorem foreign_of_mem_kindKeys : ∀ key ∈ Container.keys ++ Component.keys, key ≠ "type" ∧
    key ∉ Envelope.keys ∧ key ≠ childrenKey ∧ key ≠ slotsKey := by
  decide

section

variable {node : Node} {key : String}

/-- A node has no members of its kind but under the keys of its kind. -/
theorem lookup_ownMembers_eq_none (foreign : key ∉ node.ownKeys) :
    node.ownMembers.lookup key = none := by
  cases node with
  | container envelope body children => exact Container.lookup_members_eq_none foreign
  | component envelope element slots => exact Component.lookup_members_eq_none foreign

/-- What is below a node stands under one of two keys. -/
theorem lookup_membersBelow_eq_none (notChildren : key ≠ childrenKey) (notSlots : key ≠ slotsKey) :
    node.membersBelow.lookup key = none := by
  cases node with
  | container envelope body children => simp [membersBelow, notChildren]
  | component envelope element slots => cases slots <;> simp [membersBelow, notSlots]

/-- A written node shows its kind. -/
theorem lookup_type (node : Node) : node.members.lookup "type" = some (wordJson node.kind) := by
  simp [members]

/-- A written node shows its envelope. -/
theorem lookup_envelope (shared : key ∈ Envelope.keys) :
    node.members.lookup key = node.envelope.members.lookup key := by
  obtain ⟨notType, notContainer, notComponent, notChildren, notSlots⟩ :=
    foreign_of_mem_envelopeKeys key shared
  have notOwn : key ∉ node.ownKeys := by cases node <;> assumption
  simp [members, notType, lookup_ownMembers_eq_none notOwn,
    lookup_membersBelow_eq_none notChildren notSlots]

/-- A written node shows what its kind decides on. -/
theorem lookup_own (own : key ∈ node.ownKeys) :
    node.members.lookup key = node.ownMembers.lookup key := by
  have listed : key ∈ Container.keys ++ Component.keys := by
    cases node with
    | container envelope body children => exact List.mem_append_left _ own
    | component envelope element slots => exact List.mem_append_right _ own
  obtain ⟨notType, notShared, notChildren, notSlots⟩ := foreign_of_mem_kindKeys key listed
  simp [members, notType, Envelope.lookup_members_eq_none notShared,
    lookup_membersBelow_eq_none notChildren notSlots]

/-- A written container shows its own fields. -/
theorem lookup_container {envelope : Envelope} {body : Container} {children : List Node}
    (listed : key ∈ Container.keys) :
    (container envelope body children).members.lookup key = body.members.lookup key :=
  lookup_own listed

/-- A written component shows its own fields. -/
theorem lookup_component {envelope : Envelope} {element : Component}
    {slots : List (String × List Node)} (listed : key ∈ Component.keys) :
    (component envelope element slots).members.lookup key = element.members.lookup key :=
  lookup_own listed

/-- A written node shows what is below it under keys of no other group. -/
theorem lookup_below (below : key = childrenKey ∨ key = slotsKey) :
    node.members.lookup key = node.membersBelow.lookup key := by
  have notType : key ≠ "type" := by rcases below with rfl | rfl <;> decide
  have notShared : key ∉ Envelope.keys := by rcases below with rfl | rfl <;> decide
  have notOwn : key ∉ node.ownKeys := by
    cases node <;> rcases below with rfl | rfl <;> simp only [ownKeys] <;> decide
  simp [members, notType, Envelope.lookup_members_eq_none notShared,
    lookup_ownMembers_eq_none notOwn]

end

/-- A written container shows its children. -/
theorem lookup_children (envelope : Envelope) (body : Container) (children : List Node) :
    (container envelope body children).members.lookup childrenKey =
      some (.array (toJsonAll children)) := by
  rw [lookup_below (.inl rfl)]
  simp [membersBelow]

/-- A written component shows its slots, where it has any. -/
theorem lookup_slots (envelope : Envelope) (element : Component)
    (slots : List (String × List Node)) :
    (component envelope element slots).members.lookup slotsKey =
      if slots.isEmpty then none else some (.object (toJsonSlots slots)) := by
  rw [lookup_below (.inr rfl)]
  cases slots <;> simp [membersBelow]

end Node
end Formwright
