import Formwright.Proofs.Json.Keyed
import Formwright.Proofs.Node.WellFormed
import Formwright.Proofs.Pointer.Resolution
import Formwright.Validation.Document

/-!
# Where diagnostics point

A diagnostic points at the value that it is about: what it says holds of the value that its pointer
names. Only of a field that is left out there is no value; there the pointer names the object that
lacks the field, with the key as one more step.
-/
namespace Formwright.Validation
open Pointer Text

/-- The message of a field that is left out. -/
def missingMessage (key : String) : String := "Required field \"" ++ key ++ "\" is missing"

/-- The diagnostic is about a field that is left out. -/
def IsMissingField (diagnostic : Diagnostic) : Prop :=
  ∃ key, diagnostic.message = missingMessage key

/-- What a message says holds of a value, to which there is a pointer. -/
inductive Blames (registry : ComponentRegistry) : String → Json → String → Prop
  /-- The value is of another kind than expected. -/
  | kind {pointer expected : String} {value : Json} (other : value.kindName ≠ expected) :
    Blames registry pointer value ("Expected " ++ expected ++ ", received " ++ value.kindName)
  /-- The value is a blank text. -/
  | blank {pointer text : String} (blank : ¬IsFilled text) :
    Blames registry pointer (.string text) "String must not be empty"
  /-- The value is none of some words. -/
  | word {pointer text : String} {words : List String} (unknown : text ∉ words) :
    Blames registry pointer (.string text)
      ("Invalid enum value. Expected " ++ " | ".intercalate (words.map Shape.quotedWord)
        ++ ", received " ++ Shape.quotedWord text)
  /-- The value is no id of version 4. -/
  | nodeId {pointer text : String} (other : NodeId.isVersion4 text = false) :
    Blames registry pointer (.string text) ("Invalid uuid: " ++ Shape.quotedWord text)
  /-- The value is no number of columns. -/
  | columns {pointer : String} {value : Json} {count : Nat} (held : value.natural? = some count)
    (outside : count < 1 ∨ 12 < count) :
    Blames registry pointer value
      ("Grid columns must be between 1 and 12, received " ++ toString count)
  /-- The value is the kind of the root and not that of pages. -/
  | root {text : String} (other : text ≠ "page") :
    Blames registry "/type" (.string text)
      ("Document root must be a page, received '" ++ text ++ "'")
  /-- The value is no component of the registry. -/
  | component {pointer text : String} (unknown : registry.get? text = none) :
    Blames registry pointer (.string text)
      ("Unknown component " ++ RegistryCheck.doubleQuoted text ++ ".")
  /-- The value is no variant of its component. -/
  | variant {pointer text component : String} {entry : RegistryEntry}
    (registered : registry.get? component = some entry) (other : entry.allowsVariant text = false) :
    Blames registry pointer (.string text)
      ("Variant " ++ RegistryCheck.doubleQuoted text ++ " is not defined for component "
        ++ RegistryCheck.doubleQuoted component ++ ". Allowed: "
        ++ ", ".intercalate (entry.variants.getD []) ++ ".")
  /-- The value stands in a slot that its component does not have. -/
  | slot {base slot component : String} {value : Json} {entry : RegistryEntry}
    (registered : registry.get? component = some entry) (other : entry.allowsSlot slot = false) :
    Blames registry (push base slot) value
      ("Slot " ++ RegistryCheck.doubleQuoted slot ++ " is not defined for component "
        ++ RegistryCheck.doubleQuoted component ++ ".")
  /-- The value is that of a prop that its component does not have. -/
  | prop {base prop component : String} {value : Json} {entry : RegistryEntry}
    (registered : registry.get? component = some entry)
    (other : entry.knowsProp prop = some false) :
    Blames registry (push base prop) value
      ("Prop " ++ RegistryCheck.doubleQuoted prop ++ " is not documented for component "
        ++ RegistryCheck.doubleQuoted component ++ ".")

/-- A text that is put together begins as its first part does. -/
theorem head?_append {first later : String} {c : Char} (begins : first.toList.head? = some c) :
    (first ++ later).toList.head? = some c := by
  simp [begins]

/-- What is said of a value is never that it is left out. -/
theorem Blames.not_missing {registry : ComponentRegistry} {pointer message : String} {value : Json}
    (blames : Blames registry pointer value message) (key : String) :
    message ≠ missingMessage key := by
  intro same
  have first : message.toList.head? = some 'R' :=
    same ▸ head?_append (head?_append rfl)
  -- No other message begins with the letter that those of missing fields begin with.
  have apart {c : Char} (begins : message.toList.head? = some c) : c = 'R' :=
    Option.some.inj (begins.symm.trans first)
  cases blames with
  | blank => exact absurd (apart rfl) (by decide)
  | nodeId => exact absurd (apart (head?_append rfl)) (by decide)
  | columns => exact absurd (apart (head?_append rfl)) (by decide)
  | root | component => exact absurd (apart (head?_append (head?_append rfl))) (by decide)
  | kind | word =>
    exact absurd (apart (head?_append (head?_append (head?_append rfl)))) (by decide)
  | slot | prop =>
    exact absurd (apart (head?_append (head?_append (head?_append (head?_append rfl)))))
      (by decide)
  | variant =>
    exact absurd (apart (head?_append (head?_append (head?_append (head?_append (head?_append
      (head?_append rfl))))))) (by decide)

/-- What a diagnostic says is true of the document at its pointer. -/
inductive Located (registry : ComponentRegistry) (document : Json) : Diagnostic → Prop
  /-- An object lacks a field, which is the last step of the pointer. -/
  | missing {level : Level} {code : Option String} {base key : String} {members : Members}
    (named : document.at? base = some (.object members)) (absent : members.lookup key = none) :
    Located registry document ⟨level, missingMessage key, some (push base key), code⟩
  /-- The pointer names the value that is blamed. -/
  | blamed {level : Level} {code : Option String} {pointer message : String} {value : Json}
    (named : document.at? pointer = some value)
    (blames : Blames registry pointer value message) :
    Located registry document ⟨level, message, some pointer, code⟩

/-- What all diagnostics of a list say is true of the document at their pointers. -/
def AllLocated (registry : ComponentRegistry) (document : Json) (diagnostics : List Diagnostic) :
    Prop := ∀ diagnostic ∈ diagnostics, Located registry document diagnostic

variable {registry : ComponentRegistry} {document : Json}

/-- Nothing said is nothing untrue. -/
@[simp]
theorem allLocated_nil : AllLocated registry document [] := nofun

/-- Diagnostics one after the other are located where each is. -/
@[simp]
theorem allLocated_append (first second : List Diagnostic) :
    AllLocated registry document (first ++ second) ↔
      AllLocated registry document first ∧ AllLocated registry document second := by
  simp only [AllLocated, List.forall_mem_append]

/-- Diagnostics group by group are located where those of each group are. -/
@[simp]
theorem allLocated_flatMap {α : Type} (groups : List α) (diagnostics : α → List Diagnostic) :
    AllLocated registry document (groups.flatMap diagnostics) ↔
      ∀ group ∈ groups, AllLocated registry document (diagnostics group) := by
  simp only [AllLocated, List.forall_mem_flatMap]

end Formwright.Validation

namespace Formwright.Shape
open Json Pointer Text Validation

variable {registry : ComponentRegistry} {document : Json} {path key : String} {members : Members}

/-! ## Fields -/

/-- A problem is located where the pointer names the value that it blames. -/
theorem located_fault {message : String} {value : Json} (named : document.at? path = some value)
    (blames : Blames registry path value message) :
    AllLocated registry document (fault path message) :=
  List.forall_mem_singleton.mpr (.blamed named blames)

/-- A value of another kind than expected is located where the pointer names it. -/
theorem located_unexpected {expected : String} {value : Json}
    (named : document.at? path = some value) (other : value.kindName ≠ expected) :
    AllLocated registry document (unexpected path expected value) :=
  located_fault named (.kind other)

/-- A field that is left out is located where the pointer names the object that lacks it. -/
theorem located_missing (named : document.at? path = some (.object members))
    (absent : members.lookup key = none) : AllLocated registry document (missing path key) :=
  List.forall_mem_singleton.mpr (.missing named absent)

/-- What the check says of a value is located where the pointer names the value. -/
def Check.Locates (check : Check) (registry : ComponentRegistry) : Prop :=
  ∀ {document path value}, document.at? path = some value →
    AllLocated registry document (check path value)

section

variable {check : Check} (named : document.at? path = some (.object members))
  (locates : check.Locates registry)
include named locates

/-- What is said of a field that may be left out is located in the object that may have it. -/
theorem located_optional : AllLocated registry document (optional members key path check) := by
  unfold optional
  split
  · rename_i value present
    exact locates ((at?_push named key).trans present)
  · exact allLocated_nil

/-- What is said of a field that must be there is located in the object that must have it. -/
theorem located_required : AllLocated registry document (required members key path check) := by
  unfold required
  split
  · rename_i value present
    exact locates ((at?_push named key).trans present)
  · rename_i absent
    exact located_missing named absent

end

/-! ## Values -/

section

variable {value : Json}

/-- A value that is no text is of another kind than texts. -/
theorem text_locates : text.Locates registry := by
  intro document path value named
  cases value with
  | string held => exact allLocated_nil
  | _ => exact located_unexpected named (by simp [kindName])

/-- Of a text that must not be blank it is said only that it is. -/
theorem filledText_locates : filledText.Locates registry := by
  intro document path value named
  cases value with
  | string held =>
    simp only [filledText]
    split
    · rename_i blank
      exact located_fault named (.blank ((isEmpty_trim_iff held).mp blank))
    · exact allLocated_nil
  | _ => exact located_unexpected named (by simp [kindName])

/-- A value that is neither true nor false is of another kind than they are. -/
theorem truth_locates : truth.Locates registry := by
  intro document path value named
  cases value with
  | bool held => exact allLocated_nil
  | _ => exact located_unexpected named (by simp [kindName])

/-- Of a value that may be anything nothing is said. -/
theorem anything_locates : anything.Locates registry := fun _ => allLocated_nil

/-- Of a text that must be one of some words it is said only that it is none. -/
theorem oneOf_locates (words : List String) : (oneOf words).Locates registry := by
  intro document path value named
  cases value with
  | string held =>
    simp only [oneOf]
    split
    · exact allLocated_nil
    · rename_i unknown
      exact located_fault named (.word unknown)
  | _ => exact located_unexpected named (by simp [kindName])

/-- What is said of an object is located where what is said of its members is. -/
theorem object_locates {check : String → Members → List Diagnostic}
    (locates : ∀ {document path members}, document.at? path = some (.object members) →
      AllLocated registry document (check path members)) :
    (object check).Locates registry := by
  intro document path value named
  cases value with
  | object members => exact locates named
  | _ => exact located_unexpected named (by simp [kindName])

/-- What is said of the items of a list from an index on is located where the pointers to them
name them. -/
theorem located_itemsFrom {check : Check} (locates : check.Locates registry) {place : Nat}
    {items : List Json} (named : ∀ offset item, items[offset]? = some item →
      document.at? (index path (place + offset)) = some item) :
    AllLocated registry document (itemsFrom check path place items) := by
  induction items generalizing place with
  | nil => exact allLocated_nil
  | cons first later ih =>
    refine (allLocated_append _ _).mpr ⟨locates (named 0 first rfl), ih fun offset item found => ?_⟩
    rw [Nat.add_right_comm]
    exact named (offset + 1) item found

/-- What is said of the items of a list is located where each of them is. -/
theorem list_locates {check : Check} (locates : check.Locates registry) :
    (list check).Locates registry := by
  intro document path value named
  cases value with
  | array items =>
    refine located_itemsFrom locates fun offset item found => ?_
    rw [Nat.zero_add, at?_index named, found]
  | _ => exact located_unexpected named (by simp [kindName])

/-- Of a text that must be an id of version 4 it is said only that it is none. -/
theorem nodeId_locates : nodeId.Locates registry := by
  intro document path value named
  cases value with
  | string held =>
    simp only [nodeId]
    split
    · exact allLocated_nil
    · rename_i other
      exact located_fault named (.nodeId (by simpa using other))
  | _ => exact located_unexpected named (by simp [kindName])

/-- No value is of a kind that is more special than a kind of value. -/
theorem kindName_ne {expected : String} (special : expected ∉ ["null", "boolean", "number",
    "string", "array", "object"]) (value : Json) : value.kindName ≠ expected := by
  rintro rfl
  apply special
  cases value <;> simp [kindName]

/-- Of a number of columns it is said only that it is out of range. -/
theorem columns_locates : columns.Locates registry := by
  intro document path value named
  unfold columns
  split
  · rename_i count held
    split
    · exact allLocated_nil
    · rename_i outside
      refine located_fault named (.columns held ?_)
      simp only [Bool.and_eq_true, decide_eq_true_eq] at outside
      omega
  · exact located_unexpected named (kindName_ne (by decide) value)

/-- A value that is no natural number is of another kind than these are. -/
theorem milliseconds_locates : milliseconds.Locates registry := by
  intro document path value named
  unfold milliseconds
  split
  · exact allLocated_nil
  · exact located_unexpected named (kindName_ne (by decide) value)

end

/-! ## Records inside nodes -/

section

variable (named : document.at? path = some (.object members))
include named

/-- What is said of a tagged value is located where what is said of the fields of its variants
is. -/
theorem located_tagged {words : List String} {fields : String → List Diagnostic}
    (located : ∀ word, AllLocated registry document (fields word)) :
    AllLocated registry document (tagged members key path words fields) := by
  unfold tagged required
  split
  · rename_i tag present
    have tagged : document.at? (push path key) = some tag := (at?_push named key).trans present
    have unknown : AllLocated registry document (oneOf words (push path key) tag) :=
      oneOf_locates words tagged
    cases tag with
    | string held =>
      dsimp only
      split
      · exact located held
      · exact unknown
    | _ => exact unknown
  · rename_i absent
    exact located_missing named absent

/-- What is said of what a node says to assistive technology is located. -/
theorem located_accessibility : AllLocated registry document (accessibility path members) := by
  simp [accessibility, located_optional named text_locates, located_optional named truth_locates,
    located_optional named (oneOf_locates _)]

/-- What is said of the layout of a node is located. -/
theorem located_layout : AllLocated registry document (layout path members) := by
  simp [layout, located_optional named text_locates, located_optional named (oneOf_locates _)]

/-- What is said of a data source is located. -/
theorem located_dataSource : AllLocated registry document (dataSource path members) := by
  refine (allLocated_append _ _).mpr
    ⟨located_required named filledText_locates, located_tagged named fun word => ?_⟩
  split
  · exact located_optional named text_locates
  · exact located_required named anything_locates
  · simp [located_required named filledText_locates, located_optional named (oneOf_locates _),
      located_optional named milliseconds_locates]

/-- What is said of the payload of a section is located. -/
theorem located_payload : AllLocated registry document (payload path members) := by
  refine located_tagged named fun word => (allLocated_append _ _).mpr
    ⟨located_required named filledText_locates, ?_⟩
  split
  · exact located_optional named (list_locates text_locates)
  · exact located_required named (oneOf_locates _)

/-- What is said of a binding is located. -/
theorem located_binding : AllLocated registry document (binding path members) := by
  simp [binding, located_required named filledText_locates]

/-! ## The fields of nodes -/

/-- What is said of the envelope of a node is located in the node. -/
theorem located_envelope : AllLocated registry document (envelope path members) := by
  simp [envelope, located_required named nodeId_locates, located_optional named text_locates,
    located_optional named (object_locates located_accessibility),
    located_optional named (object_locates located_layout)]

/-- What is said of the fields of a node is located in the node. -/
theorem located_ownFields (kind : NodeKind) :
    AllLocated registry document (ownFields kind path members) := by
  have text (key : String) : AllLocated registry document (optional members key path text) :=
    located_optional named text_locates
  have word (key : String) (words : List String) :
      AllLocated registry document (optional members key path (oneOf words)) :=
    located_optional named (oneOf_locates words)
  cases kind with
  | page =>
    exact (allLocated_append _ _).mpr ⟨text "title",
      located_optional named (list_locates (object_locates located_dataSource))⟩
  | «section» =>
    exact (allLocated_append _ _).mpr ⟨text "title",
      located_optional named (object_locates located_payload)⟩
  | grid => exact located_required named columns_locates
  | stack => exact word "direction" _
  | twoColumn => exact word "ratio" _
  | sidebar => exact (allLocated_append _ _).mpr ⟨word "side" _, text "width"⟩
  | threeColumn | block => exact allLocated_nil
  | component =>
    simp [ownFields, text, located_required named filledText_locates,
      located_optional named (object_locates fun _ => allLocated_nil)]

/-- What is said of the fields of a node after those below it is located in the node. -/
theorem located_lastFields (kind : NodeKind) :
    AllLocated registry document (lastFields kind path members) := by
  cases kind with
  | component => exact located_optional named (list_locates (object_locates located_binding))
  | _ => exact allLocated_nil

end

/-! ## Nodes -/

mutual

/-- What is said of a node and of all below it is located where the pointer names the node. -/
theorem located_node : ∀ {path : String} (value : Json), value.IsKeyed →
    document.at? path = some value → AllLocated registry document (node path value)
  | path, .object members, ⟨_, keyed⟩, named => by
    have tag : AllLocated registry document (required members "type" path kindTag) :=
      located_required named (oneOf_locates _)
    have below : AllLocated registry document (children path members) :=
      located_children members keyed fun _ => (at?_push named Node.childrenKey).trans
    have slotted : AllLocated registry document (slots path members) :=
      located_slots members keyed fun _ => (at?_push named Node.slotsKey).trans
    rw [node]
    refine (allLocated_append _ _).mpr
      ⟨(allLocated_append _ _).mpr ⟨tag, located_envelope named⟩, ?_⟩
    split
    · exact allLocated_nil
    · rename_i kind _
      refine (allLocated_append _ _).mpr ⟨(allLocated_append _ _).mpr
        ⟨located_ownFields named kind, ?_⟩, located_lastFields named kind⟩
      split
      · exact below
      · exact slotted
  | path, .null, _, named | path, .bool _, _, named | path, .integer _, _, named
  | path, .float _, _, named | path, .string _, _, named | path, .array _, _, named =>
    located_unexpected named (kindName_ne (by decide) _)

/-- What is said of the children among the last members of a node is located where the pointer to
the children names them. -/
theorem located_children : ∀ {path : String} (members : List (String × Json)),
    MembersKeyed members → (∀ value, members.lookup Node.childrenKey = some value →
      document.at? (push path Node.childrenKey) = some value) →
    AllLocated registry document (children path members)
  | path, [], _, _ => by simp [children]
  | path, (key, value) :: later, ⟨here, keyed⟩, named => by
    rw [children]
    split
    · rename_i own
      exact located_nodes value here (named value (by simp [own]))
    · rename_i other
      refine located_children later keyed fun value held => named value ?_
      rwa [lookup_cons_ite, if_neg (Ne.symm other)]

/-- What is said of the slots among the last members of a node is located where the pointer to the
slots names them. -/
theorem located_slots : ∀ {path : String} (members : List (String × Json)),
    MembersKeyed members → (∀ value, members.lookup Node.slotsKey = some value →
      document.at? (push path Node.slotsKey) = some value) →
    AllLocated registry document (slots path members)
  | path, [], _, _ => by simp [slots]
  | path, (key, value) :: later, ⟨here, keyed⟩, named => by
    rw [slots]
    split
    · rename_i own
      exact located_slotTable value here (named value (by simp [own]))
    · rename_i other
      refine located_slots later keyed fun value held => named value ?_
      rwa [lookup_cons_ite, if_neg (Ne.symm other)]

/-- What is said of a table of slots is located where the pointer names the table. -/
theorem located_slotTable : ∀ {path : String} (value : Json), value.IsKeyed →
    document.at? path = some value → AllLocated registry document (slotTable path value)
  | path, .object members, ⟨distinct, keyed⟩, named =>
    located_slotEntries members keyed fun entry member =>
      (at?_push named entry.1).trans (lookup_of_mem distinct member)
  | path, .null, _, named | path, .bool _, _, named | path, .integer _, _, named
  | path, .float _, _, named | path, .string _, _, named | path, .array _, _, named =>
    located_unexpected named (by simp [kindName])

/-- What is said of the entries of a table of slots is located where the pointers to the slots name
what stands in them. -/
theorem located_slotEntries : ∀ {path : String} (members : List (String × Json)),
    MembersKeyed members → (∀ entry ∈ members, document.at? (push path entry.1) = some entry.2) →
    AllLocated registry document (slotEntries path members)
  | path, [], _, _ => by simp [slotEntries]
  | path, (slot, value) :: later, ⟨here, keyed⟩, named => by
    rw [slotEntries]
    obtain ⟨first, others⟩ := List.forall_mem_cons.mp named
    exact (allLocated_append _ _).mpr
      ⟨located_nodes value here first, located_slotEntries later keyed others⟩

/-- What is said of a list of nodes is located where the pointer names the list. -/
theorem located_nodes : ∀ {path : String} (value : Json), value.IsKeyed →
    document.at? path = some value → AllLocated registry document (nodes path value)
  | path, .array items, keyed, named =>
    located_nodesFrom items keyed fun offset item found => by
      rw [Nat.zero_add, at?_index named, found]
  | path, .null, _, named | path, .bool _, _, named | path, .integer _, _, named
  | path, .float _, _, named | path, .string _, _, named | path, .object _, _, named =>
    located_unexpected named (by simp [kindName])

/-- What is said of the nodes of a list from an index on is located where the pointers to them name
them. -/
theorem located_nodesFrom : ∀ {path : String} {place : Nat} (items : List Json),
    ItemsKeyed items → (∀ offset item, items[offset]? = some item →
      document.at? (index path (place + offset)) = some item) →
    AllLocated registry document (nodesFrom path place items)
  | path, place, [], _, _ => by simp [nodesFrom]
  | path, place, item :: later, ⟨here, keyed⟩, named => by
    rw [nodesFrom]
    refine (allLocated_append _ _).mpr ⟨located_node item here (named 0 item rfl),
      located_nodesFrom later keyed fun offset other found => ?_⟩
    rw [Nat.add_right_comm]
    exact named (offset + 1) other found

end

end Formwright.Shape
