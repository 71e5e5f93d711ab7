import Formwright.Proofs.Node.Visit
import Formwright.Proofs.Validation.Written

/-!
# The nodes that the check of shape comes to

The check of the shape of a document goes through the raw value and knows nothing of node trees. A
trace of it notes besides what is reported also with which pointer the check of each node begins.
Without these notes the trace is what the check reports. Of a written tree, the pointers are those
that the walk over the tree notes, in the same order.
-/
namespace Formwright.Shape

/-- What a trace of the check notes. -/
inductive Note where
  /-- The check of a node begins, to which there is a pointer. -/
  | enters (path : String)
  | reports (diagnostic : Diagnostic)

/-- The pointer with which the check of a node begins. -/
def Note.path? : Note → Option String
  | .enters path => some path
  | .reports _ => none

/-- What is reported. -/
def Note.diagnostic? : Note → Option Diagnostic
  | .enters _ => none
  | .reports diagnostic => some diagnostic

/-- The pointers to the nodes that a trace of the check comes to. -/
def entered (notes : List Note) : List String := notes.filterMap Note.path?

/-- What a trace of the check reports. -/
def reported (notes : List Note) : List Diagnostic := notes.filterMap Note.diagnostic?

/-- The notes of a check that comes to no nodes. -/
def reporting (diagnostics : List Diagnostic) : List Note := diagnostics.map .reports

mutual

/-- The trace of the check of a node and everything below it. -/
def nodeTrace (path : String) : Json → List Note
  | .object members =>
    .enters path :: (reporting (required members "type" path kindTag ++ envelope path members)
      ++ match kind? members with
        | none => []
        | some kind =>
          reporting (ownFields kind path members)
            ++ (if kind.isContainer then childrenTrace path members else slotsTrace path members)
            ++ reporting (lastFields kind path members))
  | other => .enters path :: reporting (unexpected path "node object" other)

/-- The trace of the check of the children among the members of a container. -/
def childrenTrace (path : String) : List (String × Json) → List Note
  | [] => []
  | (key, value) :: later =>
    if key = Node.childrenKey then nodesTrace (Pointer.push path Node.childrenKey) value
    else childrenTrace path later

/-- The trace of the check of the slots among the members of a component. -/
def slotsTrace (path : String) : List (String × Json) → List Note
  | [] => []
  | (key, value) :: later =>
    if key = Node.slotsKey then slotTableTrace (Pointer.push path Node.slotsKey) value
    else slotsTrace path later

/-- The trace of the check of the slots of a component. -/
def slotTableTrace (path : String) : Json → List Note
  | .object members => slotEntriesTrace path members
  | other => reporting (unexpected path "object" other)

/-- The trace of the check of the entries of the slots of a component. -/
def slotEntriesTrace (path : String) : List (String × Json) → List Note
  | [] => []
  | (slot, value) :: later =>
    nodesTrace (Pointer.push path slot) value ++ slotEntriesTrace path later

/-- The trace of the check of a list of nodes. -/
def nodesTrace (path : String) : Json → List Note
  | .array items => nodesFromTrace path 0 items
  | other => reporting (unexpected path "array" other)

/-- The trace of the check of the nodes of a list, from an index on. -/
def nodesFromTrace (path : String) (place : Nat) : List Json → List Note
  | [] => []
  | item :: later =>
    nodeTrace (Pointer.index path place) item ++ nodesFromTrace path (place + 1) later

end

/-! ## What is reported -/

section

variable {path : String} {diagnostics : List Diagnostic} {notes later : List Note}

/-- Two traces one after the other report what both do. -/
@[simp]
theorem reported_append : reported (notes ++ later) = reported notes ++ reported later :=
  List.filterMap_append

/-- To come to a node reports nothing. -/
@[simp]
theorem reported_enters : reported (.enters path :: later) = reported later := rfl

/-- A trace of diagnostics reports them. -/
@[simp]
theorem reported_reporting : reported (reporting diagnostics) = diagnostics := by
  rw [reported, reporting, List.filterMap_map]
  exact List.filterMap_some

/-- Two traces one after the other come to the nodes of both. -/
@[simp]
theorem entered_append : entered (notes ++ later) = entered notes ++ entered later :=
  List.filterMap_append

/-- To come to a node counts before what comes later. -/
@[simp]
theorem entered_enters : entered (.enters path :: later) = path :: entered later := rfl

/-- A trace of diagnostics comes to no nodes. -/
@[simp]
theorem entered_reporting : entered (reporting diagnostics) = [] := by
  rw [entered, reporting, List.filterMap_map]
  exact List.filterMap_eq_nil_iff.mpr fun _ _ => rfl

end

mutual

/-- The trace of the check of a node reports what the check does. -/
theorem reported_nodeTrace : ∀ (path : String) (value : Json),
    reported (nodeTrace path value) = node path value
  | path, .object members => by
    rw [nodeTrace, node, reported_enters, reported_append, reported_reporting]
    cases kind? members with
    | none => rfl
    | some kind =>
      simp only [reported_append, reported_reporting]
      split
      · rw [reported_childrenTrace]
      · rw [reported_slotsTrace]
  | path, .null | path, .bool _ | path, .integer _ | path, .float _ | path, .string _
  | path, .array _ => by rw [nodeTrace, node, reported_enters, reported_reporting] <;> simp

/-- The trace of the check of children reports what the check does. -/
theorem reported_childrenTrace : ∀ (path : String) (members : Members),
    reported (childrenTrace path members) = children path members
  | _, [] => rfl
  | path, (key, value) :: later => by
    rw [childrenTrace, children]
    split
    · exact reported_nodesTrace _ value
    · exact reported_childrenTrace path later

/-- The trace of the check of slots reports what the check does. -/
theorem reported_slotsTrace : ∀ (path : String) (members : Members),
    reported (slotsTrace path members) = slots path members
  | _, [] => rfl
  | path, (key, value) :: later => by
    rw [slotsTrace, slots]
    split
    · exact reported_slotTableTrace _ value
    · exact reported_slotsTrace path later

/-- The trace of the check of a table of slots reports what the check does. -/
theorem reported_slotTableTrace : ∀ (path : String) (value : Json),
    reported (slotTableTrace path value) = slotTable path value
  | path, .object members => reported_slotEntriesTrace path members
  | path, .null | path, .bool _ | path, .integer _ | path, .float _ | path, .string _
  | path, .array _ => by rw [slotTableTrace, slotTable, reported_reporting] <;> simp

/-- The trace of the check of the entries of slots reports what the check does. -/
theorem reported_slotEntriesTrace : ∀ (path : String) (members : Members),
    reported (slotEntriesTrace path members) = slotEntries path members
  | _, [] => rfl
  | path, (slot, value) :: later => by
    rw [slotEntriesTrace, slotEntries, reported_append, reported_nodesTrace,
      reported_slotEntriesTrace]

/-- The trace of the check of a list of nodes reports what the check does. -/
theorem reported_nodesTrace : ∀ (path : String) (value : Json),
    reported (nodesTrace path value) = nodes path value
  | path, .array items => reported_nodesFromTrace path 0 items
  | path, .null | path, .bool _ | path, .integer _ | path, .float _ | path, .string _
  | path, .object _ => by rw [nodesTrace, nodes, reported_reporting] <;> simp

/-- The trace of the check of the nodes of a list reports what the check does. -/
theorem reported_nodesFromTrace : ∀ (path : String) (place : Nat) (items : List Json),
    reported (nodesFromTrace path place items) = nodesFrom path place items
  | _, _, [] => rfl
  | path, place, item :: later => by
    rw [nodesFromTrace, nodesFrom, reported_append, reported_nodeTrace, reported_nodesFromTrace]

end

/-! ## Which nodes are entered -/

/-- The check comes to the children of a container where its members hold them. -/
theorem childrenTrace_eq (path : String) (members : Members) :
    childrenTrace path members = (members.lookup Node.childrenKey).elim []
      (nodesTrace (Pointer.push path Node.childrenKey)) :=
  scan_eq_elim_lookup rfl (fun _ _ _ => rfl) members

/-- The check comes to the slots of a component where its members hold them. -/
theorem slotsTrace_eq (path : String) (members : Members) :
    slotsTrace path members = (members.lookup Node.slotsKey).elim []
      (slotTableTrace (Pointer.push path Node.slotsKey)) :=
  scan_eq_elim_lookup rfl (fun _ _ _ => rfl) members

/-- The check of a written node enters the node and then what is below it. -/
theorem entered_nodeTrace_eq (path : String) (tree : Node) :
    entered (nodeTrace path tree.toJson) = path :: entered
      (if tree.kind.isContainer then childrenTrace path tree.members
        else slotsTrace path tree.members) := by
  rw [Node.toJson_eq, nodeTrace, kind?_members]
  simp only [entered_enters, entered_append, entered_reporting, List.nil_append, List.append_nil]

mutual

/-- The check of a written tree comes to the nodes of the walk over it, in its order. -/
theorem entered_nodeTrace : ∀ (path : String) (above : List Node) (tree : Node),
    entered (nodeTrace path tree.toJson) = (tree.visits path above).map Visit.path
  | path, above, .container envelope body below => by
    rw [entered_nodeTrace_eq, Node.kind, if_pos (isContainer_kind body), childrenTrace_eq,
      Node.lookup_children, Node.visits, List.map_cons]
    exact congrArg (path :: ·) (entered_nodesFromTrace _ _ 0 below)
  | path, above, .component envelope element below => by
    rw [entered_nodeTrace_eq, Node.kind, if_neg (by decide), slotsTrace_eq, Node.lookup_slots,
      Node.visits, List.map_cons]
    cases below with
    | nil => rfl
    | cons first later =>
      exact congrArg (path :: ·) (entered_slotEntriesTrace _ _ (first :: later))

/-- The check of written slots comes to the nodes of the walk over them, in its order. -/
theorem entered_slotEntriesTrace : ∀ (path : String) (above : List Node)
    (slots : List (String × List Node)), entered (slotEntriesTrace path (Node.toJsonSlots slots)) =
      (Node.visitsSlots path above slots).map Visit.path
  | _, _, [] => rfl
  | path, above, (slot, inside) :: later => by
    rw [Node.toJsonSlots, slotEntriesTrace, Node.visitsSlots, entered_append, List.map_append,
      nodesTrace, entered_nodesFromTrace _ above, entered_slotEntriesTrace _ above]

/-- The check of a list of written nodes comes to the nodes of the walk over them, in its order. -/
theorem entered_nodesFromTrace : ∀ (path : String) (above : List Node) (place : Nat)
    (nodes : List Node), entered (nodesFromTrace path place (Node.toJsonAll nodes)) =
      (Node.visitsFrom path above place nodes).map Visit.path
  | _, _, _, [] => rfl
  | path, above, place, node :: later => by
    rw [Node.toJsonAll, nodesFromTrace, Node.visitsFrom, entered_append, List.map_append,
      entered_nodeTrace _ above, entered_nodesFromTrace _ above]

end

end Formwright.Shape
