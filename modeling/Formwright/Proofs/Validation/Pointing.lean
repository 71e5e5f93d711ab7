import Formwright.Proofs.Json.Parsed
import Formwright.Proofs.Node.Spelled
import Formwright.Proofs.Validation.Location
import Formwright.Proofs.Validation.Soundness

/-!
# Diagnostics point into their document

What the registry has to say of a tree is said at the places of the document that spelled it, so
all diagnostics of a document, of its shape or against a registry, point at what they are about.
-/
namespace Formwright.Node
open Json

/-- The slots that entries are read as are named by the keys of the entries. -/
theorem keys_of_readEntries? {members : Members} {slots : List (String × List Node)}
    (read : readEntries? members = some slots) : slots.map Prod.fst = members.map Prod.fst := by
  induction members generalizing slots with
  | nil =>
    rw [readEntries?, Option.some.injEq] at read
    rw [← read]
    rfl
  | cons entry later ih =>
    obtain ⟨slot, value⟩ := entry
    rw [readEntries?] at read
    obtain ⟨nodes, _, read⟩ := Option.bind_eq_some_iff.mp read
    obtain ⟨rest, readRest, same⟩ := Option.bind_eq_some_iff.mp read
    cases same
    rw [List.map_cons, List.map_cons, ih readRest]

/-- Slots are read of a table that has their names as keys. -/
theorem exists_table_of_readSlots? {members : Members} {slots : List (String × List Node)}
    (read : readSlots? members = some slots) {slot : String} (used : slot ∈ slots.map Prod.fst) :
    ∃ table value, members.lookup slotsKey = some (.object table) ∧
      table.lookup slot = some value := by
  rw [readSlots?_eq] at read
  cases held : members.lookup slotsKey with
  | none =>
    rw [held, Option.elim_none, Option.some.injEq] at read
    simp [← read] at used
  | some value =>
    rw [held, Option.elim_some] at read
    cases value with
    | object table =>
      rw [readTable?] at read
      rw [keys_of_readEntries? read, ← isSome_lookup_iff] at used
      obtain ⟨value, found⟩ := Option.isSome_iff_exists.mp used
      exact ⟨table, value, rfl, found⟩
    | _ => simp [readTable?] at read

end Formwright.Node

namespace Formwright.RegistryCheck
open Json Pointer Validation

variable {registry : ComponentRegistry} {document : Json}

/-- What is said of a visited node is located where the document spells the node. -/
theorem located_ownDiagnostics {visit : Visit} (spelled : Node.Spells document visit) :
    AllLocated registry document (ownDiagnostics registry visit) := by
  obtain ⟨path, above, node⟩ := visit
  obtain ⟨byPlace, value, named, read⟩ := spelled
  cases node with
  | container envelope body children => exact allLocated_nil
  | component envelope element slots =>
    obtain ⟨members, rfl, fields, readSlots⟩ := Node.exists_of_read?_component read
    obtain ⟨component, props, variant⟩ := Component.exists_fields fields
    cases registered : registry.get? element.component with
    | none =>
      rw [ownDiagnostics_unregistered registered]
      exact List.forall_mem_singleton.mpr
        (.blamed ((at?_push named "component").trans component) (.component registered))
    | some entry =>
      rw [ownDiagnostics_registered registered, entryDiagnostics, allLocated_append,
        allLocated_append]
      refine ⟨⟨?allowed, ?declared⟩, ?described⟩
      case allowed =>
        unfold variantFaults
        split
        · rename_i held shown
          split
          · exact allLocated_nil
          · rename_i other
            exact List.forall_mem_singleton.mpr (.blamed
              ((at?_push named "variant").trans (variant held shown))
              (.variant registered (by simpa using other)))
        · exact allLocated_nil
      case declared =>
        simp only [AllLocated, slotFaults, List.forall_mem_map, List.mem_filter]
        rintro slot ⟨used, other⟩
        obtain ⟨table, value, held, found⟩ := Node.exists_table_of_readSlots? readSlots used
        have table := (at?_push named Node.slotsKey).trans held
        exact .blamed ((at?_push table slot).trans found)
          (.slot registered (by simpa using other))
      case described =>
        simp only [AllLocated, propWarnings, List.forall_mem_map, List.mem_filter]
        rintro prop ⟨used, other⟩
        have held := props (by rintro empty; simp [empty] at used)
        obtain ⟨value, found⟩ := Option.isSome_iff_exists.mp ((isSome_lookup_iff _ _).mpr used)
        have table := (at?_push named "props").trans held
        exact .blamed ((at?_push table prop).trans found)
          (.prop registered (by simpa using other))

/-- What is said of a tree against a registry is located in a document that spells it. -/
theorem located_node {tree : Node} (keyed : document.IsKeyed)
    (spelled : Node.ofJson? document = some tree) :
    AllLocated registry document (node registry "" tree) := by
  have whole := reports_visits registry "" [] tree
  simp only [List.any_nil, Bool.false_eq_true, ↓reduceIte] at whole
  rw [← whole, reports, allLocated_flatMap]
  intro visit reached
  exact located_ownDiagnostics
    (Node.spells_visits document keyed at?_root spelled visit (List.mem_filter.mp reached).1)

end Formwright.RegistryCheck

namespace Formwright.Validation
open Json

variable {registry : ComponentRegistry} {document : Json}

/-- What is said of a document is located in it. -/
theorem located_diagnostics (keyed : document.IsKeyed) :
    AllLocated registry document (diagnostics document registry) := by
  by_cases sound : Shape.node "" document = []
  · obtain ⟨tree, spelled⟩ := Shape.node_reads false "" document sound
    rw [diagnostics_of_tree registry sound spelled]
    exact RegistryCheck.located_node keyed spelled
  · rw [diagnostics_of_faults registry sound]
    exact Shape.located_node document keyed at?_root

/-- What is said of the kind of a root is located at the tag of the root. -/
theorem located_rootFaults (members : Members) :
    AllLocated registry (.object members) (rootFaults members) := by
  unfold rootFaults
  split
  · exact allLocated_nil
  · rename_i other different found
    obtain ⟨value, held, text⟩ := Option.bind_eq_some_iff.mp found
    cases value with
    | string name =>
      obtain rfl := Option.some.inj text
      have tag : (Json.object members).at? "/type" = some (.string name) :=
        (at?_push at?_root "type").trans held
      exact List.forall_mem_singleton.mpr (.blamed tag (.root different))
    | _ => contradiction
  · exact allLocated_nil

/-- What is said of a document that must be a page is located in it. -/
theorem located_validatePage (keyed : document.IsKeyed) :
    AllLocated registry document (validatePage document registry).diagnostics := by
  cases document with
  | object members =>
    exact (allLocated_append _ _).mpr ⟨located_rootFaults members, located_diagnostics keyed⟩
  | _ =>
    have special :
        "a page object" ∉ ["null", "boolean", "number", "string", "array", "object"] := by
      decide
    exact List.forall_mem_singleton.mpr
      (.blamed at?_root (.kind (Shape.kindName_ne special _)))

/-- A diagnostic points into a document. Its pointer can be read, and if it is about a field that is
left out, the steps of the pointer but the last lead to an object that does not have the last one as
a key. Any other diagnostic blames the value that the steps lead to. -/
def PointsInto (registry : ComponentRegistry) (document : Json) (diagnostic : Diagnostic) : Prop :=
  ∃ pointer steps, diagnostic.path = some pointer ∧ Pointer.steps? pointer = some steps ∧
    (IsMissingField diagnostic → ∃ above key members, steps = above ++ [key] ∧
      diagnostic.message = missingMessage key ∧
      document.follow? above = some (.object members) ∧ members.lookup key = none) ∧
    (¬IsMissingField diagnostic → ∃ value, document.follow? steps = some value ∧
      Blames registry pointer value diagnostic.message)

/-- What is located in a document points into it. -/
theorem pointsInto_of_located {diagnostic : Diagnostic}
    (located : Located registry document diagnostic) : PointsInto registry document diagnostic := by
  cases located with
  | @missing level code base key members named absent =>
    obtain ⟨above, made, led⟩ := Option.bind_eq_some_iff.mp named
    exact ⟨_, _, rfl, Pointer.steps?_push made key,
      fun _ => ⟨above, key, members, rfl, rfl, led, absent⟩,
      fun other => absurd ⟨key, rfl⟩ other⟩
  | @blamed level code pointer message value named blames =>
    obtain ⟨steps, made, led⟩ := Option.bind_eq_some_iff.mp named
    exact ⟨_, steps, rfl, made, fun ⟨key, same⟩ => absurd same (blames.not_missing key),
      fun _ => ⟨value, led, blames⟩⟩

/-- Every diagnostic of a document, validated as a node or as a page, points into the document,
provided that the objects in it hold each of their keys once, as they do in all documents that are
read from text. -/
theorem diagnostics_pointInto (registry : ComponentRegistry) (document : Json) :
    (∀ text depth, Json.parse text depth = .ok document → document.IsKeyed) ∧
      (document.IsKeyed → ∀ diagnostic ∈
          (validateNode document registry).diagnostics
            ++ (validatePage document registry).diagnostics,
        PointsInto registry document diagnostic) := by
  refine ⟨fun text depth => isKeyed_of_parse, fun keyed diagnostic reported => ?_⟩
  refine pointsInto_of_located ?_
  rcases List.mem_append.mp reported with node | page
  · exact located_diagnostics keyed diagnostic node
  · exact located_validatePage keyed diagnostic page

/-- A component with a slot whose name is escaped in pointers, and a node without an id in it. -/
theorem diagnostics_pointInto_slot :
    let text := "\x7b\"type\":\"component\",\"slots\":\x7b\"a/b\":[\x7b\x7d]\x7d\x7d"
    let document : Json := .object [("slots", .object [("a/b", .array [.object []])]),
      ("type", .string "component")]
    let diagnostic : Diagnostic :=
      ⟨.error, missingMessage "id", some "/slots/a~1b/0/id", some Diagnostic.schemaError⟩
    Json.parse text = .ok document ∧ document.IsKeyed ∧
      diagnostic ∈ (validateNode document ⟨[]⟩).diagnostics ∧
      PointsInto ⟨[]⟩ document diagnostic := by
  intro text document diagnostic
  have read : Json.parse text = .ok document := by
    simp only [document, text]
    rfl
  have keyed : document.IsKeyed := (diagnostics_pointInto ⟨[]⟩ document).1 text _ read
  have reported : diagnostic ∈ (validateNode document ⟨[]⟩).diagnostics := by decide +kernel
  exact ⟨read, keyed, reported, (diagnostics_pointInto ⟨[]⟩ document).2 keyed diagnostic
    (List.mem_append_left _ reported)⟩

end Formwright.Validation
