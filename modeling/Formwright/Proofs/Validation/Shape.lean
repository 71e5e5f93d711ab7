import Formwright.Validation.Document

/-!
# What the check of shapes reports

When a check of a field reports nothing, and what it reports otherwise: every diagnostic of the
check of shapes is an error with one and the same code.
-/
namespace Formwright.Shape

variable {members : Members} {key path : String} {check : Check}

/-! ## Silence -/

/-- A problem is something to report. -/
@[simp]
theorem fault_ne_nil (path message : String) : fault path message ≠ [] := by simp [fault]

/-- A value of the wrong kind is something to report. -/
@[simp]
theorem unexpected_ne_nil (path expected : String) (value : Json) :
    unexpected path expected value ≠ [] := by simp [unexpected]

/-- A field that is left out is something to report. -/
@[simp]
theorem missing_ne_nil (path key : String) : missing path key ≠ [] := by simp [missing]

/-- Nothing is reported of a field that may be left out exactly when nothing is reported of its
value. -/
theorem optional_eq_nil_iff :
    optional members key path check = [] ↔
      ∀ value, members.lookup key = some value → check (Pointer.push path key) value = [] := by
  cases found : members.lookup key with
  | none => simp [optional, found]
  | some value => simp [optional, found]

/-- Nothing is reported of a field that must be there exactly when it is there and nothing is
reported of its value. -/
theorem required_eq_nil_iff :
    required members key path check = [] ↔
      ∃ value, members.lookup key = some value ∧ check (Pointer.push path key) value = [] := by
  cases found : members.lookup key with
  | none => simp [required, found]
  | some value => simp [required, found]

/-- Where nothing is reported of the items of a list, nothing is reported of any of them. -/
theorem silent_of_itemsFrom {place : Nat} {items : List Json}
    (silent : itemsFrom check path place items = []) :
    ∀ item ∈ items, ∃ found, check (Pointer.index path found) item = [] := by
  induction items generalizing place with
  | nil => simp
  | cons first later ih =>
    obtain ⟨here, rest⟩ := List.append_eq_nil_iff.mp silent
    intro item member
    rcases List.mem_cons.mp member with rfl | member
    · exact ⟨place, here⟩
    · exact ih rest item member

/-- Nothing is reported of a tagged value exactly when its tag is one of its words and nothing is
reported of the fields that the tag decides on. -/
theorem tagged_eq_nil_iff {words : List String} {fields : String → List Diagnostic} :
    tagged members key path words fields = [] ↔
      ∃ word, members.lookup key = some (.string word) ∧ word ∈ words ∧ fields word = [] := by
  rw [tagged, required_eq_nil_iff]
  constructor
  · rintro ⟨value, found, silent⟩
    cases value with
    | string word =>
      by_cases known : word ∈ words
      · exact ⟨word, found, known, by simpa [known] using silent⟩
      · simp [oneOf, known] at silent
    | _ => simp [oneOf] at silent
  · rintro ⟨word, found, known, silent⟩
    exact ⟨.string word, found, by simpa [known] using silent⟩

/-! ## Faults -/

/-- Every diagnostic of a list is an error of shape. -/
def OnlyFaults (diagnostics : List Diagnostic) : Prop :=
  ∀ diagnostic ∈ diagnostics,
    diagnostic.level = .error ∧ diagnostic.code = some Diagnostic.schemaError

/-- Whatever the check reports is an error of shape. -/
def Check.ReportsFaults (check : Check) : Prop := ∀ path value, OnlyFaults (check path value)

/-- Nothing reported is no other thing reported. -/
@[simp]
theorem onlyFaults_nil : OnlyFaults [] := by simp [OnlyFaults]

/-- Reports one after the other are errors of shape where each is. -/
@[simp]
theorem onlyFaults_append (first second : List Diagnostic) :
    OnlyFaults (first ++ second) ↔ OnlyFaults first ∧ OnlyFaults second := by
  simp only [OnlyFaults, List.forall_mem_append]

/-- A problem is an error of shape. -/
@[simp]
theorem onlyFaults_fault (path message : String) : OnlyFaults (fault path message) := by
  simp [OnlyFaults, fault, Diagnostic.ofError]

/-- A value of the wrong kind is an error of shape. -/
@[simp]
theorem onlyFaults_unexpected (path expected : String) (value : Json) :
    OnlyFaults (unexpected path expected value) := onlyFaults_fault _ _

/-- A field that is left out is an error of shape. -/
@[simp]
theorem onlyFaults_missing (path key : String) : OnlyFaults (missing path key) :=
  onlyFaults_fault _ _

/-- A field that may be left out is reported with errors of shape where its value is. -/
@[simp]
theorem onlyFaults_optional (reports : check.ReportsFaults) :
    OnlyFaults (optional members key path check) := by
  unfold optional
  split
  · exact reports _ _
  · exact onlyFaults_nil

/-- A field that must be there is reported with errors of shape where its value is. -/
@[simp]
theorem onlyFaults_required (reports : check.ReportsFaults) :
    OnlyFaults (required members key path check) := by
  unfold required
  split
  · exact reports _ _
  · exact onlyFaults_missing _ _

/-- Texts are reported with errors of shape. -/
@[simp]
theorem text_reportsFaults : text.ReportsFaults := by
  intro path value
  cases value <;> simp [text]

/-- Texts that must not be blank are reported with errors of shape. -/
@[simp]
theorem filledText_reportsFaults : filledText.ReportsFaults := by
  intro path value
  cases value with
  | string held => simp only [filledText]; split <;> simp
  | _ => simp [filledText]

/-- Truth values are reported with errors of shape. -/
@[simp]
theorem truth_reportsFaults : truth.ReportsFaults := by
  intro path value
  cases value <;> simp [truth]

/-- Values that may be anything are not reported at all. -/
@[simp]
theorem anything_reportsFaults : anything.ReportsFaults := by
  intro path value
  simp [anything]

/-- Values that must be one of some words are reported with errors of shape. -/
@[simp]
theorem oneOf_reportsFaults (words : List String) : (oneOf words).ReportsFaults := by
  intro path value
  cases value with
  | string held => simp only [oneOf]; split <;> simp
  | _ => simp [oneOf]

/-- An object is reported with errors of shape if its members are. -/
@[simp]
theorem object_reportsFaults {checkMembers : String → Members → List Diagnostic}
    (reports : ∀ path members, OnlyFaults (checkMembers path members)) :
    (object checkMembers).ReportsFaults := by
  intro path value
  cases value with
  | object members => exact reports path members
  | _ => exact onlyFaults_unexpected _ _ _

/-- The items of a list are reported with errors of shape where each is. -/
theorem onlyFaults_itemsFrom (reports : check.ReportsFaults) (place : Nat) (items : List Json) :
    OnlyFaults (itemsFrom check path place items) := by
  induction items generalizing place with
  | nil => exact onlyFaults_nil
  | cons item later ih => exact (onlyFaults_append _ _).mpr ⟨reports _ _, ih (place + 1)⟩

/-- A list is reported with errors of shape if its items are. -/
@[simp]
theorem list_reportsFaults (reports : check.ReportsFaults) : (list check).ReportsFaults := by
  intro path value
  cases value with
  | array items => exact onlyFaults_itemsFrom reports 0 items
  | _ => exact onlyFaults_unexpected _ _ _

/-- Ids are reported with errors of shape. -/
@[simp]
theorem nodeId_reportsFaults : nodeId.ReportsFaults := by
  intro path value
  cases value with
  | string held => simp only [nodeId]; split <;> simp
  | _ => simp [nodeId]

/-- Numbers of columns are reported with errors of shape. -/
@[simp]
theorem columns_reportsFaults : columns.ReportsFaults := by
  intro path value
  unfold columns
  split
  · split <;> simp
  · simp

/-- Times are reported with errors of shape. -/
@[simp]
theorem milliseconds_reportsFaults : milliseconds.ReportsFaults := by
  intro path value
  unfold milliseconds
  split <;> simp

/-- The tags of nodes are reported with errors of shape. -/
@[simp]
theorem kindTag_reportsFaults : kindTag.ReportsFaults := oneOf_reportsFaults _

/-- A tagged value is reported with errors of shape where the fields that its tag decides on
are. -/
theorem onlyFaults_tagged {words : List String} {fields : String → List Diagnostic}
    (reports : ∀ word, OnlyFaults (fields word)) :
    OnlyFaults (tagged members key path words fields) := by
  apply onlyFaults_required
  intro tagPath tag
  dsimp only
  split
  · split
    · exact reports _
    · exact oneOf_reportsFaults words tagPath _
  · exact oneOf_reportsFaults words tagPath _

/-- Whatever is reported of a data source is an error of shape. -/
@[simp]
theorem onlyFaults_dataSource (path : String) (members : Members) :
    OnlyFaults (dataSource path members) := by
  refine (onlyFaults_append _ _).mpr ⟨by simp, onlyFaults_tagged fun word => ?_⟩
  split <;> simp

/-- Whatever is reported of the payload of a section is an error of shape. -/
@[simp]
theorem onlyFaults_payload (path : String) (members : Members) :
    OnlyFaults (payload path members) := by
  refine onlyFaults_tagged fun word => (onlyFaults_append _ _).mpr ⟨by simp, ?_⟩
  split <;> simp

/-- Whatever is reported of a binding is an error of shape. -/
@[simp]
theorem onlyFaults_binding (path : String) (members : Members) :
    OnlyFaults (binding path members) := by
  simp [binding]

/-- Whatever is reported of what a node says to assistive technology is an error of shape. -/
@[simp]
theorem onlyFaults_accessibility (path : String) (members : Members) :
    OnlyFaults (accessibility path members) := by
  simp [accessibility]

/-- Whatever is reported of the layout of a node is an error of shape. -/
@[simp]
theorem onlyFaults_layout (path : String) (members : Members) :
    OnlyFaults (layout path members) := by
  simp [layout]

/-- Whatever is reported of the envelope of a node is an error of shape. -/
@[simp]
theorem onlyFaults_envelope (path : String) (members : Members) :
    OnlyFaults (envelope path members) := by
  simp [envelope]

/-- Whatever is reported of the fields of a node before the nodes below it is an error of
shape. -/
@[simp]
theorem onlyFaults_ownFields (kind : NodeKind) (path : String) (members : Members) :
    OnlyFaults (ownFields kind path members) := by
  cases kind <;> simp [ownFields, list_reportsFaults (object_reportsFaults onlyFaults_dataSource)]

/-- Whatever is reported of the fields of a node after the nodes below it is an error of
shape. -/
@[simp]
theorem onlyFaults_lastFields (kind : NodeKind) (path : String) (members : Members) :
    OnlyFaults (lastFields kind path members) := by
  cases kind <;> simp [lastFields, list_reportsFaults (object_reportsFaults onlyFaults_binding)]

mutual

/-- Whatever is reported of a node and of all below it is an error of shape. -/
theorem onlyFaults_node : ∀ (path : String) (value : Json), OnlyFaults (node path value)
  | path, .object members => by
    have below := onlyFaults_children path members
    have slotted := onlyFaults_slots path members
    simp only [node]
    split
    · simp
    · split <;> simp [below, slotted]
  | path, .null | path, .bool _ | path, .integer _ | path, .float _ | path, .string _
  | path, .array _ => by simp [node]

/-- Whatever is reported of the children among the members of a node is an error of shape. -/
theorem onlyFaults_children : ∀ (path : String) (members : List (String × Json)),
    OnlyFaults (children path members)
  | path, [] => by simp [children]
  | path, (key, value) :: later => by
    have here := onlyFaults_nodes (Pointer.push path Node.childrenKey) value
    have after := onlyFaults_children path later
    simp only [children]
    split
    · exact here
    · exact after

/-- Whatever is reported of the slots among the members of a node is an error of shape. -/
theorem onlyFaults_slots : ∀ (path : String) (members : List (String × Json)),
    OnlyFaults (slots path members)
  | path, [] => by simp [slots]
  | path, (key, value) :: later => by
    have here := onlyFaults_slotTable (Pointer.push path Node.slotsKey) value
    have after := onlyFaults_slots path later
    simp only [slots]
    split
    · exact here
    · exact after

/-- Whatever is reported of a value that holds slots is an error of shape. -/
theorem onlyFaults_slotTable : ∀ (path : String) (value : Json), OnlyFaults (slotTable path value)
  | path, .object members => onlyFaults_slotEntries path members
  | path, .null | path, .bool _ | path, .integer _ | path, .float _ | path, .string _
  | path, .array _ => by simp [slotTable]

/-- Whatever is reported of some slots is an error of shape. -/
theorem onlyFaults_slotEntries : ∀ (path : String) (members : List (String × Json)),
    OnlyFaults (slotEntries path members)
  | path, [] => by simp [slotEntries]
  | path, (slot, value) :: later => by
    have here := onlyFaults_nodes (Pointer.push path slot) value
    have after := onlyFaults_slotEntries path later
    simp [slotEntries, here, after]

/-- Whatever is reported of a value that holds nodes is an error of shape. -/
theorem onlyFaults_nodes : ∀ (path : String) (value : Json), OnlyFaults (nodes path value)
  | path, .array items => onlyFaults_nodesFrom path 0 items
  | path, .null | path, .bool _ | path, .integer _ | path, .float _ | path, .string _
  | path, .object _ => by simp [nodes]

/-- Whatever is reported of nodes from an index on is an error of shape. -/
theorem onlyFaults_nodesFrom : ∀ (path : String) (place : Nat) (items : List Json),
    OnlyFaults (nodesFrom path place items)
  | path, place, [] => by simp [nodesFrom]
  | path, place, item :: later => by
    have here := onlyFaults_node (Pointer.index path place) item
    have after := onlyFaults_nodesFrom path (place + 1) later
    simp [nodesFrom, here, after]

end

end Formwright.Shape
