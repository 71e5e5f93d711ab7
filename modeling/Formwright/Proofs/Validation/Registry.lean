import Formwright.Proofs.Node.Visit
import Formwright.Validation.Document

/-!
# The check against a registry, node by node

The check against a registry stops below a component that is not registered. What it reports is told
here by the walk over the whole tree: the reports on the single nodes, in the order of the walk,
without those on nodes below such a component. The stop hides no error from the verdict, since it
comes with one: a tree is valid exactly when every component of it conforms to the registry.
-/
namespace Formwright.RegistryCheck

/-! ## Single nodes -/

/-- The node is a component that is not in the registry. -/
def isUnregistered (registry : ComponentRegistry) : Node → Bool
  | .container .. => false
  | .component _ element _ => (registry.get? element.component).isNone

/-- What the check says of a visited node by itself. -/
def ownDiagnostics (registry : ComponentRegistry) (visit : Visit) : List Diagnostic :=
  match visit.node with
  | .container .. => []
  | .component _ element slots =>
    match registry.get? element.component with
    | none => [unknownComponent visit.path element.component]
    | some entry => entryDiagnostics entry visit.path element (slots.map Prod.fst)

section

variable {registry : ComponentRegistry} {path : String} {above : List Node} {envelope : Envelope}
  {element : Component} {slots : List (String × List Node)}

/-- Of an unregistered component nothing else is said. -/
theorem ownDiagnostics_unregistered (missing : registry.get? element.component = none) :
    ownDiagnostics registry ⟨path, above, .component envelope element slots⟩ =
      [unknownComponent path element.component] := by
  simp only [ownDiagnostics, missing]

/-- Of a registered component all is said that its entry has to say. -/
theorem ownDiagnostics_registered {entry : RegistryEntry}
    (found : registry.get? element.component = some entry) :
    ownDiagnostics registry ⟨path, above, .component envelope element slots⟩ =
      entryDiagnostics entry path element (slots.map Prod.fst) := by
  simp only [ownDiagnostics, found]

end

/-- The check comes to a node: no component above it is unregistered. -/
def isReached (registry : ComponentRegistry) (visit : Visit) : Bool :=
  !visit.above.any (isUnregistered registry)

/-- The node is no component, or one that is registered with its variant and with all its slots. -/
def Conforms (registry : ComponentRegistry) : Node → Prop
  | .container .. => True
  | .component _ element slots => ∃ entry, registry.get? element.component = some entry ∧
      (∀ variant, element.variant = some variant → entry.allowsVariant variant) ∧
      ∀ slot ∈ slots.map Prod.fst, entry.allowsSlot slot

/-- The registry describes all props of the node, if it describes any. -/
def KnowsProps (registry : ComponentRegistry) : Node → Prop
  | .container .. => True
  | .component _ element _ => ∀ entry, registry.get? element.component = some entry →
      ∀ prop ∈ element.props.map Prod.fst, entry.knowsProp prop ≠ some false

/-! ## Findings -/

/-- A diagnostic without its wording. -/
structure Finding where
  level : Level
  code : String
  path : String
deriving DecidableEq, Repr

/-- The finding that a diagnostic words, where it has a path and a code. -/
def finding? (diagnostic : Diagnostic) : Option Finding := do
  return ⟨diagnostic.level, ← diagnostic.code, ← diagnostic.path⟩

/-- An error is found as one. -/
@[simp]
theorem finding?_ofError (code message path : String) :
    finding? (.ofError code message path) = some ⟨.error, code, path⟩ := rfl

/-- A warning is found as one. -/
@[simp]
theorem finding?_ofWarning (code message path : String) :
    finding? (.ofWarning code message path) = some ⟨.warning, code, path⟩ := rfl

/-- What is found of a visited node: of a component that is not registered only this; of any other
the variant if it is not allowed, every slot that is not declared and every prop that is not
described. -/
def findings (registry : ComponentRegistry) (visit : Visit) : List Finding :=
  match visit.node with
  | .container .. => []
  | .component _ element slots =>
    match registry.get? element.component with
    | none => [⟨.error, Diagnostic.invalidComponent, Pointer.push visit.path "component"⟩]
    | some entry =>
      ((element.variant.toList.filter fun variant => !entry.allowsVariant variant).map fun _ =>
          ⟨.error, Diagnostic.invalidVariant, Pointer.push visit.path "variant"⟩)
        ++ (((slots.map Prod.fst).filter fun slot => !entry.allowsSlot slot).map fun slot =>
          ⟨.error, Diagnostic.invalidSlot, Pointer.push (Pointer.push visit.path "slots") slot⟩)
        ++ (((element.props.map Prod.fst).filter fun prop =>
            entry.knowsProp prop == some false).map fun prop =>
          ⟨.warning, Diagnostic.unknownProp, Pointer.push (Pointer.push visit.path "props") prop⟩)

/-- What the check says of a node by itself words what is found of it, one by one. -/
theorem map_finding?_ownDiagnostics (registry : ComponentRegistry) (visit : Visit) :
    (ownDiagnostics registry visit).map finding? = (findings registry visit).map some := by
  obtain ⟨path, above, node⟩ := visit
  cases node with
  | container envelope body children => rfl
  | component envelope element slots =>
    simp only [ownDiagnostics, findings]
    cases registry.get? element.component with
    | none => rfl
    | some entry =>
      have variants : (variantFaults entry path element).map finding? =
          ((element.variant.toList.filter fun variant => !entry.allowsVariant variant).map fun _ =>
            some ⟨.error, Diagnostic.invalidVariant, Pointer.push path "variant"⟩) := by
        unfold variantFaults
        cases element.variant with
        | none => rfl
        | some variant => by_cases allowed : entry.allowsVariant variant <;> simp [allowed]
      simp only [entryDiagnostics, List.map_append, variants, slotFaults, propWarnings,
        List.map_map]
      rfl

/-- A diagnostic of the check against a registry: an error of a component, a variant or a slot, or a
warning of a prop. -/
def IsReport (diagnostic : Diagnostic) : Prop :=
  (diagnostic.level = .error ∧
      (diagnostic.code = some Diagnostic.invalidComponent ∨
        diagnostic.code = some Diagnostic.invalidVariant ∨
        diagnostic.code = some Diagnostic.invalidSlot)) ∨
    (diagnostic.level = .warning ∧ diagnostic.code = some Diagnostic.unknownProp)

/-- A finding has one of four codes, and only that of a prop is a warning. -/
theorem sort_of_mem_findings {registry : ComponentRegistry} {visit : Visit} {finding : Finding}
    (found : finding ∈ findings registry visit) :
    (finding.level = .error ∧
        (finding.code = Diagnostic.invalidComponent ∨ finding.code = Diagnostic.invalidVariant ∨
          finding.code = Diagnostic.invalidSlot)) ∨
      (finding.level = .warning ∧ finding.code = Diagnostic.unknownProp) := by
  unfold findings at found
  split at found
  · contradiction
  · split at found
    · obtain rfl := List.mem_singleton.mp found
      exact .inl ⟨rfl, .inl rfl⟩
    · simp only [List.mem_append, List.mem_map] at found
      obtain (⟨_, _, rfl⟩ | ⟨_, _, rfl⟩) | ⟨_, _, rfl⟩ := found
      · exact .inl ⟨rfl, .inr (.inl rfl)⟩
      · exact .inl ⟨rfl, .inr (.inr rfl)⟩
      · exact .inr ⟨rfl, rfl⟩

/-- Whatever the check says of a node by itself is one of its reports. -/
theorem isReport_of_mem_ownDiagnostics {registry : ComponentRegistry} {visit : Visit}
    {diagnostic : Diagnostic} (said : diagnostic ∈ ownDiagnostics registry visit) :
    IsReport diagnostic := by
  have worded := List.mem_map_of_mem (f := finding?) said
  rw [map_finding?_ownDiagnostics] at worded
  obtain ⟨finding, found, same⟩ := List.mem_map.mp worded
  obtain ⟨level, message, path, code⟩ := diagnostic
  cases code with
  | none => simp [finding?] at same
  | some code =>
    cases path with
    | none => simp [finding?] at same
    | some path =>
      obtain rfl : finding = ⟨level, code, path⟩ := by simpa [finding?] using same
      simpa [IsReport] using sort_of_mem_findings found

/-! ## Trees -/

/-- What the check says of some visited nodes, of those that it comes to. -/
def reports (registry : ComponentRegistry) (visits : List Visit) : List Diagnostic :=
  (visits.filter (isReached registry)).flatMap (ownDiagnostics registry)

/-- The reports on two walks one after the other. -/
theorem reports_append (registry : ComponentRegistry) (first second : List Visit) :
    reports registry (first ++ second) = reports registry first ++ reports registry second := by
  rw [reports, List.filter_append, List.flatMap_append]
  rfl

/-- The report on a first visited node comes before all others. -/
theorem reports_cons (registry : ComponentRegistry) (visit : Visit) (later : List Visit) :
    reports registry (visit :: later) =
      (if visit.above.any (isUnregistered registry) then [] else ownDiagnostics registry visit)
        ++ reports registry later := by
  cases hidden : visit.above.any (isUnregistered registry) <;>
    simp [reports, isReached, hidden]

mutual

/-- The reports on the nodes that the check comes to are what it reports of the tree, and nothing
below an unregistered component. -/
theorem reports_visits (registry : ComponentRegistry) :
    ∀ (path : String) (above : List Node) (tree : Node),
      reports registry (tree.visits path above) =
        if above.any (isUnregistered registry) then [] else node registry path tree
  | path, above, .container envelope body children => by
    rw [Node.visits, reports_cons, reports_visitsFrom, List.any_cons, isUnregistered,
      Bool.false_or, node]
    split <;> rfl
  | path, above, .component envelope element slots => by
    rw [Node.visits, reports_cons, reports_visitsSlots, List.any_cons, isUnregistered, node]
    cases found : registry.get? element.component with
    | none =>
      rw [ownDiagnostics_unregistered found]
      simp only [Option.isNone_none, Bool.true_or, ↓reduceIte, List.append_nil]
    | some entry =>
      rw [ownDiagnostics_registered found]
      simp only [Option.isNone_some, Bool.false_or]
      split <;> rfl

/-- The reports on the nodes of a list. -/
theorem reports_visitsFrom (registry : ComponentRegistry) :
    ∀ (path : String) (above : List Node) (place : Nat) (nodes : List Node),
      reports registry (Node.visitsFrom path above place nodes) =
        if above.any (isUnregistered registry) then [] else nodesFrom registry path place nodes
  | path, above, place, [] => by
    rw [Node.visitsFrom, nodesFrom, ite_self]
    rfl
  | path, above, place, tree :: later => by
    rw [Node.visitsFrom, reports_append, reports_visits, reports_visitsFrom, nodesFrom]
    split <;> rfl

/-- The reports on the nodes in some slots. -/
theorem reports_visitsSlots (registry : ComponentRegistry) :
    ∀ (path : String) (above : List Node) (slots : List (String × List Node)),
      reports registry (Node.visitsSlots path above slots) =
        if above.any (isUnregistered registry) then [] else slotNodes registry path slots
  | path, above, [] => by
    rw [Node.visitsSlots, slotNodes, ite_self]
    rfl
  | path, above, (slot, nodes) :: later => by
    rw [Node.visitsSlots, reports_append, reports_visitsFrom, reports_visitsSlots, slotNodes]
    split <;> rfl

end

/-- Whatever the check reports of a tree is one of its reports. -/
theorem isReport_of_mem_node {registry : ComponentRegistry} {path : String} {tree : Node}
    {diagnostic : Diagnostic} (reported : diagnostic ∈ node registry path tree) :
    IsReport diagnostic := by
  have shown := reports_visits registry path [] tree
  simp only [List.any_nil, Bool.false_eq_true, ↓reduceIte] at shown
  rw [← shown] at reported
  obtain ⟨visit, _, said⟩ := List.mem_flatMap.mp reported
  exact isReport_of_mem_ownDiagnostics said

/-! ## Silence -/

section

variable {counts : Diagnostic → Bool} {registry : ComponentRegistry}

mutual

/-- None of the diagnostics of a tree counts exactly when none of those on any of its nodes does,
provided that an unregistered component counts: whatever the check does not look at stands below
one. -/
theorem any_node_iff (unregistered : ∀ path name, counts (unknownComponent path name)) :
    ∀ (path : String) (above : List Node) (tree : Node),
      (node registry path tree).any counts = false ↔
        ∀ visit ∈ tree.visits path above, (ownDiagnostics registry visit).any counts = false
  | path, above, .container envelope body children => by
    have below := any_nodesFrom_iff unregistered (Pointer.push path Node.childrenKey)
      (.container envelope body children :: above) 0 children
    rw [node, Node.visits, List.forall_mem_cons, below]
    simp only [ownDiagnostics, List.any_nil, true_and]
  | path, above, .component envelope element slots => by
    have below := any_slotNodes_iff unregistered (Pointer.push path Node.slotsKey)
      (.component envelope element slots :: above) slots
    rw [node, Node.visits, List.forall_mem_cons, ← below]
    cases found : registry.get? element.component with
    | none => simp [ownDiagnostics_unregistered found, unregistered]
    | some entry =>
      simp only [ownDiagnostics_registered found, List.any_append, Bool.or_eq_false_iff]

/-- None of the diagnostics of a list of trees counts exactly when none of those on any node
does. -/
theorem any_nodesFrom_iff (unregistered : ∀ path name, counts (unknownComponent path name)) :
    ∀ (path : String) (above : List Node) (place : Nat) (nodes : List Node),
      (nodesFrom registry path place nodes).any counts = false ↔
        ∀ visit ∈ Node.visitsFrom path above place nodes,
          (ownDiagnostics registry visit).any counts = false
  | path, above, place, [] => by simp [nodesFrom, Node.visitsFrom]
  | path, above, place, tree :: later => by
    rw [nodesFrom, Node.visitsFrom, List.any_append, Bool.or_eq_false_iff, List.forall_mem_append,
      any_node_iff unregistered _ above, any_nodesFrom_iff unregistered _ above]

/-- None of the diagnostics of some slots counts exactly when none of those on any node does. -/
theorem any_slotNodes_iff (unregistered : ∀ path name, counts (unknownComponent path name)) :
    ∀ (path : String) (above : List Node) (slots : List (String × List Node)),
      (slotNodes registry path slots).any counts = false ↔
        ∀ visit ∈ Node.visitsSlots path above slots,
          (ownDiagnostics registry visit).any counts = false
  | path, above, [] => by simp [slotNodes, Node.visitsSlots]
  | path, above, (slot, nodes) :: later => by
    rw [slotNodes, Node.visitsSlots, List.any_append, Bool.or_eq_false_iff, List.forall_mem_append,
      any_nodesFrom_iff unregistered _ above, any_slotNodes_iff unregistered _ above]

end

section

variable {entry : RegistryEntry} {path : String} {element : Component}

/-- Nothing is said of a variant exactly when it is absent or allowed. -/
theorem variantFaults_eq_nil_iff :
    variantFaults entry path element = [] ↔
      ∀ variant, element.variant = some variant → entry.allowsVariant variant := by
  unfold variantFaults
  cases element.variant with
  | none => simp
  | some variant => by_cases allowed : entry.allowsVariant variant <;> simp [allowed]

/-- Nothing is said of slots exactly when all are declared. -/
theorem slotFaults_eq_nil_iff {component : String} {slots : List String} :
    slotFaults entry path component slots = [] ↔ ∀ slot ∈ slots, entry.allowsSlot slot := by
  simp [slotFaults]

/-- Nothing is said of props exactly when all are described, if any are. -/
theorem propWarnings_eq_nil_iff :
    propWarnings entry path element = [] ↔
      ∀ prop ∈ element.props.map Prod.fst, entry.knowsProp prop ≠ some false := by
  simp [propWarnings]

/-- What is said of variants and slots is an error, and what is said of props is none. -/
theorem any_isError_entryDiagnostics_iff {slots : List String} :
    (entryDiagnostics entry path element slots).any (·.isError) = false ↔
      variantFaults entry path element = [] ∧
        slotFaults entry path element.component slots = [] := by
  have variants : (variantFaults entry path element).any (·.isError) = false ↔
      variantFaults entry path element = [] := by
    unfold variantFaults
    cases element.variant with
    | none => simp
    | some variant =>
      by_cases allowed : entry.allowsVariant variant <;>
        simp [allowed, Diagnostic.isError, Diagnostic.ofError]
  have declared : (slotFaults entry path element.component slots).any (·.isError) = false ↔
      slotFaults entry path element.component slots = [] := by
    simp [slotFaults, Diagnostic.isError, Diagnostic.ofError]
  have warnings : (propWarnings entry path element).any (·.isError) = false := by
    simp [propWarnings, Diagnostic.isError, Diagnostic.ofWarning]
  simp only [entryDiagnostics, List.any_append, Bool.or_eq_false_iff, variants, declared, warnings,
    and_true]

end

/-- A node is reported with no error exactly when it conforms to the registry. -/
theorem any_isError_ownDiagnostics_iff (visit : Visit) :
    (ownDiagnostics registry visit).any (·.isError) = false ↔ Conforms registry visit.node := by
  obtain ⟨path, above, node⟩ := visit
  cases node with
  | container envelope body children => simp [ownDiagnostics, Conforms]
  | component envelope element slots =>
    simp only [ownDiagnostics, Conforms]
    cases registry.get? element.component with
    | none => simp [unknownComponent, Diagnostic.isError, Diagnostic.ofError]
    | some entry =>
      rw [any_isError_entryDiagnostics_iff, variantFaults_eq_nil_iff, slotFaults_eq_nil_iff]
      simp only [Option.some.injEq, exists_eq_left']

/-- Nothing at all is said of a node exactly when it conforms to the registry, which describes its
props. -/
theorem ownDiagnostics_eq_nil_iff (visit : Visit) :
    ownDiagnostics registry visit = [] ↔
      Conforms registry visit.node ∧ KnowsProps registry visit.node := by
  obtain ⟨path, above, node⟩ := visit
  cases node with
  | container envelope body children => simp [ownDiagnostics, Conforms, KnowsProps]
  | component envelope element slots =>
    simp only [ownDiagnostics, Conforms, KnowsProps]
    cases registry.get? element.component with
    | none => simp
    | some entry =>
      simp only [entryDiagnostics, List.append_eq_nil_iff, variantFaults_eq_nil_iff,
        slotFaults_eq_nil_iff, propWarnings_eq_nil_iff, Option.some.injEq, exists_eq_left',
        forall_eq']

/-- A tree is reported with no error exactly when every node of it conforms to the registry. -/
theorem any_isError_node_iff (path : String) (tree : Node) :
    (node registry path tree).any (·.isError) = false ↔
      ∀ below ∈ tree.walk, Conforms registry below := by
  rw [any_node_iff (fun _ _ => rfl) path [], ← Node.forall_visits_iff path [] tree]
  simp only [any_isError_ownDiagnostics_iff]

/-- Nothing at all is said of a tree exactly when every node of it conforms to the registry, which
describes the props of all. -/
theorem node_eq_nil_iff (path : String) (tree : Node) :
    node registry path tree = [] ↔
      ∀ below ∈ tree.walk, Conforms registry below ∧ KnowsProps registry below := by
  have nothing (diagnostics : List Diagnostic) :
      diagnostics = [] ↔ diagnostics.any (fun _ => true) = false := by
    cases diagnostics <;> simp
  rw [nothing, any_node_iff (fun _ _ => rfl) path [], ← Node.forall_visits_iff path [] tree]
  simp only [← nothing, ownDiagnostics_eq_nil_iff]

end

end Formwright.RegistryCheck

namespace Formwright.Validation
open RegistryCheck

/-- Validating a tree reports, in the order of a walk, on each node without an unregistered
component above it, and its verdict is that of all nodes, with those below such components. -/
theorem validateTree_reports (tree : Node) (registry : ComponentRegistry) :
    (validateTree tree registry).diagnostics =
        ((tree.visits "" []).filter (isReached registry)).flatMap (ownDiagnostics registry) ∧
      (tree.visits "" []).map Visit.node = tree.walk ∧
      (∀ visit ∈ tree.visits "" [],
        (ownDiagnostics registry visit).map finding? = (findings registry visit).map some) ∧
      ((validateTree tree registry).valid ↔ ∀ node ∈ tree.walk, Conforms registry node) := by
  refine ⟨?_, Node.map_node_visits "" [] tree,
    fun visit _ => map_finding?_ownDiagnostics registry visit, ?_⟩
  · exact (reports_visits registry "" [] tree).symm
  · rw [← any_isError_node_iff "" tree]
    simp [validateTree, ValidationResult.ofDiagnostics]

end Formwright.Validation
