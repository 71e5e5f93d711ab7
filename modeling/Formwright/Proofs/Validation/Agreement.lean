import Formwright.Proofs.Validation.Soundness
import Formwright.Proofs.Validation.Written

/-!
# The ways to validate agree

The document that a tree is written as is validated like the tree itself if the tree is well formed,
and otherwise with errors of shape only, which the tree itself never gets. A document of a page is
validated like any other, and no other document is a valid page.
-/
namespace Formwright.Validation
open Json

/-- The diagnostics of the document of a well-formed tree are those of the tree. -/
theorem validateNode_toJson {tree : Node} (registry : ComponentRegistry)
    (wellFormed : tree.WellFormed) :
    validateNode tree.toJson registry = validateTree tree registry := by
  have sound := (Shape.node_toJson_iff "" tree).mpr wellFormed
  rw [validateNode, diagnostics_of_tree registry sound (Node.ofJson?_toJson tree), validateTree]

/-- The document of a tree that is not well formed has errors of shape and no other diagnostics. -/
theorem faults_of_not_wellFormed {tree : Node} (registry : ComponentRegistry)
    (malformed : ¬tree.WellFormed) :
    (validateNode tree.toJson registry).diagnostics ≠ [] ∧
      Shape.OnlyFaults (validateNode tree.toJson registry).diagnostics := by
  have faulty : Shape.node "" tree.toJson ≠ [] :=
    fun silent => malformed ((Shape.node_toJson_iff "" tree).mp silent)
  have same : (validateNode tree.toJson registry).diagnostics = Shape.node "" tree.toJson :=
    diagnostics_of_faults registry faulty
  rw [same]
  exact ⟨faulty, Shape.onlyFaults_node "" tree.toJson⟩

/-- A tree itself has no errors of shape. -/
theorem validateTree_ne_of_faults {tree : Node} {registry : ComponentRegistry}
    {result : ValidationResult} (faulty : result.diagnostics ≠ [])
    (faults : Shape.OnlyFaults result.diagnostics) : result ≠ validateTree tree registry := by
  rintro rfl
  obtain ⟨diagnostic, reported⟩ := List.exists_mem_of_ne_nil _ faulty
  have shape := (faults diagnostic reported).2
  have found : diagnostic ∈ RegistryCheck.node registry "" tree := reported
  obtain ⟨_, code | code | code⟩ | ⟨_, code⟩ := RegistryCheck.isReport_of_mem_node found <;>
    exact absurd (shape.symm.trans code) (by decide)

/-- The document is an object that names the kind of pages. -/
def IsPageDocument (document : Json) : Prop :=
  ∃ members, document = .object members ∧ members.lookup "type" = some (.string "page")

/-- A document of a page is validated like any document. -/
theorem validatePage_of_page {document : Json} (registry : ComponentRegistry)
    (page : IsPageDocument document) :
    validatePage document registry = validateNode document registry := by
  obtain ⟨members, rfl, kind⟩ := page
  simp [validatePage, validateNode, rootFaults, kind, Json.string?]

/-- Reports with an error among them are not valid. -/
theorem valid_ofDiagnostics_eq_false {diagnostics : List Diagnostic} {diagnostic : Diagnostic}
    (reported : diagnostic ∈ diagnostics) (error : diagnostic.level = .error) :
    (ValidationResult.ofDiagnostics diagnostics).valid = false := by
  simp only [ValidationResult.ofDiagnostics, Bool.not_eq_false', List.any_eq_true]
  exact ⟨diagnostic, reported, by simp [Diagnostic.isError, error]⟩

/-- A document that does not name the kind of pages is no valid page. -/
theorem valid_validatePage_of_not_page {document : Json} (registry : ComponentRegistry)
    (other : ¬IsPageDocument document) : (validatePage document registry).valid = false := by
  cases document with
  | object members =>
    by_cases named : ∃ name, members.lookup "type" = some (.string name)
    · obtain ⟨name, found⟩ := named
      have notPage : name ≠ "page" := fun same => other ⟨members, rfl, same ▸ found⟩
      have rooted : ∃ fault ∈ rootFaults members, fault.level = .error := by
        simp [rootFaults, found, Json.string?, Diagnostic.ofError]
      obtain ⟨fault, reported, error⟩ := rooted
      exact valid_ofDiagnostics_eq_false (List.mem_append_left _ reported) error
    · have faulty : Shape.node "" (.object members) ≠ [] := by
        intro silent
        simp only [Shape.node, List.append_eq_nil_iff] at silent
        obtain ⟨value, found, quiet⟩ := Shape.required_eq_nil_iff.mp silent.1.1
        obtain ⟨name, _, rfl⟩ := Shape.exists_word_of_oneOf quiet
        exact named ⟨name, found⟩
      obtain ⟨fault, reported⟩ := List.exists_mem_of_ne_nil _ faulty
      have error := (Shape.onlyFaults_node "" (.object members) fault reported).1
      rw [← diagnostics_of_faults registry faulty] at reported
      exact valid_ofDiagnostics_eq_false (List.mem_append_right _ reported) error
  | _ => rfl

/-- A written tree is validated like the tree itself exactly when it is well formed, and otherwise
has errors of shape only; and a document is validated as a page like any document if it names the
kind of pages, and otherwise in vain. -/
theorem entryPoints_agree (registry : ComponentRegistry) :
    (∀ tree : Node,
      (validateNode tree.toJson registry = validateTree tree registry ↔ tree.WellFormed) ∧
        (¬tree.WellFormed → (validateNode tree.toJson registry).diagnostics ≠ [] ∧
          ∀ diagnostic ∈ (validateNode tree.toJson registry).diagnostics,
            diagnostic.level = .error ∧ diagnostic.code = some Diagnostic.schemaError)) ∧
      ∀ document : Json,
        (IsPageDocument document →
          validatePage document registry = validateNode document registry) ∧
        (¬IsPageDocument document → (validatePage document registry).valid = false) := by
  refine ⟨fun tree => ⟨⟨fun same => ?_, validateNode_toJson registry⟩,
    faults_of_not_wellFormed registry⟩,
    fun document => ⟨validatePage_of_page registry, valid_validatePage_of_not_page registry⟩⟩
  by_contra malformed
  obtain ⟨faulty, faults⟩ := faults_of_not_wellFormed registry malformed
  exact validateTree_ne_of_faults faulty faults same

end Formwright.Validation
