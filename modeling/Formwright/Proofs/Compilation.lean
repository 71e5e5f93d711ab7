import Formwright.Compilation
import Formwright.Proofs.Lowering.Page
import Formwright.Proofs.Validation.Agreement

/-!
# Compilation

The page of a document is validated as the tree that it is, since it is well formed: writing it,
checking its shape and reading it back changes nothing, whatever the registry. So a document is
compiled to code exactly where the registry accepts its page. Under the design system a page is
valid without even a warning, and every document and every prompt is compiled to code.
-/
namespace Formwright

namespace Lowering

/-- The page of a document is well formed. -/
theorem page_wellFormed (document : Document) : (page document).WellFormed :=
  fun node member => (page_accepted document node member).sound

/-- The page of a document is written as the document of a page. -/
theorem isPageDocument_page (document : Document) :
    Validation.IsPageDocument (page document).toJson :=
  ⟨_, Node.toJson_eq _, Node.lookup_type _⟩

end Lowering

namespace Validation
open Lowering

/-- The page of a document is validated, once written, as the tree that it is. -/
theorem validatePage_page (document : Document) (registry : ComponentRegistry) :
    validatePage (page document).toJson registry = validateTree (page document) registry :=
  (validatePage_of_page registry (isPageDocument_page document)).trans
    (validateNode_toJson registry (page_wellFormed document))

/-- The design system has nothing to say of the page of a document. -/
theorem validatePage_designSystem (document : Document) :
    validatePage (page document).toJson .designSystem = ⟨true, []⟩ := by
  have silent : RegistryCheck.node .designSystem "" (page document) = [] :=
    (RegistryCheck.node_eq_nil_iff "" _).mpr fun node member =>
      ⟨(page_accepted document node member).conforms, (page_accepted document node member).known⟩
  rw [validatePage_page, validateTree, silent]
  rfl

end Validation

/-- Under the design system a document is valid without any diagnostic and is compiled to its code,
provided that a parser asked about the code finds no errors in it; and so is every prompt that is
read as the document. -/
theorem compileWith_designSystem (parser : SyntaxParser) (document : Document)
    (options : CompileOptions)
    (parses : options.verifySyntax = true →
      parser (Code.generate document options.generator) = []) :
    ((compileWith parser document .designSystem options).validation = ⟨true, []⟩ ∧
      (compileWith parser document .designSystem options).code =
        some (Code.generate document options.generator)) ∧
    ∀ prompt, (Prompt.read prompt).document = document →
      (compilePromptWith parser prompt .designSystem options).validation = ⟨true, []⟩ ∧
        (compilePromptWith parser prompt .designSystem options).code =
          some (Code.generate document options.generator) := by
  have faultless : (if options.verifySyntax then
      syntaxFaults parser (Code.generate document options.generator) else []) = [] := by
    split
    · rw [syntaxFaults, parses ‹_›, List.map_nil]
    · rfl
  have compiled : compileWith parser document .designSystem options =
      { page := Lowering.page document, validation := ⟨true, []⟩,
        code := some (Code.generate document options.generator) } := by
    simp only [compileWith, Validation.validatePage_designSystem, ↓reduceIte, faultless]
  refine ⟨by simp only [compiled, and_self], ?_⟩
  rintro prompt rfl
  simp only [compilePromptWith, compiled, and_self]

/-- A form to sign in by is compiled with a parser that finds no errors. -/
theorem compileWith_designSystem_signIn :
    let document : Document :=
      { kind := .form, title := "Sign in", scaffold := some .formAuth
        fields := [.plain "email" "Email" .input]
        actions := [⟨"action-submit", "Sign in", .submit, .primary, none⟩] }
    (compileWith (fun _ => []) document .designSystem {}).validation = ⟨true, []⟩ ∧
      (compileWith (fun _ => []) document .designSystem {}).code =
        some (Code.generate document {}) :=
  (compileWith_designSystem (fun _ => []) _ {} fun _ => rfl).1

/-! ## Any registry -/

/-- What a document is compiled to where its page is validated as the tree that it is, without being
written and read, and nobody looks at the code. -/
def compileTree (document : Document) (registry : ComponentRegistry) (options : CompileOptions) :
    Compilation :=
  let page := Lowering.page document
  let validation := Validation.validateTree page registry
  { page, validation
    code := if validation.valid then some (Code.generate document options.generator) else none }

/-- A parser that finds no errors in the code of a document has nothing to report of it. -/
theorem faults_eq_nil {parser : SyntaxParser} {options : CompileOptions} {code : String}
    (parses : options.verifySyntax = true → parser code = []) :
    (if options.verifySyntax then syntaxFaults parser code else []) = [] := by
  split
  · next verifies => rw [syntaxFaults, parses verifies, List.map_nil]
  · rfl

/-- A document is compiled like the tree that its page is, unless the parser finds errors in its
code. -/
theorem compileWith_eq {parser : SyntaxParser} {document : Document} {options : CompileOptions}
    (parses : options.verifySyntax = true →
      parser (Code.generate document options.generator) = [])
    (registry : ComponentRegistry) :
    compileWith parser document registry options = compileTree document registry options := by
  rw [compileWith, compileTree]
  simp only [Validation.validatePage_page]
  by_cases accepted : (Validation.validateTree (Lowering.page document) registry).valid = true
  · simp only [accepted, ↓reduceIte, faults_eq_nil parses]
  · simp only [accepted, Bool.false_eq_true, ↓reduceIte]

/-- Whatever the registry, the page of a document passes the check of its shape and is read back as
it was written, so the document is compiled like the tree that its page is, provided that a parser
asked about the code finds no errors in it; and a prompt that is read as the document is compiled to
just that, beside what was read. -/
theorem compileWith_eq_compileTree (parser : SyntaxParser) (document : Document)
    (registry : ComponentRegistry) (options : CompileOptions)
    (parses : options.verifySyntax = true →
      parser (Code.generate document options.generator) = []) :
    Shape.node "" (Lowering.page document).toJson = [] ∧
      Node.ofJson? (Lowering.page document).toJson = some (Lowering.page document) ∧
      compileWith parser document registry options = compileTree document registry options ∧
      ∀ prompt, (Prompt.read prompt).document = document →
        (compilePromptWith parser prompt registry options).toReading = Prompt.read prompt ∧
          (compilePromptWith parser prompt registry options).toCompilation =
            compileTree document registry options := by
  refine ⟨(Shape.node_toJson_iff "" _).mpr (Lowering.page_wellFormed document),
    Node.ofJson?_toJson _, compileWith_eq parses registry, ?_⟩
  rintro prompt rfl
  simp only [compilePromptWith, compileWith_eq parses registry, and_self]

/-- Without any components in the registry a form to sign in by is compiled to no code, for want of
its card. -/
theorem compileWith_eq_compileTree_empty :
    let document : Document :=
      { kind := .form, title := "Sign in", scaffold := some .formAuth
        fields := [.plain "email" "Email" .input]
        actions := [⟨"action-submit", "Sign in", .submit, .primary, none⟩] }
    (compileWith (fun _ => []) document .empty {}).code = none ∧
      (compileWith (fun _ => []) document .empty {}).validation.diagnostics =
        [.ofError Diagnostic.invalidComponent "Unknown component \"Card\"."
          "/children/0/children/0/component"] := by
  intro document
  obtain ⟨_, _, compiled, _⟩ :=
    compileWith_eq_compileTree (fun _ => []) document .empty {} fun _ => rfl
  rw [compiled]
  exact ⟨by decide +kernel, by decide +kernel⟩

end Formwright
