import Formwright.Code.Generator
import Formwright.Lowering
import Formwright.Node.Writer
import Formwright.Prompt.Reading
import Formwright.Validation.Document

/-!
# From a prompt to code

A prompt is read into a document, the document becomes a page, the page is validated as the JSON
value that it is written as, and only for a valid page code is generated. A parser of the generated
language may look at the code before it is handed out; which errors it finds is its own matter.
-/
namespace Formwright
open Json

/-- How documents are compiled. -/
structure CompileOptions where
  generator : Code.Options := {}
  /-- Whether the generated code is parsed before it is handed out. -/
  verifySyntax : Bool := true
deriving DecidableEq, Repr

/-- Reads options of compilation. -/
def CompileOptions.reader : Reader CompileOptions :=
  Reader.record ⟨"struct CompileOptions", ["generator", "verifySyntax"], false⟩
    (CompileOptions.mk <$> Fields.withDefault "generator" {} Code.Options.reader
      <*> Fields.withDefault "verifySyntax" true Reader.bool)

/-- What a document is compiled to. -/
structure Compilation where
  page : Node
  validation : ValidationResult
  /-- The code, for a valid page. -/
  code : Option String

/-- A parser of generated code, which tells the messages of the syntax errors that it finds. -/
abbrev SyntaxParser := String → List String

/-- The diagnostics of the syntax errors in some code. -/
def syntaxFaults (parser : SyntaxParser) (code : String) : List Diagnostic :=
  (parser code).map fun message => .ofError Diagnostic.codegenSyntaxError message ""

/-- Compiles a document. Code in which the parser finds errors is held back, and the errors are
added to the validation. -/
def compileWith (parser : SyntaxParser) (document : Document) (registry : ComponentRegistry)
    (options : CompileOptions) : Compilation :=
  let page := Lowering.page document
  let validation := Validation.validatePage page.toJson registry
  if validation.valid then
    let code := Code.generate document options.generator
    match if options.verifySyntax then syntaxFaults parser code else [] with
    | [] => { page, validation, code := some code }
    | faults => { page, validation := validation.merge (.ofDiagnostics faults), code := none }
  else { page, validation, code := none }

/-- Compiles a document with a parser that finds no errors, as there are none in code that this
library generates. -/
def compile : Document → ComponentRegistry → CompileOptions → Compilation := compileWith fun _ => []

/-- What a prompt is compiled to: how it was read and what the document was compiled to. -/
structure PromptCompilation extends Reading, Compilation

/-- Compiles a prompt. -/
def compilePromptWith (parser : SyntaxParser) (prompt : String) (registry : ComponentRegistry)
    (options : CompileOptions) : PromptCompilation :=
  let reading := Prompt.read prompt
  { reading, compileWith parser reading.document registry options with }

/-- Compiles a prompt with a parser that finds no errors. -/
def compilePrompt : String → ComponentRegistry → CompileOptions → PromptCompilation :=
  compilePromptWith fun _ => []

/-- What a prompt is compiled to as a value. -/
def PromptCompilation.toJson (compiled : PromptCompilation) : Json :=
  .object ([("dsl", compiled.document.toJson), ("page", compiled.page.toJson),
      ("validation", compiled.validation.toJson)]
    ++ optionalMember "code" compiled.code .string
    ++ [("report", compiled.report.toJson)])

end Formwright
