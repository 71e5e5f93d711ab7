import Formwright.Code.Import
import Formwright.Code.Markup
import Formwright.Code.RuleTable
import Formwright.Code.State

/-!
# Generated code

The source text of one component for a document. The same document and options always give the same
text, and no document is refused.
-/
namespace Formwright.Code

/-- The first line of the component. -/
def componentHead (name : String) : String :=
  "export default function " ++ name
    ++ "(\x7b onSubmit \x7d: \x7b onSubmit?: (values: FormValues) => void \x7d) \x7b"

/-- The component of a document. -/
def componentLines (document : Document) (options : Options) : List Line :=
  Line.block (componentHead (componentName document options))
    (stateLines document.fields ++ [.blank] ++ handlerLines ++ [.blank]
      ++ Line.block "return (" (markupLines document) ");")
    "\x7d"

/-- The lines of the code for a document. -/
def sourceLines (document : Document) (options : Options) : List Line :=
  (if options.clientDirective then [.plain "\"use client\";", .blank] else [])
    ++ [.plain "import \x7b useState, type FormEvent \x7d from \"react\";"]
    ++ (imports document options).map Import.line
    ++ [.blank] ++ typeLines
    ++ [.blank] ++ ruleTable document.fields
    ++ [.blank] ++ checkLines
    ++ [.blank] ++ componentLines document options

/-- The code for a document. -/
def generate (document : Document) (options : Options) : String :=
  Line.render (sourceLines document options)

end Formwright.Code
