import Formwright.Code.Naming
import Formwright.Code.Line

/-!
# Imports of generated code

Generated code imports the components of the design system that its markup uses. A component that
is a part of another one lies in the module of the whole.
-/
namespace Formwright.Code

/-- The import of some components from one module. -/
structure Import where
  module : String
  /-- The components, in increasing order and each once. -/
  names : List String
deriving DecidableEq, Repr

/-- The components that the markup of a control uses. -/
def controlComponents : Control → List String
  | .input => ["Input"]
  | .textarea => ["Textarea"]
  | .select => ["Select", "SelectContent", "SelectItem", "SelectTrigger", "SelectValue"]
  | .checkbox => ["Checkbox"]
  | .datePicker => ["DatePicker"]
  | .fileUpload => ["FileUpload"]

/-- The components that the markup of a scaffold uses. -/
def scaffoldComponents (document : Document) : List String :=
  match document.scaffold with
  | some .formAuth =>
    ["Card", "CardContent", "CardFooter", "CardHeader", "CardTitle"]
      ++ (if document.description.isSome then ["CardDescription"] else [])
  | some .settingsPage => ["Separator"]
  | _ => []

/-- The components that the markup of a document uses; one may be named more than once. -/
def usedComponents (document : Document) : List String :=
  document.fields.flatMap (fun field => "Label" :: controlComponents field.control)
    ++ (if document.actions.isEmpty then [] else ["Button"])
    ++ scaffoldComponents document

/-- The components that others are parts of. -/
def compoundRoots : List String := ["Select", "Card"]

/-- The name of the module that a component lies in. -/
def moduleName (component : String) : String :=
  match compoundRoots.find? fun root => root.toList.isPrefixOf component.toList with
  | some root => kebabCase root
  | none => kebabCase component

/-- A path without the slashes at its end. -/
def withoutTrailingSlashes (path : String) : String :=
  String.ofList (path.toList.reverse.dropWhile (· == '/')).reverse

/-- The path of the module that a component lies in. -/
def modulePath (options : Options) (component : String) : String :=
  withoutTrailingSlashes options.importBase ++ "/" ++ moduleName component

/-- Texts in increasing order, each once. -/
def sortTexts (texts : List String) : List String :=
  (sortNamed (texts.map (·, ()))).map Prod.fst

/-- The imports of the components of a document: the modules in increasing order, the components
of each in increasing order. -/
def imports (document : Document) (options : Options) : List Import :=
  let components := sortTexts (usedComponents document)
  let modules := sortTexts (components.map (modulePath options))
  modules.map fun module =>
    ⟨module, components.filter fun component => modulePath options component == module⟩

/-- The line of an import. -/
def Import.line (used : Import) : Line :=
  .plain ("import \x7b " ++ ", ".intercalate used.names ++ " \x7d from "
    ++ stringLiteral used.module ++ ";")

end Formwright.Code
