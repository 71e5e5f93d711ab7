import Formwright.Json.Record

/-!
# Options of code generation

Options are read and written as JSON values; a field that is left out takes its default.
-/
namespace Formwright.Code
open Json

/-- How code is generated. -/
structure Options where
  /-- The name of the component, which the title gives where it is absent. -/
  componentName : Option String := none
  /-- Where the modules of the design system lie. -/
  importBase : String := "@/components/ui"
  /-- Whether the code starts with the directive for clients. -/
  clientDirective : Bool := true
deriving DecidableEq, Repr

namespace Options

/-- Options as a value; an absent name is null. -/
def toJson (options : Options) : Json :=
  .object [("componentName", .ofText? options.componentName),
    ("uiImportBase", .string options.importBase),
    ("useClientDirective", .bool options.clientDirective)]

/-- Reads options. -/
def reader : Reader Options :=
  Reader.record
    ⟨"struct GeneratorOptions", ["componentName", "uiImportBase", "useClientDirective"], false⟩
    (Options.mk <$> Fields.optional "componentName" Reader.text
      <*> Fields.withDefault "uiImportBase" ({} : Options).importBase Reader.text
      <*> Fields.withDefault "useClientDirective" ({} : Options).clientDirective Reader.bool)

end Options
end Formwright.Code
