import Formwright.Registry.Basic

/-!
# The design system

The components that requests are turned into, with everything that pages and generated code use of
them.
-/
namespace Formwright

/-- The props that every control of a field has. -/
def controlProps : List (String × String) := [
  ("name", "string"), ("label", "string"), ("placeholder", "string"), ("helperText", "string"),
  ("required", "boolean"), ("disabled", "boolean"), ("defaultValue", "unknown")]

/-- The entry of a control with some props of its own. -/
def controlEntry (source : String) (own : List (String × String)) : RegistryEntry :=
  RegistryEntry.withProps { source } (controlProps ++ own)

/-- The registry of the design system. -/
def ComponentRegistry.designSystem : ComponentRegistry where
  components := sortNamed [
    ("Button", RegistryEntry.withVariants { source := "@/components/ui/button" }
        ["default", "secondary", "outline", "ghost", "destructive", "link"]
      |>.withProps [("label", "string"), ("type", "\"submit\" | \"button\" | \"reset\""),
        ("href", "string"), ("disabled", "boolean"),
        ("size", "\"default\" | \"sm\" | \"lg\" | \"icon\"")]
      |>.withRole "button"),
    ("Input", controlEntry "@/components/ui/input" [("type", "string"), ("minLength", "number"),
      ("maxLength", "number"), ("pattern", "string")]),
    ("Textarea", controlEntry "@/components/ui/textarea" [("rows", "number"),
      ("minLength", "number"), ("maxLength", "number")]),
    ("Select", (controlEntry "@/components/ui/select"
      [("options", "\x7b label: string; value: string \x7d[]")]).withRole "combobox"),
    ("Checkbox", (controlEntry "@/components/ui/checkbox" []).withRole "checkbox"),
    ("DatePicker", controlEntry "@/components/ui/date-picker" []),
    ("FileUpload", controlEntry "@/components/ui/file-upload" [("accept", "string"),
      ("multiple", "boolean")]),
    ("Label", RegistryEntry.withProps { source := "@/components/ui/label" }
      [("text", "string"), ("htmlFor", "string")]),
    ("Heading", RegistryEntry.withVariants { source := "@/components/ui/heading" }
        ["h1", "h2", "h3"]
      |>.withProps [("text", "string")] |>.withRole "heading"),
    ("Text", RegistryEntry.withVariants { source := "@/components/ui/text" } ["default", "muted"]
      |>.withProps [("text", "string")]),
    ("Card", RegistryEntry.withVariants { source := "@/components/ui/card" } ["default", "outline"]
      |>.withProps [("title", "string"), ("description", "string")]
      |>.withSlots ["header", "content", "footer"]),
    ("Separator", RegistryEntry.withProps { source := "@/components/ui/separator" } [])]

end Formwright
