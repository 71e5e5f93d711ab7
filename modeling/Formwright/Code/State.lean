import Formwright.Code.Naming
import Formwright.Code.Line
import Formwright.Json.Printer

/-!
# State and handlers of the generated component

The component keeps the value and the error of every field, and has handlers for a change of a
value and for the submission of the form.
-/
namespace Formwright.Code

/-- The expression for the value that a field starts with. -/
def initialValue (field : Field) : String :=
  match field.defaultValue, field.control with
  | some value, _ => value.render
  | none, .checkbox => "false"
  | none, .datePicker => "undefined"
  | none, _ => "\"\""

/-- The entry of a field in the initial state. -/
def stateEntry (field : Field) : Line :=
  .plain (objectKey field.name ++ ": " ++ initialValue field ++ ",")

/-- The state of the component. -/
def stateLines (fields : List Field) : List Line :=
  let opening := "const [values, setValues] = useState<FormValues>(\x7b"
  let closing := "\x7d);"
  (if fields.isEmpty then [.plain (opening ++ closing)]
  else Line.block opening (fields.map stateEntry) closing)
  ++ [.plain ("const [errors, setErrors] = "
    ++ "useState<Record<string, string | undefined>>(\x7b\x7d);")]

/-- The handlers of the component. -/
def handlerLines : List Line :=
  Line.block "const handleChange = (name: string, value: unknown) => \x7b" [
    .plain "setValues((prev) => (\x7b ...prev, [name]: value \x7d));",
    .plain "setErrors((prev) => (\x7b ...prev, [name]: validateField(name, value) \x7d));"] "\x7d;"
  ++ [.blank]
  ++ Line.block "const handleSubmit = (event: FormEvent<HTMLFormElement>) => \x7b" ([
    .plain "event.preventDefault();",
    .plain "const nextErrors: Record<string, string | undefined> = \x7b\x7d;"]
    ++ Line.block "for (const name of Object.keys(validationRules)) \x7b" [
      .plain "nextErrors[name] = validateField(name, values[name]);"] "\x7d"
    ++ [.plain "setErrors(nextErrors);",
    .plain "if (Object.values(nextErrors).some(Boolean)) return;",
    .plain "onSubmit?.(values);"]) "\x7d;"

end Formwright.Code
