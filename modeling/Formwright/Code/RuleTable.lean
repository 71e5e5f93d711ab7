import Formwright.Code.Naming
import Formwright.Code.Line
import Formwright.Json.Printer

/-!
# The rule table of generated code

Before the component, generated code declares the types of values and rules, a table with the rules
of every field that has any, and the function that checks a value by the table.
-/
namespace Formwright.Code

/-- What is shown when a demand is not met and the rule has no message of its own. -/
def defaultMessage (label : String) : Demand → String
  | .required => label ++ " is required."
  | .email => "Enter a valid email address."
  | .minLength value => label ++ " must be at least " ++ toString value.toNat ++ " characters."
  | .maxLength value => label ++ " must be at most " ++ toString value.toNat ++ " characters."
  | .pattern _ => label ++ " has an invalid format."

/-- What is shown when a rule of a field with the given label is broken. -/
def ruleMessage (label : String) (rule : Rule) : String :=
  rule.message.getD (defaultMessage label rule.demand)

/-- The part of a rule's literal that says what limits the value. -/
def demandValue : Demand → String
  | .required | .email => ""
  | .minLength value | .maxLength value => "value: " ++ toString value.toNat ++ ", "
  | .pattern source => "value: " ++ patternExpression source ++ ", "

/-- The object literal of a rule. -/
def ruleLiteral (label : String) (rule : Rule) : String :=
  "\x7b type: \"" ++ rule.demand.name ++ "\", " ++ demandValue rule.demand
    ++ "message: " ++ stringLiteral (ruleMessage label rule) ++ " \x7d"

/-- The types of values and rules. -/
def typeLines : List Line := [
  .plain "type FormValues = Record<string, unknown>;",
  .blank,
  .plain "type ValidationRule =",
  .plain "  | \x7b type: \"required\"; message: string \x7d",
  .plain "  | \x7b type: \"email\"; message: string \x7d",
  .plain "  | \x7b type: \"minLength\"; value: number; message: string \x7d",
  .plain "  | \x7b type: \"maxLength\"; value: number; message: string \x7d",
  .plain "  | \x7b type: \"pattern\"; value: RegExp; message: string \x7d;"]

/-- The entry of a field in the rule table. -/
def ruleEntry (field : Field) : List Line :=
  Line.block (objectKey field.name ++ ": [")
    (field.rules.map fun rule => .plain (ruleLiteral field.label rule ++ ","))
    "],"

/-- The table of the rules of the fields that have any. -/
def ruleTable (fields : List Field) : List Line :=
  let ruled := fields.filter fun field => !field.rules.isEmpty
  if ruled.isEmpty then
    [.plain "const validationRules: Record<string, ValidationRule[]> = \x7b\x7d;"]
  else
    Line.block "const validationRules: Record<string, ValidationRule[]> = \x7b"
      (ruled.flatMap ruleEntry) "\x7d;"

/-- The function that checks a value by the rule table. -/
def checkLines : List Line := [
  .plain "function validateField(name: string, value: unknown): string | undefined \x7b",
  .plain "  const text = typeof value === \"string\" ? value : \"\";",
  .plain "  for (const rule of validationRules[name] ?? []) \x7b",
  .plain "    switch (rule.type) \x7b",
  .plain "      case \"required\":",
  .plain ("        if (value === undefined || value === null || value === \"\" || value === false) "
    ++ "return rule.message;"),
  .plain "        break;",
  .plain "      case \"email\":",
  .plain ("        if (text && !/^[^\\s@]+@[^\\s@]+\\.[^\\s@]+$/.test(text)) "
    ++ "return rule.message;"),
  .plain "        break;",
  .plain "      case \"minLength\":",
  .plain "        if (text && text.length < rule.value) return rule.message;",
  .plain "        break;",
  .plain "      case \"maxLength\":",
  .plain "        if (text.length > rule.value) return rule.message;",
  .plain "        break;",
  .plain "      case \"pattern\":",
  .plain "        if (text && !rule.value.test(text)) return rule.message;",
  .plain "        break;",
  .plain "    \x7d",
  .plain "  \x7d",
  .plain "  return undefined;",
  .plain "\x7d"]

end Formwright.Code
