import Formwright.Document.Basic
import Formwright.Json.Record

/-!
# Reading form documents

Documents are read from JSON values as `Formwright.Json.Record` describes. An explicit null is read
as an absent value wherever a value may be absent.
-/
namespace Formwright
open Json

/-- The variants of a rule. -/
def Rule.tagForm : TagForm where
  title := "internally tagged enum ValidationRule"
  tag := "type"
  names := ["required", "email", "minLength", "maxLength", "pattern"]

/-- The fields of a variant of a rule. -/
def Rule.form (variant : String) (names : List String) : RecordForm where
  title := "struct variant ValidationRule::" ++ variant
  names := names
  tagged := true

/-- Reads a rule of which the variant is known. -/
def Rule.readVariant : String → Reader Rule
  | "required" => Reader.record (form "Required" ["message"])
      (Rule.mk .required <$> Fields.optional "message" Reader.text)
  | "email" => Reader.record (form "Email" ["message"])
      (Rule.mk .email <$> Fields.optional "message" Reader.text)
  | "minLength" => Reader.record (form "MinLength" ["value", "message"])
      ((fun value => Rule.mk (.minLength value)) <$> Fields.required "value" Reader.uint32
        <*> Fields.optional "message" Reader.text)
  | "maxLength" => Reader.record (form "MaxLength" ["value", "message"])
      ((fun value => Rule.mk (.maxLength value)) <$> Fields.required "value" Reader.uint32
        <*> Fields.optional "message" Reader.text)
  | _ => Reader.record (form "Pattern" ["value", "message"])
      ((fun source => Rule.mk (.pattern source)) <$> Fields.required "value" Reader.text
        <*> Fields.optional "message" Reader.text)

/-- Reads a rule. -/
def Rule.reader : Reader Rule := fun value => do
  let (variant, content) ← tagForm.split value
  readVariant variant content

/-- Reads a choice. -/
def Choice.reader : Reader Choice :=
  Reader.record ⟨"struct SelectOption", ["label", "value"], false⟩
    (Choice.mk <$> Fields.required "label" Reader.text <*> Fields.required "value" Reader.text)

/-- Reads a field. -/
def Field.reader : Reader Field :=
  Reader.record
    ⟨"struct Field", ["id", "name", "label", "component", "placeholder", "helperText",
      "validation", "options", "defaultValue"], false⟩
    (Field.mk <$> Fields.required "id" Reader.text <*> Fields.required "name" Reader.text
      <*> Fields.required "label" Reader.text
      <*> Fields.required "component" (Reader.word Control)
      <*> Fields.optional "placeholder" Reader.text
      <*> Fields.optional "helperText" Reader.text
      <*> Fields.withDefault "validation" [] (Reader.list Rule.reader)
      <*> Fields.withDefault "options" [] (Reader.list Choice.reader)
      <*> Fields.optional "defaultValue" Reader.any)

/-- Reads an action. -/
def Action.reader : Reader Action :=
  Reader.record ⟨"struct Action", ["id", "label", "type", "variant", "href"], false⟩
    (Action.mk <$> Fields.required "id" Reader.text <*> Fields.required "label" Reader.text
      <*> Fields.required "type" (Reader.word ActionKind)
      <*> Fields.required "variant" (Reader.word ActionVariant)
      <*> Fields.optional "href" Reader.text)

/-- Reads a document. -/
def Document.reader : Reader Document :=
  Reader.record
    ⟨"struct UiDsl", ["type", "title", "description", "scaffold", "fields", "actions"], false⟩
    (Document.mk <$> Fields.required "type" (Reader.word DocumentKind)
      <*> Fields.required "title" Reader.text
      <*> Fields.optional "description" Reader.text
      <*> Fields.optional "scaffold" (Reader.word Scaffold)
      <*> Fields.withDefault "fields" [] (Reader.list Field.reader)
      <*> Fields.withDefault "actions" [] (Reader.list Action.reader))

end Formwright
