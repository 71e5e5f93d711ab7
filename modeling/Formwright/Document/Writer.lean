import Formwright.Digest.Sha256
import Formwright.Document.Basic
import Formwright.Json.Printer

/-!
# Writing form documents

A document as a JSON value. Members stand in the order of the fields of the types, and a member
that would say nothing is left out: an absent text, an empty list of rules or choices. The compact
text of this value is the canonical form of the document, and the digest of it the fingerprint.
-/
namespace Formwright

/-- A member, where there is a value for it. -/
def optionalMember {α : Type} (key : String) (value : Option α) (toJson : α → Json) : Members :=
  (value.map fun held => (key, toJson held)).toList

/-- A member that holds a list, where the list has elements. -/
def nonEmptyMember {α : Type} (key : String) (values : List α) (toJson : α → Json) : Members :=
  if values.isEmpty then [] else [(key, .array (values.map toJson))]

/-- The word of a member of a vocabulary as a value. -/
def wordJson {α : Type} [Vocabulary α] (member : α) : Json := .string (Vocabulary.word member)

/-- The member for what a demand limits the value by. -/
def Demand.members : Demand → Members
  | .required | .email => []
  | .minLength value | .maxLength value => [("value", .ofNat value.toNat)]
  | .pattern source => [("value", .string source)]

/-- A rule as a value. -/
def Rule.toJson (rule : Rule) : Json :=
  .object ([("type", .string rule.demand.name)] ++ rule.demand.members
    ++ optionalMember "message" rule.message .string)

/-- A choice as a value. -/
def Choice.toJson (choice : Choice) : Json :=
  .object [("label", .string choice.label), ("value", .string choice.value)]

/-- A field as a value. -/
def Field.toJson (field : Field) : Json :=
  .object ([("id", .string field.id), ("name", .string field.name),
      ("label", .string field.label), ("component", wordJson field.control)]
    ++ optionalMember "placeholder" field.placeholder .string
    ++ optionalMember "helperText" field.helperText .string
    ++ nonEmptyMember "validation" field.rules Rule.toJson
    ++ nonEmptyMember "options" field.choices Choice.toJson
    ++ optionalMember "defaultValue" field.defaultValue fun value => value)

/-- An action as a value. -/
def Action.toJson (action : Action) : Json :=
  .object ([("id", .string action.id), ("label", .string action.label),
      ("type", wordJson action.kind), ("variant", wordJson action.variant)]
    ++ optionalMember "href" action.href .string)

/-- A document as a value. -/
def Document.toJson (document : Document) : Json :=
  .object ([("type", wordJson document.kind), ("title", .string document.title)]
    ++ optionalMember "description" document.description .string
    ++ optionalMember "scaffold" document.scaffold wordJson
    ++ [("fields", .array (document.fields.map Field.toJson)),
      ("actions", .array (document.actions.map Action.toJson))])

/-- The canonical text of a document. -/
def Document.canonical (document : Document) : String := document.toJson.render

/-- The fingerprint of a document: the digest of its canonical text. -/
def Document.fingerprint (document : Document) : String := Sha256.hexDigest document.canonical

end Formwright
