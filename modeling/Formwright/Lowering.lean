import Formwright.Code.Naming
import Formwright.Document.Writer
import Formwright.Node.Basic

/-!
# The page of a document

A document becomes a page with one section, whose body follows the scaffold of the document: a card
for credentials, else a description, the fields in a layout and a row of actions. Ids are derived
from the fingerprint of the document and a key for each node, so the same document always becomes
the same page.
-/
namespace Formwright.Lowering

/-- The ids of the nodes of one page. -/
structure IdSource where
  /-- What all ids of the page are derived from. -/
  seed : String

/-- The id of the node with a key. -/
def IdSource.id (ids : IdSource) (key : String) : NodeId :=
  NodeId.derived (ids.seed ++ "/" ++ key)

/-- An envelope with an id and a name. -/
def named (id : NodeId) (name : String) : Envelope := { id, name := some name }

/-- Props in increasing order of their names; of several with one name the last counts. -/
def props (entries : List (String × Option Json)) : Members :=
  sortNamed (entries.filterMap fun (name, value) => value.map (name, ·))

/-- The value of the last rule that limits the length of a text in the given way. -/
def lastLimit (limit : Demand → Option UInt32) (rules : List Rule) : Option Json :=
  ((rules.filterMap fun rule => limit rule.demand).getLast?).map fun value => .ofNat value.toNat

/-- The least length that a demand asks for. -/
def minimum? : Demand → Option UInt32
  | .minLength value => some value
  | _ => none

/-- The greatest length that a demand allows. -/
def maximum? : Demand → Option UInt32
  | .maxLength value => some value
  | _ => none

/-- The pattern of a demand. -/
def pattern? : Demand → Option String
  | .pattern source => some source
  | _ => none

/-- The limits of the length of a text, as props. -/
def lengthProps (rules : List Rule) : List (String × Option Json) :=
  [("minLength", lastLimit minimum? rules), ("maxLength", lastLimit maximum? rules)]

/-- The props that a control has besides those that all controls have. -/
def controlProps (field : Field) : List (String × Option Json) :=
  match field.control with
  | .input =>
    [("type", some (.string (Code.inputType field.name)))] ++ lengthProps field.rules
      ++ [("pattern", (field.rules.findSome? fun rule => pattern? rule.demand).map .string)]
  | .textarea => lengthProps field.rules
  | .select => [("options", some (.array (field.choices.map Choice.toJson)))]
  | .checkbox | .datePicker | .fileUpload => []

/-- The component of a field. -/
def fieldNode (ids : IdSource) (field : Field) : Node :=
  .component
    { id := ids.id field.id, name := some field.name, dataUiId := some field.id }
    { component := Vocabulary.word field.control
      props := props ([("name", some (.string field.name)), ("label", some (.string field.label)),
        ("placeholder", field.placeholder.map .string),
        ("helperText", field.helperText.map .string),
        ("required", if field.isRequired then some (.bool true) else none),
        ("defaultValue", field.defaultValue)] ++ controlProps field) }
    []

/-- The variant of the button of an action. -/
def actionVariant (action : Action) : String :=
  match action.kind with
  | .link => "link"
  | .submit | .button => action.variant.buttonVariant

/-- The props that the button of an action has besides its label. -/
def actionProps (action : Action) : List (String × Option Json) :=
  match action.kind with
  | .submit => [("type", some (.string "submit"))]
  | .button => [("type", some (.string "button"))]
  | .link => [("href", some (.string (action.href.getD "#")))]

/-- The button of an action. -/
def actionNode (ids : IdSource) (action : Action) : Node :=
  .component
    { id := ids.id action.id, dataUiId := some action.id }
    { component := "Button"
      variant := some (actionVariant action)
      props := props ([("label", some (.string action.label))] ++ actionProps action) }
    []

/-- The layout that the fields stand in. -/
def fieldBody (ids : IdSource) (scaffold : Option Scaffold) (fields : List Node) : Node :=
  let envelope := named (ids.id "fields") "fields"
  match scaffold with
  | some .twoColumn =>
    let half := (fields.length + 1) / 2
    .container envelope (.twoColumn (some "1:1")) [
      .container { id := ids.id "fields/left" } .block (fields.take half),
      .container { id := ids.id "fields/right" } .block (fields.drop half)]
  | some .dashboard => .container envelope (.grid 3) fields
  | _ => .container envelope (.stack .vertical) fields

/-- The card of a document that asks for credentials. -/
def card (ids : IdSource) (document : Document) (fields actions : List Node) : Node :=
  .component { id := ids.id "card" }
    { component := "Card"
      props := props [("title", some (.string document.title)),
        ("description", document.description.map .string)] }
    ([("content", fields)] ++ if actions.isEmpty then [] else [("footer", actions)])

/-- The text that describes a document. -/
def descriptionNode (ids : IdSource) (text : String) : Node :=
  .component { id := ids.id "description" }
    { component := "Text", variant := some "muted", props := [("text", .string text)] } []

/-- What stands in the section of a document. -/
def sectionBody (ids : IdSource) (document : Document) : List Node :=
  let fields := document.fields.map (fieldNode ids)
  let actions := document.actions.map (actionNode ids)
  match document.scaffold with
  | some .formAuth => [card ids document fields actions]
  | scaffold =>
    (document.description.map (descriptionNode ids)).toList
      ++ [fieldBody ids scaffold fields]
      ++ if actions.isEmpty then []
        else [.container (named (ids.id "actions") "actions") (.stack .horizontal) actions]

/-- The page of a document. -/
def page (document : Document) : Node :=
  let ids : IdSource := ⟨document.fingerprint⟩
  .container (named (ids.id "page") (Vocabulary.word document.kind))
    (.page (some document.title) [])
    [.container (named (ids.id "section") "main") (.section (some document.title) none)
      (sectionBody ids document)]

end Formwright.Lowering
