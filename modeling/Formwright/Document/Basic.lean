import Formwright.Json.Basic
import Formwright.Vocabulary

/-!
# Form documents

The document that a request is read into and that code is generated from: a form, screen or app
with a flat list of fields and a list of actions.
-/
namespace Formwright

/-- What a document describes. -/
inductive DocumentKind where
  | form
  | screen
  | app
deriving DecidableEq, Repr

instance : Vocabulary DocumentKind where
  members := [.form, .screen, .app]
  word
    | .form => "form"
    | .screen => "screen"
    | .app => "app"

/-- The overall arrangement of a document. -/
inductive Scaffold where
  | formAuth
  | settingsPage
  | dashboard
  | twoColumn
deriving DecidableEq, Repr

instance : Vocabulary Scaffold where
  members := [.formAuth, .settingsPage, .dashboard, .twoColumn]
  word
    | .formAuth => "form-auth"
    | .settingsPage => "settings-page"
    | .dashboard => "dashboard"
    | .twoColumn => "two-column"

/-- The control of a field; its word is the name of the control's component. -/
inductive Control where
  | input
  | textarea
  | select
  | checkbox
  | datePicker
  | fileUpload
deriving DecidableEq, Repr

instance : Vocabulary Control where
  members := [.input, .textarea, .select, .checkbox, .datePicker, .fileUpload]
  word
    | .input => "Input"
    | .textarea => "Textarea"
    | .select => "Select"
    | .checkbox => "Checkbox"
    | .datePicker => "DatePicker"
    | .fileUpload => "FileUpload"

/-- Whether the value of a control is a text, so that its length can be limited. -/
def Control.isTextual : Control → Bool
  | .input | .textarea => true
  | _ => false

/-- What a rule demands of the value of a field. -/
inductive Demand where
  | required
  | email
  | minLength (value : UInt32)
  | maxLength (value : UInt32)
  /-- The value matches a pattern, given by its source text. -/
  | pattern (source : String)
deriving DecidableEq, Repr

/-- The name of a demand. -/
def Demand.name : Demand → String
  | .required => "required"
  | .email => "email"
  | .minLength _ => "minLength"
  | .maxLength _ => "maxLength"
  | .pattern _ => "pattern"

/-- A rule on the value of a field. -/
structure Rule where
  /-- What the rule demands. -/
  demand : Demand
  /-- What is shown when the demand is not met. -/
  message : Option String := none
deriving DecidableEq, Repr

/-- One of the values that a field offers. -/
structure Choice where
  label : String
  value : String
deriving DecidableEq, Repr

/-- A field of a form. -/
structure Field where
  id : String
  /-- The key of the field in the state of the form. -/
  name : String
  label : String
  control : Control
  placeholder : Option String := none
  helperText : Option String := none
  rules : List Rule := []
  choices : List Choice := []
  defaultValue : Option Json := none
deriving Repr

namespace Field

/-- Whether one of the rules makes the field required. -/
def isRequired (field : Field) : Bool := field.rules.any (·.demand == .required)

/-- Whether one of the rules has a demand of the given name. -/
def hasRule (field : Field) (name : String) : Bool :=
  field.rules.any (·.demand.name == name)

/-- A field with a name, a label and a control and nothing else; the name makes the id. -/
def plain (name label : String) (control : Control) : Field :=
  { id := "field-" ++ name, name, label, control }

end Field

/-- What an action does. -/
inductive ActionKind where
  | submit
  | button
  | link
deriving DecidableEq, Repr

instance : Vocabulary ActionKind where
  members := [.submit, .button, .link]
  word
    | .submit => "submit"
    | .button => "button"
    | .link => "link"

/-- How an action looks. -/
inductive ActionVariant where
  | primary
  | secondary
  | outline
  | ghost
  | destructive
  | link
deriving DecidableEq, Repr

instance : Vocabulary ActionVariant where
  members := [.primary, .secondary, .outline, .ghost, .destructive, .link]
  word
    | .primary => "primary"
    | .secondary => "secondary"
    | .outline => "outline"
    | .ghost => "ghost"
    | .destructive => "destructive"
    | .link => "link"

/-- The variant of the button component that shows an action. -/
def ActionVariant.buttonVariant : ActionVariant → String
  | .primary => "default"
  | .secondary => "secondary"
  | .outline => "outline"
  | .ghost => "ghost"
  | .destructive => "destructive"
  | .link => "link"

/-- An action of a form. -/
structure Action where
  id : String
  label : String
  kind : ActionKind
  variant : ActionVariant
  href : Option String := none
deriving DecidableEq, Repr

/-- A form document. -/
structure Document where
  kind : DocumentKind
  title : String
  description : Option String := none
  scaffold : Option Scaffold := none
  fields : List Field := []
  actions : List Action := []
deriving Repr

/-- The first field of a name. -/
def Document.field? (document : Document) (name : String) : Option Field :=
  document.fields.find? (·.name == name)

end Formwright
