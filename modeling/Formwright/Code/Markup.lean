import Formwright.Code.Naming
import Formwright.Code.Line

/-!
# Markup of the generated component

Every field is a block with its label, its control, its helper text and its error; every action is
a button. The scaffold of the document decides what stands around them.
-/
namespace Formwright.Code

/-- An attribute with a literal value. -/
def literalAttribute (name value : String) : String :=
  name ++ "=\"" ++ attributeText value ++ "\""

/-- The expression for the value of a field. -/
def valueMember (field : Field) : String := member "values" field.name

/-- The expression for a handler that takes the changed value of a field from its argument. -/
def changeHandler (field : Field) (argument value : String) : String :=
  "\x7b(" ++ argument ++ ") => handleChange(" ++ stringLiteral field.name ++ ", " ++ value
    ++ ")\x7d"

/-- The placeholder attribute of a field that has a placeholder. -/
def placeholderAttribute (field : Field) : Option String :=
  field.placeholder.map (literalAttribute "placeholder")

/-- The placeholder attribute with a space before it, or nothing. -/
def inlinePlaceholder (field : Field) : String :=
  match placeholderAttribute field with
  | some text => " " ++ text
  | none => ""

/-- The label of a field. -/
def labelLine (field : Field) : Line :=
  .plain ("<Label " ++ literalAttribute "htmlFor" field.id ++ ">" ++ textChild field.label
    ++ "</Label>")

/-- A control for text, with the attributes that it has before its placeholder. -/
def textControl (component : String) (attributes : List String) (field : Field) : List Line :=
  Line.block ("<" ++ component)
    ((attributes ++ (placeholderAttribute field).toList ++ [
      "value=\x7bString(" ++ valueMember field ++ " ?? \"\")\x7d",
      "onChange=" ++ changeHandler field "e" "e.target.value"]).map .plain)
    "/>"

/-- The choices of a select control. -/
def choiceLine (choice : Choice) : Line :=
  .plain ("<SelectItem " ++ literalAttribute "value" choice.value ++ ">"
    ++ textChild choice.label ++ "</SelectItem>")

/-- The label and the control of a field. -/
def controlLines (field : Field) : List Line :=
  match field.control with
  | .checkbox =>
    Line.block "<div className=\"flex items-center space-x-2\">" [
      .plain ("<Checkbox " ++ literalAttribute "id" field.id ++ " checked=\x7bBoolean("
        ++ valueMember field ++ ")\x7d onCheckedChange="
        ++ changeHandler field "checked" "checked === true" ++ " />"),
      labelLine field] "</div>"
  | .input =>
    labelLine field :: textControl "Input" [literalAttribute "id" field.id,
      literalAttribute "name" field.name, literalAttribute "type" (inputType field.name)] field
  | .textarea =>
    labelLine field :: textControl "Textarea" [literalAttribute "id" field.id,
      literalAttribute "name" field.name] field
  | .select =>
    labelLine field :: Line.block
      ("<Select value=\x7bString(" ++ valueMember field ++ " ?? \"\")\x7d onValueChange="
        ++ changeHandler field "value" "value" ++ ">")
      (Line.block ("<SelectTrigger " ++ literalAttribute "id" field.id ++ ">")
          [.plain ("<SelectValue" ++ inlinePlaceholder field ++ " />")] "</SelectTrigger>"
        ++ Line.block "<SelectContent>" (field.choices.map choiceLine) "</SelectContent>")
      "</Select>"
  | .datePicker => [
      labelLine field,
      .plain ("<DatePicker " ++ literalAttribute "id" field.id ++ inlinePlaceholder field
        ++ " value=\x7b" ++ valueMember field ++ " as Date | undefined\x7d onChange="
        ++ changeHandler field "date" "date" ++ " />")]
  | .fileUpload => [
      labelLine field,
      .plain ("<FileUpload " ++ literalAttribute "id" field.id ++ " onChange="
        ++ changeHandler field "files" "files" ++ " />")]

/-- The helper text of a field. -/
def helperLine (text : String) : Line :=
  .plain ("<p className=\"text-sm text-muted-foreground\">" ++ textChild text ++ "</p>")

/-- The error of a field. -/
def errorLine (field : Field) : Line :=
  let error := member "errors" field.name
  .plain ("\x7b" ++ error ++ " && <p className=\"text-sm text-destructive\">" ++ braced error
    ++ "</p>\x7d")

/-- The block of a field. -/
def fieldLines (field : Field) : List Line :=
  Line.block "<div className=\"space-y-2\">"
    (controlLines field ++ (field.helperText.map helperLine).toList ++ [errorLine field])
    "</div>"

/-- The variant attribute of a button, which a primary action goes without. -/
def variantAttribute : ActionVariant → String
  | .primary => ""
  | other => " variant=\"" ++ other.buttonVariant ++ "\""

/-- A button of a type. -/
def buttonLine (type : String) (action : Action) : Line :=
  .plain ("<Button type=\"" ++ type ++ "\"" ++ variantAttribute action.variant ++ ">"
    ++ textChild action.label ++ "</Button>")

/-- The button of an action. -/
def actionLines (action : Action) : List Line :=
  match action.kind with
  | .submit => [buttonLine "submit" action]
  | .button => [buttonLine "button" action]
  | .link =>
    Line.block "<Button variant=\"link\" asChild>"
      [.plain ("<a " ++ literalAttribute "href" (action.href.getD "#") ++ ">"
        ++ textChild action.label ++ "</a>")]
      "</Button>"

/-- The blocks of the fields of a document. -/
def allFields (document : Document) : List Line := document.fields.flatMap fieldLines

/-- The buttons of a document inside an element, or nothing where there are none. -/
def actionBlock (first last : String) (document : Document) : List Line :=
  if document.actions.isEmpty then []
  else Line.block first (document.actions.flatMap actionLines) last

/-- The card of a document that asks for credentials. -/
def cardLines (document : Document) : List Line :=
  Line.block "<div className=\"flex min-h-screen items-center justify-center p-4\">"
    (Line.block "<Card className=\"w-full max-w-md\">"
      (Line.block "<form onSubmit=\x7bhandleSubmit\x7d noValidate>"
        (Line.block "<CardHeader>"
          (.plain ("<CardTitle>" ++ textChild document.title ++ "</CardTitle>")
            :: (document.description.map fun text => Line.plain
              ("<CardDescription>" ++ textChild text ++ "</CardDescription>")).toList)
          "</CardHeader>"
        ++ Line.block "<CardContent className=\"space-y-4\">" (allFields document)
          "</CardContent>"
        ++ actionBlock "<CardFooter className=\"flex justify-end gap-2\">" "</CardFooter>"
          document)
        "</form>")
      "</Card>")
    "</div>"

/-- How a page arranges a document. -/
structure PageStyle where
  /-- The class that limits the width. -/
  width : String
  /-- Whether a line separates the heading from the form. -/
  separator : Bool := false
  /-- The classes of the grid that the fields stand in, if they stand in one. -/
  grid : Option String := none

/-- The fields of a document, in the grid of the page if it has one. -/
def pageFields (style : PageStyle) (document : Document) : List Line :=
  match style.grid, document.fields.isEmpty with
  | some classes, false =>
    Line.block ("<div className=\"" ++ classes ++ "\">") (allFields document) "</div>"
  | _, _ => allFields document

/-- The page of a document. -/
def pageLines (style : PageStyle) (document : Document) : List Line :=
  Line.block ("<div className=\"mx-auto " ++ style.width ++ " p-6\">")
    ([.plain ("<h1 className=\"text-2xl font-semibold tracking-tight\">"
        ++ textChild document.title ++ "</h1>")]
      ++ (document.description.map fun text => Line.plain
        ("<p className=\"text-muted-foreground\">" ++ textChild text ++ "</p>")).toList
      ++ (if style.separator then [.plain "<Separator className=\"my-6\" />"] else [])
      ++ Line.block "<form onSubmit=\x7bhandleSubmit\x7d noValidate className=\"mt-6 space-y-4\">"
        (pageFields style document
          ++ actionBlock "<div className=\"flex justify-end gap-2\">" "</div>" document)
        "</form>")
    "</div>"

/-- The markup of a document. -/
def markupLines (document : Document) : List Line :=
  match document.scaffold with
  | some .formAuth => cardLines document
  | some .settingsPage => pageLines { width := "max-w-3xl", separator := true } document
  | some .dashboard =>
    pageLines { width := "max-w-6xl", grid := "grid gap-4 md:grid-cols-2 lg:grid-cols-3" } document
  | some .twoColumn =>
    pageLines { width := "max-w-4xl", grid := "grid gap-4 md:grid-cols-2" } document
  | none => pageLines { width := "max-w-2xl" } document

end Formwright.Code
