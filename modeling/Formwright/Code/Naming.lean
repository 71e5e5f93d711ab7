import Formwright.Code.Escape
import Formwright.Code.Options
import Formwright.Document.Basic
import Formwright.Text.Case

/-!
# Names in generated code

Names are made of the ASCII letters and digits of a text.
-/
namespace Formwright.Code

/-- The words of ASCII letters and digits in a text, each with its first letter in upper case, put
together; a leading digit gets a low line before it. -/
def pascalCase (text : String) : String :=
  let joined := (Text.wordsBy (fun c => !c.isAlphanum) text.toList).flatMap Text.capitalizeAscii
  match joined with
  | [] => ""
  | first :: _ => String.ofList (if first.isDigit then '_' :: joined else joined)

/-- A character of a name in kebab case: an upper-case letter becomes a hyphen and the letter in
lower case. -/
def kebabChar (c : Char) : List Char := if c.isUpper then ['-', c.toLower] else [c]

/-- A name with its words in lower case and joined by hyphens. -/
def kebabCase (text : String) : String :=
  match text.toList with
  | [] => ""
  | first :: rest => String.ofList (first.toLower :: rest.flatMap kebabChar)

/-- What the name of a component ends in. -/
def kindSuffix : DocumentKind → String
  | .form => "Form"
  | .screen => "Screen"
  | .app => "App"

/-- The name of a component after the title and the kind of its document. -/
def titleName (title : String) (kind : DocumentKind) : String :=
  let base := pascalCase title
  let ending := kindSuffix kind
  if base.isEmpty then "Generated" ++ ending
  else if ending.toList.isSuffixOf base.toList then base
  else base ++ ending

/-- The name of the generated component: the one asked for, made an identifier if need be, else
the name after the title. -/
def componentName (document : Document) (options : Options) : String :=
  match options.componentName with
  | none => titleName document.title document.kind
  | some name =>
    if isIdentifier name then name
    else if (pascalCase name).isEmpty then titleName document.title document.kind
    else pascalCase name

/-- The type of input that a field name asks for. -/
def inputType (name : String) : String :=
  let lower := name.toList.map Char.toLower
  let mentions (word : String) : Bool := Text.occursIn word.toList lower
  let startsWith (word : String) : Bool := word.toList.isPrefixOf lower
  if mentions "email" then "email"
  else if mentions "password" || mentions "haslo" then "password"
  else if mentions "phone" || startsWith "tel" || mentions "mobile" then "tel"
  else "text"

end Formwright.Code
