import Formwright.Json.Quoted
import Formwright.Text.Words

/-!
# Text inside generated code

Text reaches generated code in three places: attribute values, text children and string literals.
Each place has its own rule by which the text cannot end the construct that it stands in.
-/
namespace Formwright.Code

/-- A text between braces. -/
def braced (text : String) : String := "\x7b" ++ text ++ "\x7d"

/-- A character as it stands in an attribute value. -/
def attributeChar (c : Char) : List Char :=
  if c == '&' then "&amp;".toList
  else if c == '"' then "&quot;".toList
  else [c]

/-- A text as it stands between the double quotes of an attribute. -/
def attributeText (text : String) : String := String.ofList (text.toList.flatMap attributeChar)

/-- A string literal, with its quotes. -/
def stringLiteral (text : String) : String := Json.quote text

/-- A character that markup would interpret in a text child. -/
def isMarkup (c : Char) : Bool := c ∈ ['\x7b', '\x7d', '<', '>', '&', '\n', '\r']

/-- A text child: the text itself, or a string literal in braces where markup would interpret a
character of it or drop white space at its ends. -/
def textChild (text : String) : String :=
  if text.toList.any isMarkup || Text.trim text.toList != text.toList then
    braced (stringLiteral text)
  else text

/-- The expression for a pattern given by its source text. -/
def patternExpression (source : String) : String := "new RegExp(" ++ stringLiteral source ++ ")"

/-- The words that no binding may be named by. -/
def reservedWords : List String := [
  "break", "case", "catch", "class", "const", "continue", "debugger", "default", "delete", "do",
  "else", "export", "extends", "false", "finally", "for", "function", "if", "import", "in",
  "instanceof", "new", "null", "return", "super", "switch", "this", "throw", "true", "try",
  "typeof", "var", "void", "while", "with", "yield", "let", "static", "enum", "await"]

/-- A character that an identifier may start with. -/
def startsIdentifier (c : Char) : Bool := c.isAlpha || c == '_' || c == '$'

/-- A character that an identifier may go on with. -/
def continuesIdentifier (c : Char) : Bool := c.isAlphanum || c == '_' || c == '$'

/-- Whether a text can be used as it is for a key or a binding. -/
def isIdentifier (text : String) : Bool :=
  match text.toList with
  | [] => false
  | first :: rest =>
    startsIdentifier first && rest.all continuesIdentifier && text ∉ reservedWords

/-- A key of an object literal: the text itself if it is an identifier, else a string literal. -/
def objectKey (text : String) : String := if isIdentifier text then text else stringLiteral text

/-- Access to a member of an object. -/
def member (object text : String) : String :=
  if isIdentifier text then object ++ "." ++ text
  else object ++ "[" ++ stringLiteral text ++ "]"

end Formwright.Code
