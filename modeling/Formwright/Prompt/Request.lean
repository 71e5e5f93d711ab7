import Formwright.Pattern.Search
import Formwright.Text.Words

/-!
# Requests

A prompt may carry code: fenced, led in by a phrase, or bare. The request is what is left of the
prompt as plain language, on one line.
-/
namespace Formwright
open Pattern

/-- Code between fences; the last fence may be missing. -/
def fencedCode : Pattern :=
  exactText "```" ++ reluctantMany (.one fun _ => true) ++ anyOf [exactText "```", textEnd]

/-- The phrases that lead in the code to be edited. -/
def leadIns : List Pattern := [
  maybe ("please" ++ space) ++ anyOf ["modify", "update", "change", "edit"] ++ space
    ++ maybe ("the" ++ space) ++ anyOf ["existing", "current"] ++ space ++ "component" ++ gap
    ++ maybe (oneOf ":.,"),
  "here" ++ space ++ "is" ++ space ++ maybe ("the" ++ space) ++ anyOf ["current", "existing"]
    ++ space ++ "code" ++ gap ++ maybe (oneOf ":."),
  wordEdge ++ anyOf ["current", "existing"] ++ space ++ "code" ++ gap ++ ":",
  "zmodyfikuj" ++ space ++ anyOf ["istniejący", "istniejacy", "obecny", "aktualny"] ++ space
    ++ "komponent" ++ gap ++ maybe (oneOf ":.,"),
  "oto" ++ space ++ anyOf ["obecny", "aktualny", "istniejący", "istniejacy"] ++ space ++ "kod"
    ++ gap ++ maybe (oneOf ":."),
  wordEdge ++ anyOf ["obecny", "aktualny"] ++ space ++ "kod" ++ gap ++ ":"]

/-- The start of a declaration in bare code. -/
def codeStart : Pattern :=
  anyOf [lineStart, .one Text.isBlank]
  ++ anyOf [
    exactText "import" ++ space ++ oneOf "\"'",
    exactText "import" ++ space
      ++ (.one importCharacter ++ reluctantMany (.one importCharacter))
      ++ wordEdge ++ exactText "from" ++ gap ++ oneOf "\"'",
    exactText "export" ++ space ++ maybe (exactText "default" ++ space)
      ++ anyOf [exactText "function", exactText "const", exactText "class"] ++ wordEdge,
    exactText "function" ++ space ++ oneOrMore (.one Text.isWord) ++ gap ++ exactly '(',
    exactText "const" ++ space ++ oneOrMore (.one Text.isWord) ++ gap ++ exactly '=' ++ gap
      ++ exactly '(']
where
  /-- A character of what a declaration imports. -/
  importCharacter (c : Char) : Bool :=
    Text.isWord c || Text.isBlank c || c ∈ ['$', '\x7b', '\x7d', '*', ',']

/-- The least number of words before bare code that make a prompt more than code. -/
def minProseWords : Nat := 4

/-- What a prompt asks for in plain language. -/
structure Request where
  /-- The words of the request with single spaces between them. -/
  text : List Char
  /-- Whether fenced code or a phrase that leads in code was taken out. -/
  stripped : Bool
  /-- Whether the prompt is code rather than a request. -/
  isCode : Bool

namespace Request

/-- A prompt without fenced code and without the phrases that lead in code. -/
def withoutFences (prompt : List Char) : List Char :=
  leadIns.foldl (fun text leadIn => leadIn.replaceAll [' '] text)
    (fencedCode.replaceAll [' '] prompt)

/-- The number of words of letters in a text. -/
def proseWords (text : List Char) : Nat := (Text.wordsBy (!Text.isLetter ·) text).length

/-- The request that a prompt makes. Bare code after enough words is cut off, and with fewer words
before it the whole prompt is code. -/
def ofPrompt (prompt : List Char) : Request :=
  let text := withoutFences prompt
  let stripped := text != prompt
  match codeStart.search text with
  | none => ⟨Text.joinWords (Text.words text), stripped, false⟩
  | some start =>
    if proseWords start.before < minProseWords then
      ⟨Text.joinWords (Text.words text), stripped, true⟩
    else ⟨Text.joinWords (Text.words start.before), stripped, false⟩

end Request
end Formwright
