import Formwright.Prompt.Cue
import Formwright.Prompt.Draft
import Formwright.Prompt.Token

/-!
# Lists of fields

A prompt names its fields in a list. Lists are told by the words before them or by the conjunction
inside them; the fields of a prompt without a list are those that the dictionary finds.
-/
namespace Formwright.FieldList
open Pattern

/-- A word of letters and hyphens. -/
def listedWord : Pattern := oneOrMore (.one fun c => Text.isLetter c || c == '-')

/-- The ways of writing a list of fields. The value says whether all that is listed counts as a
field, or only what is known to be one. -/
def cues : List (Cue Bool) := [
  ⟨"colon-list", true,
    anyOf [
      wordEdge ++ plural "field", wordEdge ++ plural "input", wordEdge ++ "pola",
      wordEdge ++ "pól", wordEdge ++ "pole", wordEdge ++ "containing", wordEdge ++ "including",
      wordEdge ++ "with", wordEdge ++ "z polami", wordEdge ++ stem "zawieraj"]
    ++ gap ++ ":" ++ gap ++ capture (oneOrMore (noneOf ".\n;"))⟩,
  ⟨"with-list", true,
    wordEdge
    ++ anyOf ["with", "containing", "including", "having", "asking for", "asks for",
      plural "collect", "z polami", stem "zawieraj", "ze", "z"]
    ++ space
    ++ maybe (anyOf [
      maybe ("the" ++ space) ++ plural "field" ++ space, "pola" ++ maybe "mi" ++ space])
    ++ capture (oneOrMore (noneOf ".\n;:"))⟩,
  ⟨"conjunction-list", false,
    capture (many (listedWord ++ gap ++ exactly ',' ++ gap) ++ listedWord ++ space
      ++ anyOf ["and", "oraz", exactText "i"] ++ space ++ listedWord)⟩]

/-- The tokens that one way of writing a list finds in a text. -/
def tokens (cue : Cue Bool) (text : List Char) : List String :=
  match cue.pattern.capturedIn text with
  | none => []
  | some list =>
    let listed := Token.ofList list
    if cue.value then listed else listed.filter Token.isKnown

/-- The tokens of the fields that a text names and the name of the rule that found them. -/
def find (text : List Char) : List String × Option String :=
  match cues.find? fun cue => !(tokens cue text).isEmpty with
  | some cue => (tokens cue text, some cue.name)
  | none =>
    match Token.ofDictionary text with
    | [] => ([], none)
    | found => (found, some "dictionary")

end Formwright.FieldList
