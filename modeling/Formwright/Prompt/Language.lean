import Formwright.Json.Basic
import Formwright.Pattern.Search
import Formwright.Vocabulary

/-!
# Languages of prompts

Prompts are written in English or in Polish, and the texts of a document are worded in the language
of the prompt.
-/
namespace Formwright

/-- A language of prompts. -/
inductive Language where
  | english
  | polish
deriving DecidableEq, Repr

instance : Vocabulary Language where
  members := [.english, .polish]
  word
    | .english => "en"
    | .polish => "pl"

/-- A text in every language. -/
structure Wording where
  english : String
  polish : String
deriving DecidableEq, Repr

/-- The text in one language. -/
def Wording.text (wording : Wording) : Language → String
  | .english => wording.english
  | .polish => wording.polish

namespace Language
open Pattern

/-- What only Polish prompts have: a Polish letter or a Polish word of the trade. -/
def polishMark : Pattern :=
  anyOf [
    oneOf "ąćęłńśźż",
    standing (anyOf [
      stem "formularz", stem "ekran", stem "aplikacj", "pol" ++ oneOf "ea" ++ wordEdge, "polami",
      stem "przycisk", "hasło", "haslo", "imi" ++ oneOf "eę", "nazwisko", stem "zaloguj",
      stem "rejestracj", stem "ustawieni", "stwórz", "utwórz", "stworz", "utworz", "dodaj",
      stem "wiadomo", "oraz"])]

/-- The language of a text. -/
def ofText (text : List Char) : Language :=
  if polishMark.matchesIn text then .polish else .english

end Language
end Formwright
