import Formwright.Prompt.Cue
import Formwright.Prompt.Language
import Formwright.Text.Case
import Formwright.Text.Words

/-!
# Titles

The title of a document is quoted in the prompt, or is taken from a phrase that tells what the
document is for, or is the common title of its scaffold or its kind.
-/
namespace Formwright.Title
open Pattern

/-- A character of a title that is not quoted. -/
def titleCharacter : Pattern :=
  .one fun c => isCaselessLetter c || Text.isNumber c || c ∈ ['\'', ' ', '-']

/-- What ends a title: one of some words, a punctuation mark or the end of the text. -/
def titleEnd (words : List Pattern) : Pattern :=
  anyOf [space ++ anyOf words ++ wordEdge, oneOf ",.;:!?", textEnd]

/-- The places where a title is written. -/
def cues : List (Cue Unit) := [
  ⟨"quoted", (),
    wordEdge
    ++ anyOf ["titled", "called", "named", "title", stem "tytuł", stem "tytul", stem "nazwan"]
    ++ gap ++ maybe ":" ++ gap ++ quotedLabel 60⟩,
  ⟨"noun-phrase", (),
    wordEdge
    ++ anyOf ["form", "screen", "app", "page", stem "formularz", stem "ekran", stem "aplikacj",
      "stron" ++ oneOf "aęy"]
    ++ space ++ anyOf ["for", "to", "dla", "do"] ++ space ++ maybe (anyOf ["a ", "an ", "the "])
    ++ capture (reluctantRanging 2 40 titleCharacter)
    ++ titleEnd ["with", "that", "containing", "including", "which", "where", "z", "ze",
      stem "zawieraj", "który", "która", "które"]⟩,
  ⟨"verb-phrase", (),
    wordEdge
    ++ anyOf ["create", "build", "make", "generate", "design", "stwórz", "stworz", "utwórz",
      "utworz", "zbuduj", "zrób", "zrob", "wygeneruj", "zaprojektuj"]
    ++ space ++ maybe ("me" ++ space)
    ++ many (anyOf ["a", "an", "the", "new", "nowy", "nową", "nowa", "nowe"] ++ space)
    ++ capture (reluctantRanging 2 40 titleCharacter)
    ++ titleEnd ["with", "that", "for", "containing", "including", "z", "ze", "dla",
      stem "zawieraj"]⟩,
  ⟨"leading-noun", (),
    textStart ++ gap
    ++ many (anyOf ["a", "an", "the", "simple", "basic", "prosty", "prosta"] ++ space)
    ++ capture (reluctantRanging 0 30 titleCharacter ++ wordEdge
      ++ anyOf ["form", "screen", "app", "page", stem "formularz", stem "ekran", stem "aplikacj"])
    ++ wordEdge⟩]

/-- A text with single spaces between its words and each word with its first character in upper
case. -/
def titleCase (text : List Char) : List Char :=
  Text.joinWords ((Text.words text).map Text.capitalize)

/-- The title that stands in one place of a text, if one does. -/
def written? (cue : Cue Unit) (text : List Char) : Option (List Char) :=
  (cue.pattern.capturedIn text).map titleCase |>.filter (!·.isEmpty)

/-- The common title of a kind of documents. -/
def ofKind : DocumentKind → Wording
  | .form => ⟨"Form", "Formularz"⟩
  | .screen => ⟨"Screen", "Ekran"⟩
  | .app => ⟨"App", "Aplikacja"⟩

/-- The common title of a scaffold, if it has one; `registers` tells whether an account is to be
created. -/
def ofScaffold? (registers : Bool) : Scaffold → Option Wording
  | .formAuth => some (if registers then ⟨"Create Account", "Rejestracja"⟩
      else ⟨"Sign In", "Logowanie"⟩)
  | .settingsPage => some ⟨"Settings", "Ustawienia"⟩
  | .dashboard => some ⟨"Dashboard", "Pulpit"⟩
  | .twoColumn => none

/-- The description of a scaffold, if it has one. -/
def descriptionOf? (registers : Bool) : Scaffold → Option Wording
  | .formAuth => some (if registers then
        ⟨"Create an account to get started.", "Utwórz konto, aby rozpocząć."⟩
      else
        ⟨"Enter your credentials to continue.", "Podaj dane logowania, aby kontynuować."⟩)
  | .settingsPage => some
      ⟨"Manage your account preferences.", "Zarządzaj ustawieniami konta."⟩
  | .dashboard | .twoColumn => none

/-- The title of a document and the name of the rule that gave it; `registers` tells whether an
account is to be created. -/
def find (text : List Char) (kind : DocumentKind) (scaffold : Option Scaffold)
    (registers : Bool) (language : Language) : String × String :=
  match cues.findSome? fun cue => (written? cue text).map (·, cue.name) with
  | some (title, name) => (String.ofList title, name)
  | none =>
    match scaffold.bind (ofScaffold? registers) with
    | some wording => (wording.text language, "scaffold-default")
    | none => ((ofKind kind).text language, "document-default")

end Formwright.Title
