import Formwright.Document.Basic
import Formwright.Pattern.Search

/-!
# Cues

A cue is a named pattern that speaks for a value. Cues stand in lists, and of the cues that a text
gives the first in the list decides. Prompts give the labels of buttons and the titles of documents
between quotes.
-/
namespace Formwright

/-- A text of at most a number of characters between quotes, without closing quotes and line breaks
inside; the pattern keeps what is between the quotes. -/
def Pattern.quotedLabel (most : Nat) : Pattern :=
  oneOf "\"“„'" ++ capture (ranging 1 most (noneOf "\"”“'\n")) ++ oneOf "\"”“'"

/-- A named pattern that speaks for a value. -/
structure Cue (α : Type) where
  name : String
  value : α
  pattern : Pattern

namespace Cue
open Pattern

/-- The cues that a text gives, in the order of the list. -/
def given {α : Type} (cues : List (Cue α)) (text : List Char) : List (Cue α) :=
  cues.filter (·.pattern.matchesIn text)

/-- The first cue that a text gives. -/
def first? {α : Type} (cues : List (Cue α)) (text : List Char) : Option (Cue α) :=
  cues.find? (·.pattern.matchesIn text)

/-- The cues of the kinds of documents. -/
def documents : List (Cue DocumentKind) := [
  ⟨"form", .form, wordEdge ++ anyOf [plural "form" ++ wordEdge, stem "formularz"]⟩,
  ⟨"screen", .screen, wordEdge ++ anyOf [
    plural "screen" ++ wordEdge, plural "page" ++ wordEdge, plural "view" ++ wordEdge,
    "dashboard", stem "ekran", "stron" ++ oneOf "aęy" ++ wordEdge, stem "widok",
    stem "pulpit"]⟩,
  ⟨"app", .app, wordEdge ++ anyOf [plural "app" ++ wordEdge, "application", stem "aplikacj"]⟩]

/-- The cues of the scaffolds. -/
def scaffolds : List (Cue Scaffold) := [
  ⟨"form-auth", .formAuth, wordEdge ++ anyOf [
    "log" ++ maybe " " ++ "in" ++ wordEdge, "sign" ++ maybe " " ++ "in" ++ wordEdge,
    "sign" ++ maybe " " ++ "up" ++ wordEdge, "register", "registration", stem "auth",
    stem "logowani", stem "zaloguj", stem "rejestracj", stem "zarejestruj",
    stem "uwierzytelni"]⟩,
  ⟨"settings-page", .settingsPage, wordEdge ++ anyOf [
    "settings", "preferences", stem "ustawieni", stem "preferencj"]⟩,
  ⟨"dashboard", .dashboard, wordEdge ++ anyOf [
    "dashboard", "analytics", "overview", "metrics", stem "pulpit", stem "statystyk"]⟩,
  ⟨"two-column", .twoColumn, anyOf [
    wordEdge ++ "two" ++ oneOf "- " ++ plural "column" ++ wordEdge,
    wordEdge ++ "2" ++ oneOf "- " ++ plural "column" ++ wordEdge,
    standing "side by side", standing "dwie kolumny", wordEdge ++ stem "dwukolumnow"]⟩]

/-- What tells that an account is to be created and not to be entered. -/
def registration : Pattern :=
  wordEdge ++ anyOf [
    "sign" ++ maybe " " ++ "up", "register", "registration",
    "create " ++ maybe "an " ++ "account", stem "rejestracj", stem "zarejestruj", "załóż konto",
    "zaloz konto"]

end Cue
end Formwright
