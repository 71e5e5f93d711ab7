import Formwright.Prompt.Cue
import Formwright.Prompt.Language
import Formwright.Text.Words

/-!
# Actions of prompts

A document has one action that submits it, labelled as the prompt quotes it or as the purpose of
the prompt suggests, and may have a second action that leaves it.
-/
namespace Formwright.ActionRule
open Pattern

/-- The ways of quoting the label of a button: after the word and before it. -/
def quoted : List Pattern := [
  wordEdge ++ anyOf ["button", stem "przycisk"] ++ space
    ++ maybe (anyOf [
      "label" ++ maybe "l" ++ "ed" ++ space, "saying" ++ space,
      "with " ++ maybe "the " ++ "text" ++ space, "called" ++ space, "named" ++ space,
      "z napisem" ++ space, "z tekstem" ++ space, "o treści" ++ space])
    ++ quotedLabel 40,
  quotedLabel 40 ++ space ++ anyOf ["button", "przycisk"]]

/-- The purposes of prompts, with the labels of the actions that serve them. -/
def primary : List (Cue Wording) := [
  ⟨"login", ⟨"Sign In", "Zaloguj się"⟩, wordEdge ++ anyOf [
    "log" ++ maybe " " ++ "in", "sign" ++ maybe " " ++ "in", stem "zaloguj", stem "logowani"]⟩,
  ⟨"register", ⟨"Create Account", "Zarejestruj się"⟩, wordEdge ++ anyOf [
    "sign" ++ maybe " " ++ "up", "register", "registration",
    "create " ++ maybe "an " ++ "account", stem "rejestracj", stem "zarejestruj",
    "załóż konto"]⟩,
  ⟨"subscribe", ⟨"Subscribe", "Subskrybuj"⟩, wordEdge ++ anyOf [
    "newsletter", "subscribe", stem "subskryb", stem "subskrypcj"]⟩,
  ⟨"contact", ⟨"Send Message", "Wyślij wiadomość"⟩, wordEdge ++ anyOf [
    "contact", stem "kontakt"]⟩,
  ⟨"search", ⟨"Search", "Szukaj"⟩, wordEdge ++ anyOf [
    "search", "filter", "szukaj", stem "wyszukaj", stem "filtr"]⟩,
  ⟨"save", ⟨"Save Changes", "Zapisz zmiany"⟩, wordEdge ++ anyOf [
    "save", "settings", "update", "edit", "profile", "zapisz", stem "ustawieni", "edytuj",
    stem "profil"]⟩,
  ⟨"checkout", ⟨"Place Order", "Złóż zamówienie"⟩, wordEdge ++ anyOf [
    "checkout", "pay", "payment", "order", stem "zamów", stem "zamow", "zapłać", "zaplac",
    stem "płatnoś"]⟩,
  ⟨"send", ⟨"Send", "Wyślij"⟩, wordEdge ++ anyOf ["send", "wyślij", "wyslij"]⟩,
  ⟨"submit", ⟨"Submit", "Zatwierdź"⟩, wordEdge ++ anyOf ["submit", "zatwierdź", "zatwierdz"]⟩]

/-- The label of a submit action about whose purpose nothing is known. -/
def plainSubmit : Wording := ⟨"Submit", "Wyślij"⟩

/-- The ways out of a form, with the labels of the actions that take them. -/
def secondary : List (Cue Wording) := [
  ⟨"cancel", ⟨"Cancel", "Anuluj"⟩, wordEdge ++ anyOf ["cancel", stem "anuluj"]⟩,
  ⟨"back", ⟨"Back", "Wstecz"⟩,
    standing (anyOf ["go back", "back", "previous", "wstecz", "powrót", "powrot", "cofnij"])⟩]

/-- The label that a text quotes for its button, unless it is blank. -/
def quotedLabel? (text : List Char) : Option String :=
  match quoted.findSome? (·.capturedIn text) with
  | none => none
  | some label =>
    let trimmed := Text.trim label
    if trimmed.isEmpty then none else some (String.ofList trimmed)

/-- The label of the submit action and the name of the rule that gave it. -/
def submitLabel (text : List Char) (language : Language) : String × String :=
  match quotedLabel? text with
  | some label => (label, "quoted")
  | none =>
    match Cue.first? primary text with
    | some cue => (cue.value.text language, cue.name)
    | none => (plainSubmit.text language, "default")

/-- The action that submits a document. -/
def submit (label : String) : Action where
  id := "action-submit"
  label
  kind := .submit
  variant := .primary

/-- The action that a cue of a way out asks for. -/
def wayOut (language : Language) (cue : Cue Wording) : Action where
  id := "action-" ++ cue.name
  label := cue.value.text language
  kind := .button
  variant := .outline

/-- The actions of a document and the name of the rule that labels the first. -/
def find (text : List Char) (language : Language) : List Action × String :=
  let (label, name) := submitLabel text language
  (submit label :: ((Cue.first? secondary text).map (wayOut language)).toList, name)

end Formwright.ActionRule
