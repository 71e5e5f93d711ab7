import Formwright.Prompt.Identifier
import Formwright.Prompt.Keyword
import Formwright.Prompt.Qualifier
import Formwright.Text.Case

/-!
# Drafts of fields

A draft is a field under construction together with the profile that its token tells. The control
and the profile decide on the placeholder, the helper text, the rules and the choices.
-/
namespace Formwright

/-- A field under construction. -/
structure Draft where
  field : Field
  profile : Profile
deriving Repr

namespace Draft

/-- The pattern of phone numbers. -/
def phonePattern : String := "^\\+?[0-9\\s()-]\x7b7,\x7d$"

/-- The pattern of addresses of web pages. -/
def urlPattern : String := "^https?://\\S+$"

/-- The pattern of whole numbers. -/
def numericPattern : String := "^\\d+$"

/-- The label for a token. -/
def labelFor (token : String) : String := String.ofList (Text.capitalize token.toList)

/-- A label as it stands inside a sentence. -/
def lowerLabel (label : String) : String := String.ofList (Text.lower label.toList)

/-- An input with what its profile asks for. -/
def input (field : Field) (language : Language) : Profile → Field
  | .email => { field with
      placeholder := some (Wording.text ⟨"you@example.com", "ty@przyklad.pl"⟩ language)
      helperText := some (Wording.text ⟨"We'll never share your email.",
        "Nie udostępnimy Twojego adresu e-mail."⟩ language)
      rules := [⟨.required, none⟩, ⟨.email, none⟩] }
  | .password => { field with
      placeholder := some (Wording.text ⟨"Enter your password", "Wpisz hasło"⟩ language)
      helperText := some (Wording.text ⟨"At least 8 characters.", "Co najmniej 8 znaków."⟩ language)
      rules := [⟨.required, none⟩, ⟨.minLength 8, none⟩] }
  | .phone => { field with
      placeholder := some (Wording.text ⟨"+1 555 000 0000", "+48 600 000 000"⟩ language)
      rules := [⟨.pattern phonePattern, none⟩] }
  | .url => { field with
      placeholder := some "https://example.com"
      rules := [⟨.pattern urlPattern, none⟩] }
  | .numeric => { field with
      placeholder := some "0"
      rules := [⟨.pattern numericPattern, none⟩] }
  | .consent | .generic => { field with
      placeholder :=
        some (Wording.text ⟨"Enter ", "Wpisz: "⟩ language ++ lowerLabel field.label) }

/-- A field of any control with what its control and its profile ask for. -/
def complete (field : Field) (token : String) (language : Language) (profile : Profile) : Field :=
  let label := lowerLabel field.label
  match field.control with
  | .input => input field language profile
  | .textarea => { field with
      placeholder := some (Wording.text
        ⟨"Type your " ++ label ++ " here...", "Wpisz treść: " ++ label ++ "..."⟩ language) }
  | .select => { field with
      placeholder := some (Wording.text ⟨"Select ", "Wybierz: "⟩ language ++ label)
      choices := suggestedChoices token language }
  | .checkbox => { field with
      rules := if profile = .consent then [⟨.required, none⟩] else [] }
  | .datePicker => { field with
      placeholder := some (Wording.text ⟨"Pick a date", "Wybierz datę"⟩ language) }
  | .fileUpload => { field with
      helperText := some (Wording.text
        ⟨"Maximum file size: 10 MB.", "Maksymalny rozmiar pliku: 10 MB."⟩ language) }

/-- The draft of a field for a token. -/
def ofToken (language : Language) (token name : String) : Draft :=
  let control := (Control.ofToken? token).getD .input
  let profile := (Profile.ofToken? token).getD .generic
  let field := Field.plain name (labelFor token) control
  { field := complete field token language profile, profile }

/-- The drafts for tokens, of which those seen before have none and whose names avoid those that
are taken. Names are taken in the order of the drafts, so that numbers are found to be taken in
increasing order. -/
def ofTokensAfter (language : Language) (seen taken : List String) : List String → List Draft
  | [] => []
  | token :: rest =>
    if token ∈ seen then ofTokensAfter language seen taken rest
    else
      let name := freeName taken (identifierFor token)
      ofToken language token name
        :: ofTokensAfter language (token :: seen) (taken ++ [name]) rest

/-- The drafts for tokens: one for each distinct token, under distinct names. -/
def ofTokens (language : Language) (tokens : List String) : List Draft :=
  ofTokensAfter language [] [] tokens

/-- The drafts of a form to sign in by. -/
def credentials (language : Language) : List Draft :=
  ofTokens language ["email", Wording.text ⟨"password", "hasło"⟩ language]

end Draft
end Formwright
