import Formwright.Document.Basic
import Formwright.Prompt.Language
import Formwright.Text.Alphanumeric

/-!
# Keywords of fields

What a field holds is told by the words of its token. A keyword counts where it starts a word, so
that "hotel" does not mention "tel". Keywords stand in tables, and the first row of a table with a
keyword that counts decides.
-/
namespace Formwright

/-- Whether a keyword starts a word of the text that is left, where `before` is the character before
that text and the next `skip` characters belong to an occurrence that starts no word. -/
def startsWordAfter (keyword : List Char) (before : Option Char) (skip : Nat) :
    List Char → Bool
  | [] => skip == 0 && keyword.isEmpty && !before.any Text.isAlphanumeric
  | c :: rest =>
    if skip == 0 && keyword.isPrefixOf (c :: rest) then
      !before.any Text.isAlphanumeric
        || startsWordAfter keyword (some c) (keyword.length - 1) rest
    else startsWordAfter keyword (some c) (skip - 1) rest

/-- Whether a keyword starts a word of a token, if its occurrences are sought from left to right
and do not overlap. -/
def startsWord (token keyword : String) : Bool :=
  startsWordAfter keyword.toList none 0 token.toList

/-- A table of keywords: each row has a value and the keywords that speak for it. -/
abbrev KeywordTable (α : Type) := List (α × List String)

/-- The value of the first row with a keyword that starts a word of a token. -/
def KeywordTable.value? {α : Type} (table : KeywordTable α) (token : String) : Option α :=
  (table.find? fun row => row.2.any (startsWord token)).map Prod.fst

/-- The keywords of the controls. -/
def Control.keywords : KeywordTable Control := [
  (.checkbox, ["terms", "agree", "accept", "consent", "newsletter", "subscribe", "remember",
    "opt-in", "opt in", "zgod", "akcept", "regulamin", "zapamiętaj", "zapamietaj", "subskryp"]),
  (.datePicker, ["date", "birthday", "birth", "dob", "deadline", "data", "urodzin", "termin"]),
  (.fileUpload, ["file", "upload", "attachment", "avatar", "photo", "image", "resume", "cv",
    "document", "plik", "załącznik", "zalacznik", "zdjęci", "zdjeci", "dokument"]),
  (.select, ["country", "select", "choose", "category", "gender", "role", "type", "state",
    "province", "size", "kraj", "wybierz", "kategori", "płeć", "plec", "rola", "województw",
    "wojewodztw", "rozmiar"]),
  (.textarea, ["message", "comment", "description", "bio", "notes", "feedback", "details",
    "about", "wiadomo", "komentarz", "opis", "uwagi", "treść", "tresc"])]

/-- The control that a token asks for. -/
def Control.ofToken? (token : String) : Option Control := Control.keywords.value? token

/-- What a field holds, as far as it decides on the placeholder and the rules of the field. -/
inductive Profile where
  | email
  | password
  | phone
  | url
  | numeric
  | consent
  | generic
deriving DecidableEq, Repr

instance : Vocabulary Profile where
  members := [.email, .password, .phone, .url, .numeric, .consent, .generic]
  word
    | .email => "Email"
    | .password => "Password"
    | .phone => "Phone"
    | .url => "Url"
    | .numeric => "Numeric"
    | .consent => "Consent"
    | .generic => "Generic"

/-- The keywords of the profiles. -/
def Profile.keywords : KeywordTable Profile := [
  (.email, ["email", "e-mail", "mail"]),
  (.password, ["password", "passcode", "hasło", "haslo"]),
  (.phone, ["phone", "telephone", "tel", "mobile", "telefon", "komórk", "komork"]),
  (.url, ["website", "url", "homepage", "www", "link"]),
  (.numeric, ["age", "quantity", "amount", "zip", "postal", "wiek", "ilość", "ilosc", "liczba",
    "kod pocztowy"]),
  (.consent, ["terms", "agree", "accept", "consent", "zgod", "akcept", "regulamin"])]

/-- The profile that a token tells. -/
def Profile.ofToken? (token : String) : Option Profile := Profile.keywords.value? token

/-! ## Suggested choices -/

/-- Choices given as labels and values. -/
def choicesOf (entries : List (String × String)) : List Choice :=
  entries.map fun (label, value) => ⟨label, value⟩

/-- The countries to choose from. -/
def countryChoices : Language → List Choice
  | .english => choicesOf [("United States", "us"), ("United Kingdom", "uk"), ("Germany", "de"),
      ("Poland", "pl")]
  | .polish => choicesOf [("Polska", "pl"), ("Niemcy", "de"), ("Wielka Brytania", "uk"),
      ("Stany Zjednoczone", "us")]

/-- The genders to choose from. -/
def genderChoices : Language → List Choice
  | .english => choicesOf [("Female", "female"), ("Male", "male"), ("Other", "other")]
  | .polish => choicesOf [("Kobieta", "female"), ("Mężczyzna", "male"), ("Inna", "other")]

/-- The roles to choose from. -/
def roleChoices : Language → List Choice
  | .english => choicesOf [("Admin", "admin"), ("Editor", "editor"), ("Viewer", "viewer")]
  | .polish => choicesOf [("Administrator", "admin"), ("Edytor", "editor"),
      ("Czytelnik", "viewer")]

/-- The choices of a field about which nothing is known. -/
def numberedChoices : Language → List Choice
  | .english => choicesOf [("Option 1", "option-1"), ("Option 2", "option-2"),
      ("Option 3", "option-3")]
  | .polish => choicesOf [("Opcja 1", "option-1"), ("Opcja 2", "option-2"),
      ("Opcja 3", "option-3")]

/-- The keywords of the fields whose choices are known. -/
def choiceKeywords : KeywordTable (Language → List Choice) := [
  (countryChoices, ["country", "kraj"]),
  (genderChoices, ["gender", "płeć", "plec"]),
  (roleChoices, ["role", "rola"])]

/-- The choices that a field starts with. -/
def suggestedChoices (token : String) : Language → List Choice :=
  (choiceKeywords.value? token).getD numberedChoices

end Formwright
