import Formwright.Prompt.Keyword
import Formwright.Prompt.Qualifier
import Formwright.Text.Alphanumeric
import Formwright.Text.Case
import Formwright.Text.Words

/-!
# Tokens of fields

A token is the short lower-case text that names a field in a prompt. Tokens come from lists of
fields, or from the dictionary of the fields that are known by name.
-/
namespace Formwright.Token
open Pattern

/-- What stands between the fields of a list. The Polish conjunction "i" counts in lower case only,
so that the English "I" separates nothing. -/
def separator : Pattern :=
  gap ++ anyOf [",", ";", "/", "&", "+", standing "and", standing "oraz",
    standing (exactText "i")] ++ gap

/-- Words of a list that say nothing about which field is meant. -/
def noise : Pattern :=
  standing (anyOf [
    "a", "an", "the", "your", "their", "user" ++ maybe (exactly '\'') ++ maybe "s", "optional",
    "required", "mandatory", stem "wymagan", stem "opcjonaln", plural "field", plural "input",
    "pol" ++ oneOf "ea", "polami", "pól"])

/-- A part of a text that tells that it names an action or a quality and not a field. -/
def foreign : Pattern :=
  anyOf [
    standing (anyOf [
      "button", "buttons", stem "przycisk", "submit", "cancel", stem "anuluj", "back", "wstecz",
      "link", "layout", "style", "theme", "color", "colour", "background", "all", "every",
      "wszystkie"]),
    .one Text.isDecimal]

/-- The most words that a token has. -/
def maxWords : Nat := 4

/-- A character between the words of a token. -/
def separatesWords (c : Char) : Bool := Text.isBlank c || c ∈ ['"', '\'', '(', ')']

/-- The token in a piece of a list, if there is one. -/
def ofPiece? (piece : List Char) : Option String :=
  let lowered := Text.lower (Text.trim piece)
  if lowered.isEmpty || foreign.matchesIn lowered || minLengthMention.matchesIn lowered then none
  else
    let words := Text.wordsBy separatesWords (noise.replaceAll [' '] lowered)
    if words.isEmpty || maxWords < words.length then none
    else
      let token := Text.trimBy (fun c => !Text.isAlphanumeric c) (Text.joinWords words)
      if token.isEmpty then none
      else if token == "e-mail".toList || token == "e mail".toList then some "email"
      else some (String.ofList token)

/-- The part of a list before quoted text, which is a label and names no field. -/
def beforeQuote (list : List Char) : List Char :=
  list.takeWhile fun c => c ∉ ['"', '“', '„']

/-- The tokens of a list of fields. -/
def ofList (list : List Char) : List String :=
  (separator.split (beforeQuote list)).filterMap ofPiece?

/-! ## The dictionary -/

/-- The fields that are known by name. -/
def dictionary : List Pattern := [
  standing ("e" ++ maybe "-" ++ "mail"),
  standing (anyOf ["password", "hasło", "hasla", "haslo"]),
  standing (anyOf ["phone" ++ maybe " number", "telephone", "numer telefonu", stem "telefon"]),
  standing (anyOf ["full name", "first name", "last name", "username", "name", "imię", "imie",
    "nazwisko"]),
  standing (anyOf ["message", "wiadomość", "wiadomosc"]),
  standing (anyOf ["address", "adres"]),
  standing (anyOf ["city", "miasto"]),
  standing (anyOf ["country", "kraj"]),
  standing (anyOf ["date of birth", "birth" ++ maybe " " ++ "date", "birthday",
    "data urodzenia"]),
  standing (anyOf ["company", "firma"]),
  standing (anyOf ["subject", "temat"]),
  standing (anyOf ["website", "url"]),
  standing (anyOf [plural "comment", "komentarz"]),
  standing (anyOf ["terms", "regulamin"]),
  standing "newsletter",
  standing (anyOf ["attachment", "file", "plik", "załącznik"])]

/-- The first match of each entry of the dictionary in a text, in the order of their places. -/
def dictionaryMatches (text : List Char) : List Match :=
  (dictionary.filterMap (·.search text)).mergeSort fun left right =>
    left.before.length ≤ right.before.length

/-- The tokens that the dictionary finds in a text. -/
def ofDictionary (text : List Char) : List String :=
  (dictionaryMatches text).filterMap fun found => ofPiece? (Text.lower found.matched)

/-- Whether a token is known to name a field. -/
def isKnown (token : String) : Bool :=
  (Control.ofToken? token).isSome || (Profile.ofToken? token).isSome
    || dictionary.any (·.matchesIn token.toList)

end Formwright.Token
