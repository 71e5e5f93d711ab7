import Formwright.Code.Escape
import Formwright.Text.Case

/-!
# Identifiers of fields

The state of a form has a key for every field, made of the token of the field in ASCII letters and
digits.
-/
namespace Formwright

/-- A Polish letter without its mark. -/
def withoutMark : Char → Char
  | 'ą' => 'a'
  | 'ć' => 'c'
  | 'ę' => 'e'
  | 'ł' => 'l'
  | 'ń' => 'n'
  | 'ó' => 'o'
  | 'ś' => 's'
  | 'ź' => 'z'
  | 'ż' => 'z'
  | other => other

/-- Words put together, each but the first with an upper-case letter at its front. -/
def camelCase : List (List Char) → List Char
  | [] => []
  | first :: rest => first ++ rest.flatMap Text.capitalizeAscii

/-- The identifier for a token: its words in camel case, with a word put before a leading digit and
after a reserved word. -/
def identifierFor (token : String) : String :=
  let folded := (Text.lower token.toList).map withoutMark
  let joined := camelCase (Text.wordsBy (fun c => !c.isAlphanum) folded)
  match joined with
  | [] => "field"
  | first :: _ =>
    let identifier := String.ofList joined
    if first.isDigit then "field" ++ identifier
    else if Code.isIdentifier identifier then identifier
    else identifier ++ "Field"

/-- A name with a number after it. -/
def numbered (name : String) (number : Nat) : String := name ++ toString number

/-- The least number from the given one on with which a name is not taken. A name that is found to
be taken is left out from then on, so there are at most as many steps as names in `bound`, which
holds those that are taken at first. -/
def freeNumber (name : String) : (bound taken : List String) → Nat → Nat
  | [], _, number => number
  | _ :: bound, taken, number =>
    let tried := numbered name number
    if tried ∈ taken then freeNumber name bound (taken.erase tried) (number + 1) else number

/-- A name that is not taken: the wanted one, or else that name with the least number from 2 on. -/
def freeName (taken : List String) (wanted : String) : String :=
  if wanted ∉ taken then wanted else numbered wanted (freeNumber wanted taken taken 2)

end Formwright
