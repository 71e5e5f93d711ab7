import Formwright.Json.Basic
import Formwright.Json.Quoted

/-!
# The compact text of a JSON value

A value is written without blanks, the members of an object in the order of their list. A whole
number is written in decimal digits; any other number in the fewest digits that read back, always
with a fraction or an exponent.
-/
namespace Formwright.Json

/-- Where numbers are written without an exponent: from `10 ^ lowest` up to, and not including,
`10 ^ (highest + 1)`. -/
structure NumberFormat where
  lowest : Int
  highest : Int

/-- Exponents from -5 to 15 are written out in places. -/
def numberFormat : NumberFormat := ⟨-5, 15⟩

/-- The text of decimal digits. -/
def digitText (digits : List Nat) : String := String.ofList (digits.map hexDigit)

/-- The text of digits with their point in place: at least one digit on either side of it. -/
def pointedText (number : Binary64.Digits) : String :=
  let count := number.digits.length
  match number.point with
  | .ofNat places =>
    if places = 0 then "0." ++ digitText number.digits
    else if count ≤ places then
      digitText (number.digits ++ List.replicate (places - count) 0) ++ ".0"
    else digitText (number.digits.take places) ++ "." ++ digitText (number.digits.drop places)
  | .negSucc places => "0." ++ digitText (List.replicate (places + 1) 0 ++ number.digits)

/-- The text of digits with one before the point and an exponent with its sign. -/
def exponentText (number : Binary64.Digits) (exponent : Int) : String :=
  let fraction := number.digits.drop 1
  digitText (number.digits.take 1) ++ (if fraction.isEmpty then "" else "." ++ digitText fraction)
    ++ "e" ++ (if exponent < 0 then "-" else "+") ++ toString exponent.natAbs

/-- The text of a floating-point number. -/
def floatText (value : Binary64) : String :=
  let sign := if value.negative then "-" else ""
  if value.isZero then sign ++ "0.0"
  else
    let number := value.shortest
    let exponent := number.point - 1
    sign ++
      if numberFormat.lowest ≤ exponent && exponent ≤ numberFormat.highest then pointedText number
      else exponentText number exponent

mutual

/-- The compact text of a value. -/
def render : Json → String
  | .null => "null"
  | .bool value => if value then "true" else "false"
  | .integer value => toString value
  | .float value => floatText value
  | .string value => quote value
  | .array items => "[" ++ renderItems items ++ "]"
  | .object members => "\x7b" ++ renderMembers members ++ "\x7d"

/-- Items with commas between them. -/
def renderItems : List Json → String
  | [] => ""
  | [item] => render item
  | item :: rest => render item ++ "," ++ renderItems rest

/-- Members with commas between them. -/
def renderMembers : List (String × Json) → String
  | [] => ""
  | [(key, value)] => quote key ++ ":" ++ render value
  | (key, value) :: rest => quote key ++ ":" ++ render value ++ "," ++ renderMembers rest

end

end Formwright.Json
