import Formwright.Json.Printer
import Formwright.Text.Printable

/-!
# Why a value is not the document it should be

Readers of documents name what they met and what they wanted. The wording of every such mismatch
is here and nowhere else.
-/
namespace Formwright.Json

/-- What a reader meets where it wants something else. -/
inductive Found where
  | null
  | bool (value : Bool)
  | integer (value : Int)
  | float (value : Binary64)
  | text (value : String)
  | sequence
  | map

/-- Why a value is not read. -/
inductive Mismatch where
  /-- A value of another kind. -/
  | wrongType (found : Found) (expected : String)
  /-- A value of the kind wanted that is out of range. -/
  | wrongValue (found : Found) (expected : String)
  /-- A list with too few or too many elements. -/
  | wrongLength (length : Nat) (expected : String)
  | missingField (name : String)
  | duplicateField (name : String)
  /-- A name that is not among those of an enumeration. -/
  | unknownVariant (name : String) (known : List String)

/-- What a value is to a reader that does not want it. -/
def found : Json → Found
  | .null => .null
  | .bool value => .bool value
  | .integer value => .integer value
  | .float value => .float value
  | .string value => .text value
  | .array _ => .sequence
  | .object _ => .map

/-- The hexadecimal digits of a number, in lower case and without leading zeros. -/
def hexText (value : Nat) : List Char := Nat.toDigits 16 value

/-- A character as a message shows it between quotes. -/
def showChar (c : Char) : List Char :=
  if c == '\x00' then ['\\', '0']
  else if c == '\t' then ['\\', 't']
  else if c == '\r' then ['\\', 'r']
  else if c == '\n' then ['\\', 'n']
  else if c == '"' then ['\\', '"']
  else if c == '\\' then ['\\', '\\']
  else if Text.isPrintable c then [c]
  else ['\\', 'u', '\x7b'] ++ hexText c.toNat ++ ['\x7d']

/-- A text as a message shows it: in quotes, with what is not printable escaped. -/
def showText (text : String) : String :=
  String.ofList ('"' :: text.toList.flatMap showChar ++ ['"'])

/-- A name between grave accents. -/
def ticked (name : String) : String := "`" ++ name ++ "`"

/-- The wording of what was met. -/
def Found.message : Found → String
  | .null => "null"
  | .bool value => "boolean " ++ ticked (if value then "true" else "false")
  | .integer value => "integer " ++ ticked (toString value)
  | .float value => "floating point " ++ ticked (floatText value)
  | .text value => "string " ++ showText value
  | .sequence => "sequence"
  | .map => "map"

/-- The wording of the names that were possible. -/
def choicesMessage : List String → String
  | [] => "there are no variants"
  | [name] => "expected " ++ ticked name
  | [first, second] => "expected " ++ ticked first ++ " or " ++ ticked second
  | names => "expected one of " ++ ", ".intercalate (names.map ticked)

/-- The wording of a mismatch. -/
def Mismatch.message : Mismatch → String
  | .wrongType found expected => "invalid type: " ++ found.message ++ ", expected " ++ expected
  | .wrongValue found expected => "invalid value: " ++ found.message ++ ", expected " ++ expected
  | .wrongLength length expected =>
    "invalid length " ++ toString length ++ ", expected " ++ expected
  | .missingField name => "missing field " ++ ticked name
  | .duplicateField name => "duplicate field " ++ ticked name
  | .unknownVariant name known =>
    "unknown variant " ++ ticked name ++ ", " ++ choicesMessage known

end Formwright.Json
