import Formwright.Binary64

/-!
# JSON values

Values of the data format that documents, node trees, registries and patches are exchanged in.
Whole numbers are kept apart from floating-point ones, and an object is the list of its members.
A value that was read from text has the members of every object in increasing order of their keys,
each key once; the values that this library writes itself keep the order in which it writes them.
-/
namespace Formwright

/-- A JSON value. -/
inductive Json where
  | null
  | bool (value : Bool)
  /-- A number written without fraction and exponent that fits in 64 bits. -/
  | integer (value : Int)
  /-- Any other number. -/
  | float (value : Binary64)
  | string (value : String)
  | array (items : List Json)
  | object (members : List (String × Json))
deriving Repr, Inhabited, BEq

/-- The members of an object. -/
abbrev Members := List (String × Json)

namespace Json

/-- What the value is, in one word. -/
def kindName : Json → String
  | .null => "null"
  | .bool _ => "boolean"
  | .integer _ | .float _ => "number"
  | .string _ => "string"
  | .array _ => "array"
  | .object _ => "object"

/-- The text of a string value. -/
def string? : Json → Option String
  | .string value => some value
  | _ => none

/-- The items of an array. -/
def items? : Json → Option (List Json)
  | .array items => some items
  | _ => none

/-- The members of an object. -/
def members? : Json → Option Members
  | .object members => some members
  | _ => none

/-- A whole number that is not negative and fits in 64 bits. -/
def natural? : Json → Option Nat
  | .integer (.ofNat value) => if value < 0x10000000000000000 then some value else none
  | _ => none

/-- The value under a key of an object. -/
def get? (value : Json) (key : String) : Option Json := value.members?.bind (·.lookup key)

/-- A natural number as a value. -/
def ofNat (value : Nat) : Json := .integer value

/-- A text as a value, or null where there is none. -/
def ofText? (text : Option String) : Json := (text.map Json.string).getD .null

end Json

/-- A list of named values in increasing order of their names with one more put in, in place of
any value that had its name. -/
def insertNamed {α : Type} (name : String) (value : α) : List (String × α) → List (String × α)
  | [] => [(name, value)]
  | (other, held) :: rest =>
    if name = other then (name, value) :: rest
    else if name < other then (name, value) :: (other, held) :: rest
    else (other, held) :: insertNamed name value rest

/-- Named values in increasing order of their names; of several values with one name the last
stays. -/
def sortNamed {α : Type} (entries : List (String × α)) : List (String × α) :=
  entries.foldl (fun sorted entry => insertNamed entry.1 entry.2 sorted) []

end Formwright
