import Formwright.Json.Mismatch
import Formwright.Vocabulary

/-!
# Readers of typed values

A reader takes a JSON value to a value of a domain type or says why it cannot. This module has the
readers of simple values and of their collections; records are read field by field in
`Formwright.Json.Record`.
-/
namespace Formwright.Json

/-- A reader of values of one type. -/
abbrev Reader (α : Type) := Json → Except Mismatch α

namespace Reader

variable {α : Type}

/-- Reads any value. -/
def any : Reader Json := .ok

/-- Reads a text. -/
def text : Reader String
  | .string value => .ok value
  | other => .error (.wrongType other.found "a string")

/-- Reads a truth value. -/
def bool : Reader Bool
  | .bool value => .ok value
  | other => .error (.wrongType other.found "a boolean")

/-- Reads a whole number below a bound, which `expected` names. -/
def natural (bound : Nat) (expected : String) : Reader Nat
  | .integer value =>
    if 0 ≤ value && value < bound then .ok value.toNat
    else .error (.wrongValue (.integer value) expected)
  | other => .error (.wrongType other.found expected)

/-- Reads a whole number of 8 bits. -/
def uint8 (value : Json) : Except Mismatch UInt8 :=
  (natural 0x100 "u8" value).map UInt8.ofNat

/-- Reads a whole number of 32 bits. -/
def uint32 (value : Json) : Except Mismatch UInt32 :=
  (natural 0x100000000 "u32" value).map UInt32.ofNat

/-- Reads a whole number of 64 bits. -/
def uint64 (value : Json) : Except Mismatch UInt64 :=
  (natural 0x10000000000000000 "u64" value).map UInt64.ofNat

/-- Reads a value that may be null. -/
def optional (reader : Reader α) : Reader (Option α)
  | .null => .ok none
  | value => (reader value).map some

/-- Reads a list. -/
def list (item : Reader α) : Reader (List α)
  | .array items => items.mapM item
  | other => .error (.wrongType other.found "a sequence")

/-- Reads an object whose members are all of one type. -/
def table (item : Reader α) : Reader (List (String × α))
  | .object members => members.mapM fun (key, value) => (item value).map (key, ·)
  | other => .error (.wrongType other.found "a map")

/-- Reads an object as it is. -/
def members : Reader Members
  | .object members => .ok members
  | other => .error (.wrongType other.found "a map")

/-- What may stand beside a word that is written as the only key of an object. -/
inductive WordValue where
  /-- Null only. -/
  | null
  /-- Null or an object without members. -/
  | nullOrEmpty

/-- Whether a value may stand beside a word. -/
def WordValue.admits : WordValue → Json → Bool
  | _, .null => true
  | .nullOrEmpty, .object [] => true
  | _, _ => false

/-- Finds a word in its vocabulary. -/
def knownWord (α : Type) [Vocabulary α] (name : String) : Except Mismatch α :=
  match Vocabulary.ofWord? name with
  | some member => .ok member
  | none => .error (.unknownVariant name (Vocabulary.words α))

/-- Reads a word of a vocabulary, written as a text or as the only key of an object. -/
def word (α : Type) [Vocabulary α] (beside : WordValue := .null) : Reader α
  | .string name => knownWord α name
  | .object [(name, value)] => do
    let member ← knownWord α name
    if beside.admits value then .ok member else .error (.wrongType value.found "unit")
  | .object _ => .error (.wrongValue .map "map with a single key")
  | other => .error (.wrongType other.found "string or map")

end Reader

end Formwright.Json
