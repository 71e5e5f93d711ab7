import Formwright.Json.Basic
import Formwright.Text.Words

/-!
# JSON pointers

A pointer names a place in a JSON value (RFC 6901): each step into an object or a list adds a slash
and the key or the index. In a key, a tilde is written `~0` and a slash `~1`.
-/
namespace Formwright.Pointer

/-- A character of a key as it stands in a pointer. -/
def escapeChar (c : Char) : List Char :=
  if c == '~' then ['~', '0'] else if c == '/' then ['~', '1'] else [c]

/-- A key as it stands in a pointer. -/
def escape (key : String) : String := String.ofList (key.toList.flatMap escapeChar)

/-- The pointer to the value under a key of the value that a pointer names. -/
def push (base key : String) : String := base ++ "/" ++ escape key

/-- The pointer to an item of the list that a pointer names. -/
def index (base : String) (place : Nat) : String := base ++ "/" ++ toString place

end Formwright.Pointer
