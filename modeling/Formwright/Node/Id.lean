import Formwright.Digest.Sha256
import Formwright.Json.Scan

/-!
# Node ids

An id is a universally unique identifier: 32 hexadecimal digits, printed in groups of 8, 4, 4, 4
and 12. It is also read from the 32 digits without hyphens, from the groups between braces and from
the groups after `urn:uuid:`.
-/
namespace Formwright

/-- A universally unique identifier. -/
structure NodeId where
  /-- The digits, the most significant first. -/
  digits : List (Fin 16)
  length_digits : digits.length = 32
deriving DecidableEq, Repr

namespace NodeId

/-- The hexadecimal digit with the value of a number modulo 16. -/
def digitOf (value : Nat) : Fin 16 := ⟨value % 16, Nat.mod_lt value (by decide)⟩

/-- The sizes of the groups that digits are printed in. -/
def groupSizes : List Nat := [8, 4, 4, 4, 12]

/-- Consecutive groups of a list. -/
def groups {α : Type} : List Nat → List α → List (List α)
  | [], _ => []
  | size :: sizes, items => items.take size :: groups sizes (items.drop size)

/-- The digits of an id as characters. -/
def hexDigits (nodeId : NodeId) : List Char :=
  nodeId.digits.map fun digit => Json.hexDigit digit.val

/-- The printed form of an id. -/
def print (nodeId : NodeId) : String :=
  String.ofList (['-'].intercalate (groups groupSizes nodeId.hexDigits))

/-- The value of a hexadecimal digit in either case. -/
def hexValue? (c : Char) : Option (Fin 16) := (Json.hexValue c).map digitOf

/-- The id of 32 digits. -/
def ofDigits? (digits : List (Fin 16)) : Option NodeId :=
  if length_digits : digits.length = 32 then some ⟨digits, length_digits⟩ else none

/-- The id of 32 hexadecimal digits without hyphens. -/
def ofPlain? (text : List Char) : Option NodeId := do ofDigits? (← text.mapM hexValue?)

/-- The id of 32 hexadecimal digits in hyphenated groups. -/
def ofHyphenated? (text : List Char) : Option NodeId :=
  let hyphens := [8, 13, 18, 23]
  if text.length = 36 ∧ hyphens.all fun place => text[place]? == some '-' then
    ofPlain? (groups [8, 1, 4, 1, 4, 1, 4, 1, 12] text
      |>.filter (fun group => group.length ≠ 1) |>.flatten)
  else none

/-- What an id may be introduced by, in any case. -/
def scheme : List Char := "urn:uuid:".toList

/-- The id that a text spells. -/
def parse? (text : String) : Option NodeId :=
  let chars := text.toList
  if chars.length = 32 then ofPlain? chars
  else if chars.length = 36 then ofHyphenated? chars
  else if chars.length = 38 ∧ chars.head? = some '\x7b' ∧ chars.getLast? = some '\x7d' then
    ofHyphenated? (chars.drop 1).dropLast
  else if chars.length = 45 ∧ (chars.take 9).map Char.toLower = scheme then
    ofHyphenated? (chars.drop 9)
  else none

/-- The version of an id, which is its thirteenth digit. -/
def version (nodeId : NodeId) : Fin 16 :=
  nodeId.digits.get ⟨12, by rw [nodeId.length_digits]; decide⟩

/-- Whether a text of 36 bytes spells an id of version 4. -/
def isVersion4 (text : String) : Bool :=
  text.utf8ByteSize == 36 && (parse? text).any (·.version.val == 4)

/-- Half bytes with the version and the layout of a random id of version 4 put in. -/
def stamp (digits : List (Fin 16)) : List (Fin 16) :=
  (digits.modify 12 fun _ => digitOf 4).modify 16 fun digit => digitOf (8 + digit.val % 4)

/-- Stamping keeps the number of half bytes. -/
theorem length_stamp (digits : List (Fin 16)) : (stamp digits).length = digits.length := by
  simp [stamp]

/-- The id of version 4 that a text determines: the start of its digest, stamped. -/
def derived (seed : String) : NodeId where
  digits := stamp ((Sha256.digestText seed).take 32)
  length_digits := by
    simp [length_stamp, Sha256.digestText, Sha256.length_digest]

end NodeId
end Formwright
