import Formwright.Json.Mismatch

/-!
# Scanning JSON text

A scanner takes the text that is left to what it read and the text left after it, or to a fault. A
fault keeps the text that was left where it arose, so that its line and column can be told from the
whole text. This module has faults, blanks, punctuation and strings.
-/
namespace Formwright.Json

/-- Why a text is no JSON text. -/
inductive Malformation where
  | endInList
  | endInObject
  | endInString
  | endInValue
  | colonWanted
  | listCommaOrEndWanted
  | objectCommaOrEndWanted
  | nameWanted
  | valueWanted
  | invalidEscape
  | invalidNumber
  | numberOutOfRange
  | controlCharacter
  | keyNotString
  | loneSurrogate
  | trailingComma
  | trailingCharacters
  | surrogateUnpaired
  | tooDeep
deriving DecidableEq, Repr

/-- The wording of a malformation. -/
def Malformation.message : Malformation → String
  | .endInList => "EOF while parsing a list"
  | .endInObject => "EOF while parsing an object"
  | .endInString => "EOF while parsing a string"
  | .endInValue => "EOF while parsing a value"
  | .colonWanted => "expected `:`"
  | .listCommaOrEndWanted => "expected `,` or `]`"
  | .objectCommaOrEndWanted => "expected `,` or `\x7d`"
  | .nameWanted => "expected ident"
  | .valueWanted => "expected value"
  | .invalidEscape => "invalid escape"
  | .invalidNumber => "invalid number"
  | .numberOutOfRange => "number out of range"
  | .controlCharacter => "control character (\\u0000-\\u001F) found while parsing a string"
  | .keyNotString => "key must be a string"
  | .loneSurrogate => "lone leading surrogate in hex escape"
  | .trailingComma => "trailing comma"
  | .trailingCharacters => "trailing characters"
  | .surrogateUnpaired => "unexpected end of hex escape"
  | .tooDeep => "recursion limit exceeded"

/-- What is wrong with a text: its form, or the value that it spells. -/
inductive Cause where
  | malformed (malformation : Malformation)
  | mismatched (mismatch : Mismatch)

/-- The wording of a cause. -/
def Cause.message : Cause → String
  | .malformed malformation => malformation.message
  | .mismatched mismatch => mismatch.message

/-- A cause with the place where it arose. -/
structure Fault where
  cause : Cause
  /-- The text that was left. -/
  rest : List Char
  /-- How many bytes of the text that was left count as passed. -/
  ahead : Nat := 0

/-- A scanner. -/
abbrev Scan (α : Type) := List Char → Except Fault (α × List Char)

namespace Fault

variable {α : Type}

/-- A malformation before the text that is left. -/
def here (malformation : Malformation) (rest : List Char) : Except Fault α :=
  .error ⟨.malformed malformation, rest, 0⟩

/-- A malformation a number of bytes into the text that is left. -/
def beyond (malformation : Malformation) (rest : List Char) (ahead : Nat) : Except Fault α :=
  .error ⟨.malformed malformation, rest, ahead⟩

/-- A malformation of the next byte, which counts as passed where there is one. -/
def atNext (malformation : Malformation) (rest : List Char) : Except Fault α :=
  .error ⟨.malformed malformation, rest, if rest.isEmpty then 0 else 1⟩

end Fault

/-! ## Places -/

/-- The number of bytes of a text. -/
def byteLength : List Char → Nat
  | [] => 0
  | c :: rest => c.utf8Size + byteLength rest

/-- The line and column after a number of bytes of a text: lines are counted from one, columns in
bytes since the last line feed. -/
def place : List Char → Nat → Nat × Nat → Nat × Nat
  | [], _, reached => reached
  | c :: rest, bytes, (line, column) =>
    if bytes = 0 then (line, column)
    else if c = '\n' then place rest (bytes - 1) (line + 1, 0)
    else if bytes < c.utf8Size then (line, column + bytes)
    else place rest (bytes - c.utf8Size) (line, column + c.utf8Size)

/-- The line and column of a fault in a text. -/
def Fault.place (fault : Fault) (text : List Char) : Nat × Nat :=
  Json.place text (byteLength text - byteLength fault.rest + fault.ahead) (1, 0)

/-- The wording of a fault in a text. -/
def Fault.message (fault : Fault) (text : List Char) : String :=
  let (line, column) := fault.place text
  fault.cause.message ++ " at line " ++ toString line ++ " column " ++ toString column

/-! ## Blanks and words -/

/-- The blanks between the parts of a JSON text. -/
def isGap (c : Char) : Bool := c == ' ' || c == '\n' || c == '\t' || c == '\r'

/-- The text after its leading blanks. -/
def skipGap (text : List Char) : List Char := text.dropWhile isGap

/-- Passes the characters of a word. -/
def passWord : List Char → List Char → Except Fault (List Char)
  | [], text => .ok text
  | _ :: _, [] => Fault.here .endInValue []
  | wanted :: word, c :: rest =>
    if c = wanted then passWord word rest else Fault.beyond .nameWanted (c :: rest) 1

/-! ## Strings -/

/-- The value of a hexadecimal digit in either case. -/
def hexValue (c : Char) : Option Nat :=
  if '0' ≤ c ∧ c ≤ '9' then some (c.toNat - '0'.toNat)
  else if 'a' ≤ c ∧ c ≤ 'f' then some (c.toNat - 'a'.toNat + 10)
  else if 'A' ≤ c ∧ c ≤ 'F' then some (c.toNat - 'A'.toNat + 10)
  else none

/-- Scans the four hexadecimal digits of an escape. -/
def fourHex (text : List Char) : Except Fault (Nat × List Char) :=
  if byteLength (text.take 4) < 4 then Fault.here .endInString []
  else match (text.take 4).mapM hexValue with
    | some [a, b, c, d] => .ok (((a * 16 + b) * 16 + c) * 16 + d, text.drop 4)
    | _ => Fault.beyond .invalidEscape text 4

/-- Whether a code unit is the first half of a surrogate pair. -/
def isHighSurrogate (unit : Nat) : Bool := 0xD800 ≤ unit && unit ≤ 0xDBFF

/-- Whether a code unit is the second half of a surrogate pair. -/
def isLowSurrogate (unit : Nat) : Bool := 0xDC00 ≤ unit && unit ≤ 0xDFFF

/-- Scans a character of the second half of a pair. -/
def passPairMark (mark : Char) : List Char → Except Fault (List Char)
  | [] => Fault.here .endInString []
  | c :: rest =>
    if c = mark then .ok rest else Fault.beyond .surrogateUnpaired (c :: rest) 1

/-- Scans the digits of an escape and, where they are the first half of a pair, the other half. -/
def unicodeEscape (text : List Char) : Except Fault (Char × List Char) := do
  let (unit, rest) ← fourHex text
  if isLowSurrogate unit then Fault.here .loneSurrogate rest
  else if isHighSurrogate unit then
    let rest ← passPairMark '\\' rest
    let rest ← passPairMark 'u' rest
    let (low, rest) ← fourHex rest
    if isLowSurrogate low then
      .ok (Char.ofNat (0x10000 + (unit - 0xD800) * 0x400 + (low - 0xDC00)), rest)
    else Fault.here .loneSurrogate rest
  else .ok (Char.ofNat unit, rest)

/-- The character that a letter after a reverse solidus stands for. -/
def plainEscape? : Char → Option Char
  | '"' => some '"'
  | '\\' => some '\\'
  | '/' => some '/'
  | 'b' => some '\x08'
  | 'f' => some '\x0c'
  | 'n' => some '\n'
  | 'r' => some '\r'
  | 't' => some '\t'
  | _ => none

/-- Scans the rest of an escape after its reverse solidus. -/
def escape : List Char → Except Fault (Char × List Char)
  | [] => Fault.here .endInString []
  | c :: rest =>
    match plainEscape? c with
    | some meant => .ok (meant, rest)
    | none => if c = 'u' then unicodeEscape rest else Fault.beyond .invalidEscape (c :: rest) 1

/-- Scans the rest of a string after its opening quote: at most as many characters as `bound` has.
`done` holds those before, in reverse. -/
def stringFrom : (bound : List Char) → List Char → List Char → Except Fault (List Char × List Char)
  | _, _, [] => Fault.here .endInString []
  | [], _, text => Fault.here .endInString text
  | _ :: bound, done, c :: rest =>
    if c = '"' then .ok (done.reverse, rest)
    else if c = '\\' then do
      let (meant, rest) ← escape rest
      stringFrom bound (meant :: done) rest
    else if c.toNat < 0x20 then Fault.beyond .controlCharacter (c :: rest) 1
    else stringFrom bound (c :: done) rest

/-- Scans the rest of a string after its opening quote. -/
def stringBody (text : List Char) : Except Fault (String × List Char) := do
  let (chars, rest) ← stringFrom text [] text
  .ok (String.ofList chars, rest)

end Formwright.Json
