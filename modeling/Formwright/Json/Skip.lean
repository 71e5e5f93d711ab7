import Formwright.Json.Parser

/-!
# Passing values that nobody reads

The value of a member that a record does not know is passed without being built. Its form is
checked, but neither the size of its numbers nor the pairing of surrogates in its strings, and it
may be nested to any depth.
-/
namespace Formwright.Json

/-- Passes the rest of a string after its opening quote: at most as many characters as `bound`
has. -/
def skipString : (bound : List Char) → List Char → Except Fault (List Char)
  | _, [] => Fault.here .endInString []
  | [], text => Fault.here .endInString text
  | _ :: bound, c :: rest =>
    if c = '"' then .ok rest
    else if c = '\\' then
      match rest with
      | 'u' :: after => do
        let (_, after) ← fourHex after
        skipString bound after
      | _ => do
        let (_, after) ← escape rest
        skipString bound after
    else if c.toNat < 0x20 then Fault.here .controlCharacter (c :: rest)
    else skipString bound rest

/-- Passes an exponent after its letter. -/
def skipExponent (text : List Char) : Except Fault (List Char) :=
  let text := if text.head? == some '-' || text.head? == some '+' then text.drop 1 else text
  match text with
  | [] => Fault.here .invalidNumber []
  | c :: rest =>
    if c.isDigit then .ok (rest.dropWhile Char.isDigit)
    else Fault.beyond .invalidNumber (c :: rest) 1

/-- Passes an exponent where there is one. -/
def skipExponentOrEnd : List Char → Except Fault (List Char)
  | 'e' :: rest => skipExponent rest
  | 'E' :: rest => skipExponent rest
  | text => .ok text

/-- Passes a fraction, where there is one, and what follows it. -/
def skipFractionOrEnd : List Char → Except Fault (List Char)
  | '.' :: rest =>
    let (digits, after) := spanDigits rest
    if digits.isEmpty then Fault.atNext .invalidNumber after else skipExponentOrEnd after
  | text => skipExponentOrEnd text

/-- Passes a number after its sign. -/
def skipNumber : List Char → Except Fault (List Char)
  | [] => Fault.here .invalidNumber []
  | c :: rest =>
    if c = '0' then
      if (rest.head?.any Char.isDigit) then Fault.atNext .invalidNumber rest
      else skipFractionOrEnd rest
    else if c.isDigit then skipFractionOrEnd (rest.dropWhile Char.isDigit)
    else Fault.beyond .invalidNumber (c :: rest) 1

/-- A list or an object that is open around a value. -/
inductive Enclosure where
  | list
  | object
deriving DecidableEq

namespace Enclosure

/-- The character that closes it. -/
def closer : Enclosure → Char
  | .list => ']'
  | .object => '\x7d'

/-- The malformation of a text that ends inside it. -/
def unfinished : Enclosure → Malformation
  | .list => .endInList
  | .object => .endInObject

/-- The malformation of an element that neither a comma nor the closer follows. -/
def commaOrEndWanted : Enclosure → Malformation
  | .list => .listCommaOrEndWanted
  | .object => .objectCommaOrEndWanted

/-- Passes what stands before the value of an element: the key and the colon in an object. -/
def passKey : Enclosure → List Char → Except Fault (List Char)
  | .list, text => .ok text
  | .object, text =>
    match skipGap text with
    | [] => Fault.here .endInObject []
    | '"' :: rest => do
      let rest ← skipString rest rest
      match skipGap rest with
      | [] => Fault.here .endInObject []
      | ':' :: after => .ok after
      | other => Fault.atNext .colonWanted other
    | other => Fault.atNext .keyNotString other

end Enclosure

/-- Closes enclosures as long as their closers follow, and passes the comma after a finished
element; the result is the enclosures that are still open. -/
def skipClosers : List Enclosure → Bool → List Char → Except Fault (List Enclosure × List Char)
  | [], _, text => .ok ([], text)
  | inner :: outer, finished, text =>
    match skipGap text with
    | [] => Fault.here inner.unfinished []
    | c :: rest =>
      if c = inner.closer then skipClosers outer true rest
      else if !finished then .ok (inner :: outer, c :: rest)
      else if c = ',' then .ok (inner :: outer, rest)
      else Fault.atNext inner.commaOrEndWanted (c :: rest)

/-- Passes the start of a value: all of it, or the opening character of a list or an object. The
result is the enclosures that are then open and whether a value was finished. -/
def skipStart (enclosures : List Enclosure) (text : List Char) :
    Except Fault (List Enclosure × Bool × List Char) :=
  match skipGap text with
  | [] => Fault.here .endInValue []
  | c :: rest =>
    if c = '[' then .ok (.list :: enclosures, false, rest)
    else if c = '\x7b' then .ok (.object :: enclosures, false, rest)
    else if c = '-' then (skipNumber rest).map (enclosures, true, ·)
    else if c.isDigit then (skipNumber (c :: rest)).map (enclosures, true, ·)
    else if c = '"' then (skipString rest rest).map (enclosures, true, ·)
    else (scalar c rest).map fun scanned => (enclosures, true, scanned.2)

/-- Passes a value inside some enclosures and all that follows until they are closed: at most as
many values as `bound` has characters. -/
def skipFrom : (bound : List Char) → List Enclosure → List Char → Except Fault (List Char)
  | [], _, text => Fault.here .endInValue text
  | _ :: bound, enclosures, text => do
    let (enclosures, finished, rest) ← skipStart enclosures text
    match ← skipClosers enclosures finished rest with
    | ([], rest) => .ok rest
    | (inner :: outer, rest) => skipFrom bound (inner :: outer) (← inner.passKey rest)

/-- Passes a value. -/
def skipValue (text : List Char) : Except Fault (List Char) := skipFrom text [] text

end Formwright.Json
