import Formwright.Json.Numeral

/-!
# The JSON value that a text spells

Of several members of an object with one key the last counts. Values may be nested up to a limit.
-/
namespace Formwright.Json

variable {α : Type}

/-- Scans the elements of a list after its opening bracket, up to and with the closing one. They are
fewer than the characters of `bound`, and `done` holds those before, in reverse. -/
def listItems (item : Scan α) : (bound : List Char) → List α → Scan (List α)
  | [], _, text => Fault.here .endInList text
  | _ :: bound, done, text =>
    match skipGap text with
    | [] => Fault.here .endInList []
    | ']' :: rest => .ok (done.reverse, rest)
    | c :: rest =>
      if done.isEmpty then do
        let (value, rest) ← item (c :: rest)
        listItems item bound (value :: done) rest
      else if c = ',' then
        match skipGap rest with
        | [] => Fault.here .endInValue []
        | ']' :: after => Fault.atNext .trailingComma (']' :: after)
        | text => do
          let (value, rest) ← item text
          listItems item bound (value :: done) rest
      else Fault.atNext .listCommaOrEndWanted (c :: rest)

/-- Scans the blanks and the colon after a key. -/
def passColon (text : List Char) : Except Fault (List Char) :=
  match skipGap text with
  | [] => Fault.here .endInObject []
  | ':' :: rest => .ok rest
  | other => Fault.atNext .colonWanted other

/-- Scans the quoted key of a member that is not the closing brace. -/
def quotedKey : List Char → Except Fault (String × List Char)
  | [] => Fault.here .endInValue []
  | '"' :: rest => stringBody rest
  | '\x7d' :: rest => Fault.atNext .trailingComma ('\x7d' :: rest)
  | other => Fault.atNext .keyNotString other

/-- Scans the key of the next member, or the closing brace, which it leaves in place. -/
def nextKey (isFirst : Bool) (text : List Char) : Except Fault (Option String × List Char) :=
  match skipGap text with
  | [] => Fault.here .endInObject []
  | '\x7d' :: rest => .ok (none, '\x7d' :: rest)
  | c :: rest =>
    if isFirst then do
      let (key, rest) ← quotedKey (c :: rest)
      .ok (some key, rest)
    else if c = ',' then do
      let (key, rest) ← quotedKey (skipGap rest)
      .ok (some key, rest)
    else Fault.atNext .objectCommaOrEndWanted (c :: rest)

/-- Scans the members of an object after its opening brace, up to and with the closing one. They are
fewer than the characters of `bound`, and `done` holds those before, in reverse. -/
def objectMembers (item : Scan α) :
    (bound : List Char) → List (String × α) → Scan (List (String × α))
  | [], _, text => Fault.here .endInObject text
  | _ :: bound, done, text => do
    match ← nextKey done.isEmpty text with
    | (none, rest) => .ok (done.reverse, rest.drop 1)
    | (some key, rest) =>
      let rest ← passColon rest
      let (value, rest) ← item rest
      objectMembers item bound ((key, value) :: done) rest

/-- Scans a value that is no list and no object and starts with the given character. -/
def scalar (c : Char) (rest : List Char) : Except Fault (Json × List Char) :=
  if c = 'n' then return (.null, ← passWord "ull".toList rest)
  else if c = 't' then return (.bool true, ← passWord "rue".toList rest)
  else if c = 'f' then return (.bool false, ← passWord "alse".toList rest)
  else if c = '-' then number true rest
  else if c.isDigit then number false (c :: rest)
  else if c = '"' then do
    let (text, rest) ← stringBody rest
    .ok (.string text, rest)
  else Fault.atNext .valueWanted (c :: rest)

/-- Scans a value in which lists and objects are nested at most `depth` deep. -/
def value : Nat → Scan Json
  | depth, text =>
    match skipGap text with
    | [] => Fault.here .endInValue []
    | '[' :: rest =>
      match depth with
      | 0 => Fault.atNext .tooDeep ('[' :: rest)
      | depth + 1 => do
        let (items, rest) ← listItems (value depth) rest [] rest
        .ok (.array items, rest)
    | '\x7b' :: rest =>
      match depth with
      | 0 => Fault.atNext .tooDeep ('\x7b' :: rest)
      | depth + 1 => do
        let (members, rest) ← objectMembers (value depth) rest [] rest
        .ok (.object (sortNamed members), rest)
    | c :: rest => scalar c rest

/-- How deep values may be nested in a text that is read as a whole. -/
def maxDepth : Nat := 127

/-- Reads a whole text with a scanner; only blanks may follow what it scans. -/
def wholeText (scan : Scan α) (text : List Char) : Except Fault α := do
  let (result, rest) ← scan text
  match skipGap rest with
  | [] => .ok result
  | other => Fault.atNext .trailingCharacters other

/-- The value that a text spells, with values nested at most `depth` deep. -/
def parse (text : String) (depth : Nat := maxDepth) : Except Fault Json :=
  wholeText (value depth) text.toList

end Formwright.Json
