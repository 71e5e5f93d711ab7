import Formwright.Json.Record
import Formwright.Json.Skip

/-!
# Text of a known shape

Where it is known what a text should spell, it is checked while it is scanned, so that the first
fault in the text is reported, be it one of its form or one of the value. A record may not name a
field twice, and its unknown members are passed.
-/
namespace Formwright.Json

/-- What a text should spell. -/
inductive Shape where
  | text
  | list (item : Shape)
  | table (item : Shape)
  | optional (inner : Shape)
  | record (form : RecordForm) (required : List String) (fields : List (String × Shape))

namespace Fault

variable {α : Type}

/-- A value that is not what was wanted, with the text left after it. -/
def mismatched (mismatch : Mismatch) (rest : List Char) : Except Fault α :=
  .error ⟨.mismatched mismatch, rest, 0⟩

/-- The fault of a value that starts with the given character where something else was wanted. -/
def unwanted (expected : String) (c : Char) (rest : List Char) : Except Fault α :=
  if c = '[' then mismatched (.wrongType .sequence expected) (c :: rest)
  else if c = '\x7b' then mismatched (.wrongType .map expected) (c :: rest)
  else do
    let (value, rest) ← scalar c rest
    mismatched (.wrongType value.found expected) rest

/-- The text left where a fault of an object is reported: after its closing brace, if that is
what comes next. -/
def afterObject (text : List Char) : List Char :=
  match skipGap text with
  | '\x7d' :: rest => rest
  | other => other

end Fault

/-- What a record that is written as an object is scanned by: how the value under a key of its own
is scanned, and which of its fields must be there. -/
structure Keyed where
  scanField : String → Option (Scan Json)
  required : List String

/-- Scans the members of a record after its opening brace. They are fewer than the characters of
`bound`, `isFirst` says whether none came before, and `done` holds the fields before. -/
def recordMembers (keyed : Keyed) : (bound : List Char) → Bool → Members → Scan Json
  | [], _, _, text => Fault.here .endInObject text
  | _ :: bound, isFirst, done, text => do
    match ← nextKey isFirst text with
    | (none, rest) =>
      match keyed.required.find? fun name => (done.lookup name).isNone with
      | some name => Fault.mismatched (.missingField name) (Fault.afterObject rest)
      | none => .ok (.object done, rest.drop 1)
    | (some key, rest) =>
      match keyed.scanField key with
      | none =>
        let rest ← passColon rest
        recordMembers keyed bound false done (← skipValue rest)
      | some scan =>
        if (done.lookup key).isSome then
          Fault.mismatched (.duplicateField key) (Fault.afterObject rest)
        else do
          let rest ← passColon rest
          let (value, rest) ← scan rest
          recordMembers keyed bound false (insertNamed key value done) rest

/-- Scans the next element of a list where there is one; the closing bracket is left in place. -/
def nextElement (isFirst : Bool) (text : List Char) :
    Except Fault (Option (List Char) × List Char) :=
  match skipGap text with
  | [] => Fault.here .endInList []
  | ']' :: rest => .ok (none, ']' :: rest)
  | c :: rest =>
    if isFirst then .ok (some (c :: rest), [])
    else if c = ',' then
      match skipGap rest with
      | [] => Fault.here .endInValue []
      | ']' :: after => Fault.atNext .trailingComma (']' :: after)
      | other => .ok (some other, [])
    else Fault.atNext .listCommaOrEndWanted (c :: rest)

/-- Scans the closing bracket after the elements of a record that is written as a list. -/
def passListEnd (text : List Char) : Except Fault (List Char) :=
  match skipGap text with
  | [] => Fault.here .endInList []
  | ']' :: rest => .ok rest
  | ',' :: rest =>
    match skipGap rest with
    | ']' :: after => Fault.atNext .trailingComma (']' :: after)
    | other => Fault.atNext .trailingCharacters other
  | other => Fault.atNext .trailingCharacters other

/-- Scans the elements of a record after its opening bracket: one for each of the fields, of which
those at the end may be left out if they are not required. -/
def recordElements (form : RecordForm) (required : List String) :
    List (String × Scan Json) → Bool → Members → Scan Json
  | [], _, done, text => do .ok (.object done, ← passListEnd text)
  | (name, scan) :: later, isFirst, done, text => do
    match ← nextElement isFirst text with
    | (some element, _) =>
      let (value, rest) ← scan element
      recordElements form required later false (insertNamed name value done) rest
    | (none, rest) =>
      if name ∈ required then Fault.mismatched (form.tooShort name) (rest.drop 1)
      else recordElements form required later isFirst done rest

namespace Shape

/-- Scans a value by what it should start with: a reading of the list or object that starts there,
or the fault of anything else. -/
def compound (expected : String) (ofList ofObject : Option (Scan Json)) : Scan Json := fun text =>
  match skipGap text with
  | [] => Fault.here .endInValue []
  | c :: rest =>
    match (if c = '[' then ofList else if c = '\x7b' then ofObject else none) with
    | some scan => scan rest
    | none => Fault.unwanted expected c rest

mutual

/-- Scans a value of a shape. -/
def scan : Shape → Scan Json
  | .text => fun text =>
    match skipGap text with
    | [] => Fault.here .endInValue []
    | '"' :: rest => do
      let (value, rest) ← stringBody rest
      .ok (.string value, rest)
    | c :: rest => Fault.unwanted "a string" c rest
  | .list item =>
    compound "a sequence" (some fun text => do
      let (items, rest) ← listItems (scan item) text [] text
      .ok (.array items, rest)) none
  | .table item =>
    compound "a map" none (some fun text => do
      let (members, rest) ← objectMembers (scan item) text [] text
      .ok (.object (sortNamed members), rest))
  | .optional inner => fun text =>
    match skipGap text with
    | 'n' :: rest => do .ok (.null, ← passWord "ull".toList rest)
    | other => scan inner other
  | .record form required fields =>
    let scanners := scanFields fields
    compound form.title
      (some (recordElements form required scanners true []))
      (some fun text =>
        recordMembers ⟨fun key => scanners.lookup key, required⟩ text true [] text)

/-- The scanners of the fields of a record. -/
def scanFields : List (String × Shape) → List (String × Scan Json)
  | [] => []
  | (name, shape) :: later => (name, scan shape) :: scanFields later

end

/-- Reads a whole text of a shape and takes its value to a domain type. -/
def read {α : Type} (shape : Shape) (reader : Reader α) (text : List Char) : Except Fault α := do
  let value ← wholeText shape.scan text
  (reader value).mapError fun mismatch => ⟨.mismatched mismatch, [], 0⟩

end Shape
end Formwright.Json
