import Formwright.Json.Reader

/-!
# Records

A record has named fields. It is written as an object, whose further members are ignored, or as the
list of its fields in their order, from which fields at the end may be left out. `Fields` reads the
fields of a record one by one and notes everything that is wrong with them; of several faults the
one of the field written first is reported, and a missing field only where no field is at fault.
-/
namespace Formwright.Json

/-- How a record is called and what its fields are called, in their order. -/
structure RecordForm where
  /-- The name of the record in messages. -/
  title : String
  /-- The names of the fields. -/
  names : List String
  /-- Whether the record is a part of a tagged value, where an excess of fields is worded
  differently. -/
  tagged : Bool := false

namespace RecordForm

/-- A count with its noun. -/
def countText (count : Nat) (noun : String) : String :=
  toString count ++ " " ++ noun ++ (if count = 1 then "" else "s")

/-- The fault of a list of fields that ends before a field that it must have. -/
def tooShort (form : RecordForm) (name : String) : Mismatch :=
  .wrongLength (form.names.idxOf name)
    (form.title ++ " with " ++ countText form.names.length "element")

/-- The fault of a list of fields with more elements than the record has fields. -/
def tooLong (form : RecordForm) (length : Nat) : Mismatch :=
  .wrongLength length
    (if form.tagged then countText form.names.length "element" ++ " in sequence"
      else "fewer elements in array")

end RecordForm

/-- The fields that a record is written with, in the order in which they are written. -/
structure Record where
  /-- The values of the fields that are present, with other members of the object among them. -/
  entries : Members
  /-- The fault of leaving out a field. -/
  missing : String → Mismatch

namespace Record

/-- A record written as an object. -/
def keyed (members : Members) : Record := ⟨members, .missingField⟩

/-- A record written as a list. -/
def listed (form : RecordForm) (items : List Json) : Record :=
  ⟨form.names.zip items, form.tooShort⟩

end Record

/-- What is wrong with the fields of a record. -/
structure FieldFaults where
  /-- The fields whose values are not what they should be. -/
  bad : List (String × Mismatch)
  /-- The fields that are left out and must not be, in the order of the record. -/
  absent : List String

namespace FieldFaults

/-- The faults of two groups of fields. -/
def append (left right : FieldFaults) : FieldFaults :=
  ⟨left.bad ++ right.bad, left.absent ++ right.absent⟩

/-- The fault to report: that of the first field written that has one, else the first absence. -/
def report (faults : FieldFaults) (record : Record) : Mismatch :=
  match record.entries.findSome? fun entry => faults.bad.lookup entry.1 with
  | some mismatch => mismatch
  | none => record.missing (faults.absent.headD "")

end FieldFaults

/-- A reader of some fields of a record. -/
def Fields (α : Type) := Record → Except FieldFaults α

namespace Fields

variable {α β : Type}

instance : Applicative Fields where
  pure value := fun _ => .ok value
  seq function argument := fun record =>
    match function record, argument () record with
    | .ok apply, .ok value => .ok (apply value)
    | .error first, .error second => .error (first.append second)
    | .error faults, .ok _ => .error faults
    | .ok _, .error faults => .error faults

/-- A field that takes a value of its own when it is left out. -/
def withDefault (name : String) (absent : α) (reader : Reader α) : Fields α := fun record =>
  match record.entries.lookup name with
  | none => .ok absent
  | some value => (reader value).mapError fun mismatch => ⟨[(name, mismatch)], []⟩

/-- A field that must be there. -/
def required (name : String) (reader : Reader α) : Fields α := fun record =>
  match record.entries.lookup name with
  | none => .error ⟨[], [name]⟩
  | some value => (reader value).mapError fun mismatch => ⟨[(name, mismatch)], []⟩

/-- A field that may be left out or null. -/
def optional (name : String) (reader : Reader α) : Fields (Option α) :=
  withDefault name none reader.optional

/-- Reads the fields of a record, reporting one fault. -/
def run (fields : Fields α) (record : Record) : Except Mismatch α :=
  (fields record).mapError (·.report record)

end Fields

/-- Reads a record in either way of writing it. -/
def Reader.record {α : Type} (form : RecordForm) (fields : Fields α) : Reader α
  | .object members => fields.run (.keyed members)
  | .array items => do
    let value ← fields.run (.listed form items)
    if form.names.length < items.length then .error (form.tooLong items.length) else .ok value
  | other => .error (.wrongType other.found form.title)

/-! ## Tagged values

A tagged value names its variant in a field of its own, or as the first element where it is written
as a list; the other fields are those of the variant.
-/

/-- How the variants of a tagged value are told apart. -/
structure TagForm where
  /-- The name of the tagged value in messages. -/
  title : String
  /-- The field that holds the name of the variant. -/
  tag : String
  /-- The names of the variants, in their order. -/
  names : List String
  /-- Whether a variant may also be given by its place among the names. -/
  byPlace : Bool := false

namespace TagForm

/-- Reads the name of a variant. -/
def variant (form : TagForm) : Reader String
  | .string name =>
    if name ∈ form.names then .ok name else .error (.unknownVariant name form.names)
  | .integer value =>
    match form.byPlace, form.names[value.toNat]? with
    | true, some name =>
      if 0 ≤ value then .ok name else .error (.wrongType (.integer value) "variant identifier")
    | _, _ => .error (.wrongType (.integer value) "variant identifier")
  | other => .error (.wrongType other.found "variant identifier")

/-- Reads the name of the variant and gives what is left to read of the value. -/
def split (form : TagForm) : Json → Except Mismatch (String × Json)
  | .object members =>
    match members.lookup form.tag with
    | none => .error (.missingField form.tag)
    | some tag => (form.variant tag).map (·, .object members)
  | .array [] => .error (.missingField form.tag)
  | .array (tag :: items) => (form.variant tag).map (·, .array items)
  | other => .error (.wrongType other.found form.title)

end TagForm

end Formwright.Json
