import Formwright.Proofs.Json.Record

/-!
# What readers read, faults aside

What a value is read as, if it is read at all, without the fault that is reported otherwise. Of a
record this depends only on what the values under the names of its fields are read as, and of a list
on what its items are read as.
-/
namespace Formwright.Json

variable {α β : Type}

/-- What a reader takes a value for, if it takes it. -/
def Reader.read? (reader : Reader α) (value : Json) : Option α := (reader value).toOption

namespace Fields

/-- What a group of fields of a record is read as, if it is read. -/
def read? (fields : Fields α) (record : Record) : Option α := (fields record).toOption

variable (record : Record)

/-- A group of no fields is read as the value that it is made of. -/
@[simp]
theorem read?_pure (value : α) : (pure value : Fields α).read? record = some value := rfl

/-- Two groups of fields are read if both are, and the first one is applied to the second. -/
@[simp]
theorem read?_seq (functions : Fields (α → β)) (fields : Fields α) :
    (functions <*> fields).read? record =
      (functions.read? record).bind fun apply => (fields.read? record).map apply := by
  unfold read?
  simp only [Seq.seq]
  cases functions record <;> cases fields record <;> rfl

/-- What a group of fields is read as may be changed before or after it is read. -/
@[simp]
theorem read?_map (apply : α → β) (fields : Fields α) :
    (apply <$> fields).read? record = (fields.read? record).map apply :=
  read?_seq record (pure apply) fields

/-- A field that must be there is read as what stands under its name is. -/
@[simp]
theorem read?_required (name : String) (reader : Reader α) :
    (required name reader).read? record =
      ((record.entries.lookup name).map reader.read?).getD none := by
  unfold read? required
  cases record.entries.lookup name with
  | none => rfl
  | some value =>
    simp only [Option.map_some, Option.getD_some, Reader.read?]
    cases reader value <;> rfl

/-- A field with a default is read as what stands under its name is, or else as its default. -/
@[simp]
theorem read?_withDefault (name : String) (absent : α) (reader : Reader α) :
    (withDefault name absent reader).read? record =
      ((record.entries.lookup name).map reader.read?).getD (some absent) := by
  unfold read? withDefault
  cases record.entries.lookup name with
  | none => rfl
  | some value =>
    simp only [Option.map_some, Option.getD_some, Reader.read?]
    cases reader value <;> rfl

/-- A field that may be left out or null is read as what stands under its name is. -/
@[simp]
theorem read?_optional (name : String) (reader : Reader α) :
    (optional name reader).read? record =
      ((record.entries.lookup name).map reader.optional.read?).getD (some none) :=
  read?_withDefault record name none reader.optional

end Fields

namespace Reader

/-- A record that is written as an object is read as its fields are. -/
@[simp]
theorem read?_record (form : RecordForm) (fields : Fields α) (members : Members) :
    (record form fields).read? (.object members) = fields.read? (.keyed members) := by
  unfold read? Fields.read?
  simp only [record, Fields.run]
  cases fields (.keyed members) <;> rfl

/-- A value other than null is read alike where null may stand for it. -/
theorem read?_optional (reader : Reader α) {value : Json} (present : value ≠ .null) :
    reader.optional.read? value = (reader.read? value).map some := by
  unfold read?
  cases value with
  | null => contradiction
  | _ => simp only [Reader.optional]; cases reader _ <;> rfl

/-- A list is read as its items are. -/
theorem read?_list_array (reader : Reader α) (items : List Json) :
    (list reader).read? (.array items) = items.mapM reader.read? := by
  unfold read?
  simp only [list]
  induction items with
  | nil => rfl
  | cons item later ih =>
    rw [List.mapM_cons, List.mapM_cons, ← ih]
    cases reader item with
    | error mismatch => rfl
    | ok value => cases later.mapM reader <;> rfl

end Reader

/-- What the tag of an object names, if it names a variant. -/
def TagForm.named? (form : TagForm) (members : Members) : Option String :=
  (members.lookup form.tag).bind (Reader.read? form.variant)

/-- A tagged value that is written as an object is read as the variant that its tag names. -/
theorem TagForm.read?_split (form : TagForm) (readVariant : String → Reader α) (members : Members) :
    Reader.read? (fun value => do
      let (variant, content) ← form.split value
      readVariant variant content) (.object members) =
      (form.named? members).bind fun variant => (readVariant variant).read? (.object members) := by
  unfold Reader.read? named?
  simp only [split]
  cases members.lookup form.tag with
  | none => rfl
  | some tag =>
    simp only [Option.bind_some, Reader.read?]
    cases form.variant tag <;> rfl

/-- A tagged value is read alike where its tag is the same and the variant that it names is read
alike. -/
theorem TagForm.read?_congr (form : TagForm) {readVariant : String → Reader α}
    {members members' : Members} (tag : members'.lookup form.tag = members.lookup form.tag)
    (same : ∀ variant, form.named? members = some variant →
      (readVariant variant).read? (.object members') =
        (readVariant variant).read? (.object members)) :
    Reader.read? (fun value => do
      let (variant, content) ← form.split value
      readVariant variant content) (.object members') =
      Reader.read? (fun value => do
        let (variant, content) ← form.split value
        readVariant variant content) (.object members) := by
  have named : form.named? members' = form.named? members := by rw [named?, named?, tag]
  rw [read?_split, read?_split, named]
  cases known : form.named? members with
  | none => rfl
  | some variant => exact same variant known

end Formwright.Json
