import Formwright.Json.Record
import Formwright.Proofs.Vocabulary

/-!
# What readers take

What the fields of a record and single values are read as, and when they are read at all: a record
is read exactly as its fields are, whatever the order in which they are written, and unknown fields
never stand in the way.
-/
namespace Formwright.Json

variable {α β : Type}

/-- The reader takes the value. -/
def Reader.Accepts (reader : Reader α) (value : Json) : Prop := ∃ read, reader value = .ok read

namespace Fields

/-- The fields of the record are read as the value. -/
def Yields (fields : Fields α) (record : Record) (value : α) : Prop := fields record = .ok value

/-- The fields of the record are read. -/
def Reads (fields : Fields α) (record : Record) : Prop := ∃ value, fields.Yields record value

variable {record : Record}

/-! ## Groups of fields -/

/-- A group of no fields is read as its value. -/
theorem yields_pure (value : α) : (pure value : Fields α).Yields record value := rfl

/-- A group of no fields is read. -/
theorem reads_pure (value : α) : (pure value : Fields α).Reads record :=
  ⟨value, yields_pure value⟩

/-- What is made of a group of fields is made of what the group is read as. -/
theorem Yields.map {apply : α → β} {fields : Fields α} {value : α}
    (read : fields.Yields record value) : (apply <$> fields).Yields record (apply value) := by
  change (pure apply <*> fields) record = _
  unfold Yields at read
  simp only [Seq.seq, pure, read]

/-- Two groups of fields that are read are read together. -/
theorem Yields.seq {functions : Fields (α → β)} {fields : Fields α} {apply : α → β} {value : α}
    (first : functions.Yields record apply) (second : fields.Yields record value) :
    (functions <*> fields).Yields record (apply value) := by
  unfold Yields at first second ⊢
  simp only [Seq.seq, first, second]

/-- Of two groups of fields that are read together, each is read. -/
theorem Yields.exists_seq {functions : Fields (α → β)} {fields : Fields α} {value : β}
    (read : (functions <*> fields).Yields record value) :
    ∃ apply argument, functions.Yields record apply ∧ fields.Yields record argument ∧
      apply argument = value := by
  unfold Yields at read ⊢
  simp only [Seq.seq] at read
  split at read
  · rename_i apply argument first second
    exact ⟨apply, argument, first, second, Except.ok.inj read⟩
  all_goals contradiction

/-- What is made of a group of fields is made of what the group is read as. -/
theorem Yields.exists_map {apply : α → β} {fields : Fields α} {value : β}
    (read : (apply <$> fields).Yields record value) :
    ∃ argument, fields.Yields record argument ∧ apply argument = value := by
  have paired : (pure apply <*> fields).Yields record value := read
  obtain ⟨_, argument, same, second, made⟩ := paired.exists_seq
  cases same
  exact ⟨argument, second, made⟩

/-- What is made of a group of fields is read where the group is. -/
theorem Reads.map {apply : α → β} {fields : Fields α} (reads : fields.Reads record) :
    (apply <$> fields).Reads record := by
  obtain ⟨value, read⟩ := reads
  exact ⟨apply value, read.map⟩

/-- Two groups of fields are read together where each is. -/
theorem Reads.seq {functions : Fields (α → β)} {fields : Fields α}
    (first : functions.Reads record) (second : fields.Reads record) :
    (functions <*> fields).Reads record := by
  obtain ⟨apply, readFirst⟩ := first
  obtain ⟨value, readSecond⟩ := second
  exact ⟨apply value, readFirst.seq readSecond⟩

/-! ## Single fields -/

section

variable {name : String} {reader : Reader α} {absent value : α} {held : Json}

/-- A field that is present with a value that is read is read. -/
theorem yields_required (present : record.entries.lookup name = some held)
    (read : reader held = .ok value) : (required name reader).Yields record value := by
  simp only [Yields, required, present, read]
  rfl

/-- A field that is left out takes its default. -/
theorem yields_absent (missing : record.entries.lookup name = none) :
    (withDefault name absent reader).Yields record absent := by
  simp only [Yields, withDefault, missing]

/-- A field with a default that is present with a value that is read is read. -/
theorem yields_withDefault (present : record.entries.lookup name = some held)
    (read : reader held = .ok value) : (withDefault name absent reader).Yields record value := by
  simp only [Yields, withDefault, present, read]
  rfl

/-- A field that must be there and is read is present, with a value that is read. -/
theorem exists_of_required (read : (required name reader).Yields record value) :
    ∃ held, record.entries.lookup name = some held ∧ reader held = .ok value := by
  unfold Yields required at read
  split at read
  · contradiction
  · rename_i held present
    cases taken : reader held with
    | error mismatch =>
      rw [taken] at read
      cases read
    | ok found =>
      rw [taken] at read
      exact ⟨held, present, taken.trans (congrArg Except.ok (Except.ok.inj read))⟩

/-- A field with a default that is read as something else is present, with a value that is read. -/
theorem exists_of_withDefault (read : (withDefault name absent reader).Yields record value)
    (other : value ≠ absent) :
    ∃ held, record.entries.lookup name = some held ∧ reader held = .ok value := by
  cases present : record.entries.lookup name with
  | none =>
    unfold Yields at read
    rw [yields_absent present] at read
    exact absurd (Except.ok.inj read).symm other
  | some held =>
    have needed : (required name reader).Yields record value := by
      unfold Yields withDefault at read
      unfold Yields required
      rwa [present] at read ⊢
    obtain ⟨same, found, taken⟩ := exists_of_required needed
    rw [present] at found
    exact ⟨held, rfl, Option.some.inj found ▸ taken⟩

/-- A field that must be there is read where it is present with a value that the reader takes. -/
theorem reads_required (present : record.entries.lookup name = some held)
    (accepts : reader.Accepts held) : (required name reader).Reads record := by
  obtain ⟨value, read⟩ := accepts
  exact ⟨value, yields_required present read⟩

/-- A field with a default is read unless it is present with a value that the reader refuses. -/
theorem reads_withDefault
    (accepts : ∀ held, record.entries.lookup name = some held → reader.Accepts held) :
    (withDefault name absent reader).Reads record := by
  cases present : record.entries.lookup name with
  | none => exact ⟨absent, yields_absent present⟩
  | some held =>
    obtain ⟨value, read⟩ := accepts held present
    exact ⟨value, yields_withDefault present read⟩

end

end Fields

/-! ## Values -/

namespace Reader

/-- A value that a reader takes is also taken where null may stand for it. -/
theorem Accepts.optional {reader : Reader α} {value : Json} (accepts : reader.Accepts value) :
    reader.optional.Accepts value := by
  obtain ⟨read, taken⟩ := accepts
  cases value <;> simp only [Accepts, Reader.optional, taken, Except.map] <;>
    exact ⟨_, rfl⟩

/-- A value other than null that is read is also read where null may stand for it. -/
theorem optional_ok {reader : Reader α} {value : Json} {read : α} (taken : reader value = .ok read)
    (present : value ≠ .null) : reader.optional value = .ok (some read) := by
  cases value with
  | null => contradiction
  | _ => simp only [Reader.optional, taken, Except.map]

/-- A value that is read as present where null may stand for it is read. -/
theorem of_optional_ok {reader : Reader α} {value : Json} {read : α}
    (taken : reader.optional value = .ok (some read)) : reader value = .ok read := by
  unfold Reader.optional at taken
  split at taken
  · exact nomatch Except.ok.inj taken
  · rename_i present
    cases found : reader value with
    | error mismatch => simp [found, Except.map] at taken
    | ok held => simpa [found, Except.map] using taken

/-- A natural number below a bound is read as itself. -/
theorem natural_ok {bound count : Nat} {expected : String} (below : count < bound) :
    natural bound expected (.integer count) = .ok count := by
  have inside : (count : Int) < bound := by exact_mod_cast below
  simp [natural, inside]

/-- A natural number of 8 bits is read. -/
theorem uint8_ok {count : Nat} (below : count < 0x100) :
    uint8 (.integer count) = .ok (UInt8.ofNat count) := by
  rw [uint8, natural_ok below]
  rfl

/-- A natural number of 64 bits is read. -/
theorem uint64_ok {count : Nat} (below : count < 0x10000000000000000) :
    uint64 (.integer count) = .ok (UInt64.ofNat count) := by
  rw [uint64, natural_ok below]
  rfl

/-- A written number of 8 bits is read back. -/
theorem uint8_ofNat (value : UInt8) : uint8 (.ofNat value.toNat) = .ok value :=
  (uint8_ok value.toNat_lt).trans (by rw [UInt8.ofNat_toNat])

/-- A written number of 32 bits is read back. -/
theorem uint32_ofNat (value : UInt32) : uint32 (.ofNat value.toNat) = .ok value := by
  rw [uint32, ofNat, natural_ok value.toNat_lt]
  exact congrArg Except.ok UInt32.ofNat_toNat

/-- A written number of 64 bits is read back. -/
theorem uint64_ofNat (value : UInt64) : uint64 (.ofNat value.toNat) = .ok value :=
  (uint64_ok value.toNat_lt).trans (by rw [UInt64.ofNat_toNat])

/-- A list is taken where each of its items is. -/
theorem accepts_list {reader : Reader α} {items : List Json}
    (accepts : ∀ item ∈ items, reader.Accepts item) : (list reader).Accepts (.array items) := by
  simp only [Accepts, list]
  induction items with
  | nil => exact ⟨[], rfl⟩
  | cons item later ih =>
    obtain ⟨value, read⟩ := accepts item List.mem_cons_self
    obtain ⟨values, readLater⟩ := ih fun other member =>
      accepts other (List.mem_cons_of_mem item member)
    refine ⟨value :: values, ?_⟩
    rw [List.mapM_cons, read, readLater]
    rfl

/-- A list of written values is read as what each of them is read as. -/
theorem list_map_ok {reader : Reader β} {toJson : α → Json} {back : α → β} (values : List α)
    (read : ∀ value, reader (toJson value) = .ok (back value)) :
    list reader (.array (values.map toJson)) = .ok (values.map back) := by
  simp only [list]
  induction values with
  | nil => rfl
  | cons value later ih =>
    rw [List.map_cons, List.mapM_cons, read value, ih]
    rfl

/-- A list of written values is read back where each of them is. -/
theorem list_ok {reader : Reader α} {toJson : α → Json} (values : List α)
    (read : ∀ value, reader (toJson value) = .ok value) :
    list reader (.array (values.map toJson)) = .ok values := by
  rw [list_map_ok values read, List.map_id']

/-- Every element of a list was read of an item. -/
theorem exists_of_mem_list {reader : Reader α} {value : Json} {values : List α}
    (taken : list reader value = .ok values) :
    ∀ element ∈ values, ∃ item, reader item = .ok element := by
  cases value with
  | array items =>
    simp only [list] at taken
    induction items generalizing values with
    | nil =>
      cases taken
      nofun
    | cons item later ih =>
      rw [List.mapM_cons] at taken
      cases first : reader item with
      | error mismatch =>
        rw [first] at taken
        cases taken
      | ok element =>
        cases rest : later.mapM reader with
        | error mismatch =>
          rw [first, rest] at taken
          cases taken
        | ok elements =>
          rw [first, rest] at taken
          cases taken
          exact List.forall_mem_cons.mpr ⟨⟨item, first⟩, ih rest⟩
  | _ => cases taken

/-- A record written as an object is read as its fields are. -/
theorem record_ok {form : RecordForm} {fields : Fields α} {members : Members} {value : α}
    (read : fields.Yields (.keyed members) value) :
    record form fields (.object members) = .ok value := by
  unfold Fields.Yields at read
  simp only [record, Fields.run, read]
  rfl

/-- What the fields of a record are run to is what they are read as. -/
theorem Fields.yields_of_run {fields : Fields α} {record : Record} {value : α}
    (done : fields.run record = .ok value) : fields.Yields record value := by
  unfold Fields.Yields
  rw [Fields.run] at done
  cases held : fields record with
  | error faults =>
    rw [held] at done
    cases done
  | ok found =>
    rw [held] at done
    cases done
    rfl

/-- A record that was written as an object was read of its fields. -/
theorem yields_of_record {form : RecordForm} {fields : Fields α} {members : Members} {value : α}
    (read : record form fields (.object members) = .ok value) :
    fields.Yields (.keyed members) value :=
  Fields.yields_of_run read

/-- What a record was read as its fields were read as, however it was written. -/
theorem exists_yields_of_record {form : RecordForm} {fields : Fields α} {value : Json} {read : α}
    (taken : record form fields value = .ok read) : ∃ record, fields.Yields record read := by
  cases value with
  | object members => exact ⟨_, Fields.yields_of_run taken⟩
  | array items =>
    simp only [record] at taken
    cases done : fields.run (.listed form items) with
    | error mismatch =>
      rw [done] at taken
      cases taken
    | ok found =>
      rw [done] at taken
      refine ⟨.listed form items, Fields.yields_of_run ?_⟩
      by_cases long : form.names.length < items.length <;>
        simp [long, bind, Except.bind] at taken
      rw [done, taken]
  | _ => cases taken

/-- A record written as an object is taken where its fields are read. -/
theorem accepts_record {form : RecordForm} {fields : Fields α} {members : Members}
    (reads : fields.Reads (.keyed members)) : (record form fields).Accepts (.object members) := by
  obtain ⟨value, read⟩ := reads
  exact ⟨value, record_ok read⟩

section

variable [Vocabulary α]

/-- A text that stands for a member of a vocabulary is read as the member. -/
theorem word_ok {beside : WordValue} {text : String} {member : α}
    (found : Vocabulary.ofWord? text = some member) :
    word α beside (.string text) = .ok member := by
  simp only [word, knownWord, found]

/-- The word of a member of a vocabulary is read as the member. -/
theorem word_wordJson [LawfulVocabulary α] {beside : WordValue} (member : α) :
    word α beside (wordJson member) = .ok member :=
  word_ok (LawfulVocabulary.ofWord?_word member)

end

end Reader

/-! ## Written fields -/

namespace Fields

variable {name : String} {members : Members}

/-- An optional value that is written is read back, as long as it is never written as null. -/
theorem yields_optional {reader : Reader α} {toJson : α → Json} {value : Option α}
    (written : members.lookup name = value.map toJson)
    (read : ∀ held, reader (toJson held) = .ok held) (present : ∀ held, toJson held ≠ .null) :
    (optional name reader).Yields (.keyed members) value := by
  cases value with
  | none => exact yields_absent written
  | some held => exact yields_withDefault written (Reader.optional_ok (read held) (present held))

/-- An optional text that is written is read back. -/
theorem yields_optionalText {value : Option String}
    (written : members.lookup name = value.map .string) :
    (optional name Reader.text).Yields (.keyed members) value :=
  yields_optional written (fun _ => rfl) (fun _ => nofun)

/-- An optional truth value that is written is read back. -/
theorem yields_optionalBool {value : Option Bool}
    (written : members.lookup name = value.map .bool) :
    (optional name Reader.bool).Yields (.keyed members) value :=
  yields_optional written (fun _ => rfl) (fun _ => nofun)

/-- An optional word that is written is read back. -/
theorem yields_optionalWord [Vocabulary α] [LawfulVocabulary α] {beside : Reader.WordValue}
    {value : Option α} (written : members.lookup name = value.map wordJson) :
    (optional name (Reader.word α beside)).Yields (.keyed members) value :=
  yields_optional written Reader.word_wordJson (fun _ => nofun)

/-- A text that is written is read back. -/
theorem yields_text {value : String} (written : members.lookup name = some (.string value)) :
    (required name Reader.text).Yields (.keyed members) value := yields_required written rfl

end Fields

/-! ## Tagged values -/

/-- A value that names one of the variants in its tag is split into the variant and itself. -/
theorem TagForm.split_ok {form : TagForm} {members : Members} {name : String}
    (tagged : members.lookup form.tag = some (.string name)) (known : name ∈ form.names) :
    form.split (.object members) = .ok (name, .object members) := by
  simp only [split, tagged, variant, known, ↓reduceIte, Except.map]

/-- A value that names one of the variants in its tag is read as the variant is. -/
theorem TagForm.read_ok {form : TagForm} {readVariant : String → Reader α} {members : Members}
    {value : α} (name : String) (tagged : members.lookup form.tag = some (.string name))
    (known : name ∈ form.names) (read : readVariant name (.object members) = .ok value) :
    (do
      let (variant, content) ← form.split (.object members)
      readVariant variant content) = .ok value := by
  simp only [split_ok tagged known, bind, Except.bind, read]

end Formwright.Json
