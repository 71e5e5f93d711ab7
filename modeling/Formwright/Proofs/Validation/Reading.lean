import Formwright.Proofs.Json.Record
import Formwright.Proofs.Validation.Shape

/-!
# Sound shapes are read

The check of shapes and the readers of node trees go over the same format, each with its own list
of fields. Here they are brought together: a check admits a reader when the reader takes every value
of which the check reports nothing, and field by field this carries over to records and to nodes.
-/
namespace Formwright.Shape
open Json

variable {α : Type}

/-- The reader takes every value of which the check reports nothing. -/
def Check.Admits (check : Check) (reader : Reader α) : Prop :=
  ∀ path value, check path value = [] → reader.Accepts value

/-! ## Values -/

/-- A text of which nothing is reported is read. -/
theorem text_admits : text.Admits Reader.text := by
  intro path value silent
  cases value with
  | string held => exact ⟨held, rfl⟩
  | _ => simp [text] at silent

/-- A text that must not be blank is read where nothing is reported of it. -/
theorem filledText_admits : filledText.Admits Reader.text := by
  intro path value silent
  cases value with
  | string held => exact ⟨held, rfl⟩
  | _ => simp [filledText] at silent

/-- A truth value of which nothing is reported is read. -/
theorem truth_admits : truth.Admits Reader.bool := by
  intro path value silent
  cases value with
  | bool held => exact ⟨held, rfl⟩
  | _ => simp [truth] at silent

/-- Every value is read where any value may stand. -/
theorem anything_admits : anything.Admits Reader.any := fun _ value _ => ⟨value, rfl⟩

/-- An object whose members may be any is read as its members. -/
theorem members_admits : (object fun _ _ => []).Admits Reader.members := by
  intro path value silent
  cases value with
  | object members => exact ⟨members, rfl⟩
  | _ => simp [object] at silent

/-- A value that is one of some words is one of these words. -/
theorem exists_word_of_oneOf {words : List String} {path : String} {value : Json}
    (silent : oneOf words path value = []) : ∃ word ∈ words, value = .string word := by
  cases value with
  | string held =>
    by_cases known : held ∈ words
    · exact ⟨held, known, rfl⟩
    · simp [oneOf, known] at silent
  | _ => simp [oneOf] at silent

/-- A value that must be one of some words is read as a text where nothing is reported of it. -/
theorem ratio_admits (words : List String) : (oneOf words).Admits Reader.text := by
  intro path value silent
  obtain ⟨word, _, rfl⟩ := exists_word_of_oneOf silent
  exact ⟨word, rfl⟩

/-- A value that must be a word of a vocabulary is read as its member where nothing is reported of
it. -/
theorem word_admits [Vocabulary α] (beside : Reader.WordValue) :
    (oneOf (Vocabulary.words α)).Admits (Reader.word α beside) := by
  intro path value silent
  obtain ⟨word, known, rfl⟩ := exists_word_of_oneOf silent
  obtain ⟨member, found⟩ := (Vocabulary.mem_words_iff word).mp known
  exact ⟨member, Reader.word_ok found⟩

/-- An id of which nothing is reported is read. -/
theorem nodeId_admits : nodeId.Admits NodeId.reader := by
  intro path value silent
  cases value with
  | string held =>
    by_cases version4 : NodeId.isVersion4 held
    · simp only [NodeId.isVersion4, Bool.and_eq_true, Option.any_eq_true] at version4
      obtain ⟨_, nodeId, parsed, _⟩ := version4
      exact ⟨nodeId, by simp [NodeId.reader, Reader.text, bind, Except.bind, parsed]⟩
    · simp [nodeId, version4] at silent
  | _ => simp [nodeId] at silent

/-- A value that is a natural number is a whole number below the bound of 64 bits. -/
theorem integer_of_natural? {value : Json} {count : Nat} (found : value.natural? = some count) :
    value = .integer count ∧ count < 0x10000000000000000 := by
  unfold Json.natural? at found
  split at found
  · split at found
    · rename_i bound
      obtain rfl := Option.some.inj found
      exact ⟨rfl, bound⟩
    · contradiction
  · contradiction

/-- A number of columns of which nothing is reported fits in 8 bits and is read. -/
theorem columns_admits : columns.Admits Reader.uint8 := by
  intro path value silent
  unfold columns at silent
  split at silent
  · rename_i count found
    obtain ⟨rfl, _⟩ := integer_of_natural? found
    split at silent
    · rename_i allowed
      simp only [Bool.and_eq_true, decide_eq_true_eq] at allowed
      exact ⟨_, Reader.uint8_ok (by omega)⟩
    · simp at silent
  · simp at silent

/-- A time of which nothing is reported fits in 64 bits and is read. -/
theorem milliseconds_admits : milliseconds.Admits Reader.uint64 := by
  intro path value silent
  unfold milliseconds at silent
  split at silent
  · rename_i count found
    obtain ⟨rfl, below⟩ := integer_of_natural? found
    exact ⟨_, Reader.uint64_ok below⟩
  · simp at silent

/-- A list of which nothing is reported is read if its items are. -/
theorem list_admits {check : Check} {reader : Reader α} (admits : check.Admits reader) :
    (list check).Admits (Reader.list reader) := by
  intro path value silent
  cases value with
  | array items =>
    refine Reader.accepts_list fun item member => ?_
    obtain ⟨place, quiet⟩ := silent_of_itemsFrom silent item member
    exact admits _ _ quiet
  | _ => simp [list] at silent

/-- An object of whose members nothing is reported is read as a record if the fields are. -/
theorem object_admits {checkMembers : String → Members → List Diagnostic} {form : RecordForm}
    {fields : Fields α}
    (reads : ∀ path members, checkMembers path members = [] → fields.Reads (.keyed members)) :
    (object checkMembers).Admits (Reader.record form fields) := by
  intro path value silent
  cases value with
  | object members => exact Reader.accepts_record (reads path members silent)
  | _ => simp [object] at silent

/-! ## Fields -/

section

variable {members : Members} {key path : String} {check : Check} {reader : Reader α}

/-- A field that must be there is read where nothing is reported of it. -/
theorem reads_of_required (admits : check.Admits reader)
    (silent : required members key path check = []) :
    (Fields.required key reader).Reads (.keyed members) := by
  obtain ⟨value, present, quiet⟩ := required_eq_nil_iff.mp silent
  exact Fields.reads_required present (admits _ _ quiet)

/-- A field with a default is read where nothing is reported of it. -/
theorem reads_of_optional {absent : α} (admits : check.Admits reader)
    (silent : optional members key path check = []) :
    (Fields.withDefault key absent reader).Reads (.keyed members) :=
  Fields.reads_withDefault fun value present =>
    admits _ _ (optional_eq_nil_iff.mp silent value present)

/-- A field that may be left out or null is read where nothing is reported of it. -/
theorem reads_of_nullable (admits : check.Admits reader)
    (silent : optional members key path check = []) :
    (Fields.optional key reader).Reads (.keyed members) :=
  Fields.reads_withDefault fun value present =>
    (admits _ _ (optional_eq_nil_iff.mp silent value present)).optional

/-- One of several fields that may be left out or null is read where nothing is reported of any. -/
theorem reads_of_listed {keys : List String} (admits : check.Admits reader)
    (silent : (keys.flatMap fun key => optional members key path check) = [])
    (listed : key ∈ keys) : (Fields.optional key reader).Reads (.keyed members) :=
  reads_of_nullable admits (List.flatMap_eq_nil_iff.mp silent key listed)

end

/-! ## Records inside nodes -/

/-- What a node says to assistive technology is read where nothing is reported of it. -/
theorem accessibility_admits : (object accessibility).Admits Accessibility.reader := by
  refine object_admits fun path members silent => ?_
  simp only [accessibility, List.append_eq_nil_iff] at silent
  obtain ⟨⟨texts, live⟩, hidden⟩ := silent
  have text {key : String} (listed : key ∈ _) := reads_of_listed text_admits texts listed
  exact (text (by decide)).map.seq (text (by decide)) |>.seq (text (by decide))
    |>.seq (text (by decide)) |>.seq (reads_of_nullable (word_admits _) live)
    |>.seq (reads_of_nullable truth_admits hidden)

/-- The layout of a node is read where nothing is reported of it. -/
theorem layout_admits : (object layout).Admits Layout.reader := by
  refine object_admits fun path members silent => ?_
  simp only [layout, List.append_eq_nil_iff] at silent
  obtain ⟨⟨⟨texts, steps⟩, align⟩, justify⟩ := silent
  have text {key : String} (listed : key ∈ _) := reads_of_listed text_admits texts listed
  have step {key : String} (listed : key ∈ _) :=
    reads_of_listed (word_admits .nullOrEmpty) steps listed
  exact (text (by decide)).map.seq (text (by decide)) |>.seq (text (by decide))
    |>.seq (step (by decide)) |>.seq (step (by decide)) |>.seq (step (by decide))
    |>.seq (reads_of_nullable (word_admits _) align)
    |>.seq (reads_of_nullable (word_admits _) justify)

/-- The envelope of a node is read where nothing is reported of it. -/
theorem envelope_reads {path : String} {members : Members} (silent : envelope path members = []) :
    Envelope.fields.Reads (.keyed members) := by
  simp only [envelope, List.append_eq_nil_iff] at silent
  obtain ⟨⟨⟨id, texts⟩, a11y⟩, layout⟩ := silent
  have text {key : String} (listed : key ∈ _) := reads_of_listed text_admits texts listed
  exact (reads_of_required nodeId_admits id).map.seq (text (by decide))
    |>.seq (reads_of_nullable accessibility_admits a11y)
    |>.seq (reads_of_nullable layout_admits layout) |>.seq (text (by decide))
    |>.seq (text (by decide))

/-- A tagged value is taken where nothing is reported of it and the reader of each of its variants
takes what nothing is reported of. -/
theorem tagged_accepts {form : TagForm} {readVariant : String → Reader α} {path : String}
    {members : Members} {fields : String → List Diagnostic}
    (silent : tagged members form.tag path form.names fields = [])
    (accepts : ∀ word ∈ form.names, fields word = [] →
      (readVariant word).Accepts (.object members)) :
    Reader.Accepts (fun value => do
      let (variant, content) ← form.split value
      readVariant variant content) (.object members) := by
  obtain ⟨word, named, known, quiet⟩ := tagged_eq_nil_iff.mp silent
  obtain ⟨read, taken⟩ := accepts word known quiet
  exact ⟨read, TagForm.read_ok word named known taken⟩

/-- A data source is read where nothing is reported of it. -/
theorem dataSource_admits : (object dataSource).Admits DataSource.reader := by
  intro path value silent
  cases value with
  | object members =>
    obtain ⟨id, tag⟩ := List.append_eq_nil_iff.mp silent
    refine tagged_accepts tag fun word known quiet => ?_
    have id := reads_of_required filledText_admits id
    simp only [DataSource.tagForm, List.mem_cons, List.not_mem_nil, or_false] at known
    obtain rfl | rfl | rfl := known
    · exact Reader.accepts_record (id.map.seq (reads_of_nullable text_admits quiet))
    · exact Reader.accepts_record (id.map.seq (reads_of_required anything_admits quiet))
    · obtain ⟨request, refresh⟩ := List.append_eq_nil_iff.mp quiet
      obtain ⟨url, method⟩ := List.append_eq_nil_iff.mp request
      exact Reader.accepts_record (id.map.seq (reads_of_required filledText_admits url)
        |>.seq (reads_of_nullable (word_admits _) method)
        |>.seq (reads_of_nullable milliseconds_admits refresh))
  | _ => simp [object] at silent

/-- The payload of a section is read where nothing is reported of it. -/
theorem payload_admits : (object payload).Admits Payload.reader := by
  intro path value silent
  cases value with
  | object members =>
    refine tagged_accepts silent fun word known quiet => ?_
    obtain ⟨source, own⟩ := List.append_eq_nil_iff.mp quiet
    have source := reads_of_required filledText_admits source
    simp only [Payload.tagForm, List.mem_cons, List.not_mem_nil, or_false] at known
    obtain rfl | rfl := known
    · exact Reader.accepts_record (source.map.seq (reads_of_optional (list_admits text_admits) own))
    · exact Reader.accepts_record (source.map.seq (reads_of_required (word_admits _) own))
  | _ => simp [object] at silent

/-- A binding is read where nothing is reported of it. -/
theorem binding_admits : (object binding).Admits Binding.reader := by
  refine object_admits fun path members silent => ?_
  have text {key : String} (listed : key ∈ ["sourceId", "path", "prop"]) :=
    reads_of_required filledText_admits (List.flatMap_eq_nil_iff.mp silent key listed)
  exact (text (by decide)).map.seq (text (by decide)) |>.seq (text (by decide))

/-! ## Nodes -/

/-- The fields of a container are read where nothing is reported of them. -/
theorem ownFields_reads {kind : NodeKind} {fields : Fields Container} {path : String}
    {members : Members} (container : Container.fields? kind = some fields)
    (silent : ownFields kind path members = []) : fields.Reads (.keyed members) := by
  cases kind with
  | page =>
    obtain rfl := Option.some.inj container
    obtain ⟨title, sources⟩ := List.append_eq_nil_iff.mp silent
    exact (reads_of_nullable text_admits title).map.seq
      (reads_of_optional (list_admits dataSource_admits) sources)
  | «section» =>
    obtain rfl := Option.some.inj container
    obtain ⟨title, payload⟩ := List.append_eq_nil_iff.mp silent
    exact (reads_of_nullable text_admits title).map.seq (reads_of_nullable payload_admits payload)
  | grid =>
    obtain rfl := Option.some.inj container
    exact (reads_of_required columns_admits silent).map
  | stack =>
    obtain rfl := Option.some.inj container
    exact (reads_of_optional (word_admits _) silent).map
  | twoColumn =>
    obtain rfl := Option.some.inj container
    exact (reads_of_nullable (ratio_admits _) silent).map
  | sidebar =>
    obtain rfl := Option.some.inj container
    obtain ⟨side, width⟩ := List.append_eq_nil_iff.mp silent
    exact (reads_of_optional (word_admits _) side).map.seq (reads_of_nullable text_admits width)
  | threeColumn | block =>
    obtain rfl := Option.some.inj container
    exact Fields.reads_pure _
  | component => contradiction

/-- The fields of an instance of a component are read where nothing is reported of them. -/
theorem component_reads {path : String} {members : Members}
    (own : ownFields .component path members = [])
    (last : lastFields .component path members = []) :
    Component.fields.Reads (.keyed members) := by
  simp only [ownFields, List.append_eq_nil_iff] at own
  obtain ⟨⟨component, props⟩, variant⟩ := own
  exact (reads_of_required filledText_admits component).map.seq
    (reads_of_optional members_admits props) |>.seq (reads_of_nullable text_admits variant)
    |>.seq (reads_of_optional (list_admits binding_admits) last)

end Formwright.Shape
