import Formwright.Compilation
import Formwright.Document.Reader
import Formwright.Proofs.Json.Lookup
import Formwright.Proofs.Json.Record
import Formwright.Proofs.Prompt.Draft
import Formwright.Proofs.Prompt.Reading

/-!
# Reading written documents

A form document that is written as a JSON value is read back as it was, but for one thing that the
format cannot tell: a default that is null is read as none. No document that was read has such a
default, and neither has the document of a prompt. So a document that was read once settles, and
what a prompt is compiled to does not change if its document is passed on as JSON.
-/
namespace Formwright
open Json Json.Fields

attribute [local simp] List.lookup_append lookup_cons_ite

/-! ## Lists and free values -/

namespace Json

variable {α : Type}

/-- A list that is left out where it is empty is read back where its elements are. -/
theorem Fields.yields_list {name : String} {members : Members} {reader : Reader α}
    {toJson : α → Json} {values : List α}
    (written : members.lookup name = if values = [] then none
      else some (.array (values.map toJson)))
    (read : ∀ value, reader (toJson value) = .ok value) :
    (withDefault name [] (Reader.list reader)).Yields (.keyed members) values := by
  cases values with
  | nil => exact yields_absent written
  | cons first later => exact yields_withDefault written (Reader.list_ok _ read)

/-- What is read of a value that may be left out or null: a null is as good as none. -/
def ofNullable : Json → Option Json
  | .null => none
  | value => some value

/-- Any value that is written is read back, unless it is null. -/
theorem Fields.yields_optionalAny {name : String} {members : Members} {value : Option Json}
    (written : members.lookup name = value) :
    (optional name Reader.any).Yields (.keyed members) (value.bind ofNullable) := by
  cases value with
  | none => exact yields_absent written
  | some held =>
    refine yields_withDefault written ?_
    cases held <;> rfl

/-- A value that is read where it may be left out or null is not null. -/
theorem Fields.ne_null_of_optionalAny {name : String} {record : Record} {value : Option Json}
    (read : (optional name Reader.any).Yields record value) : value ≠ some .null := by
  rintro rfl
  obtain ⟨held, -, taken⟩ := exists_of_withDefault read nofun
  obtain rfl : held = .null := Except.ok.inj (Reader.of_optional_ok taken)
  cases taken

end Json

/-! ## Parts of a document -/

/-- A written choice is read back. -/
theorem Choice.reader_toJson (choice : Choice) : Choice.reader choice.toJson = .ok choice :=
  Reader.record_ok ((yields_text (by simp)).map.seq (yields_text (by simp)))

/-- A written action is read back. -/
theorem Action.reader_toJson (action : Action) : Action.reader action.toJson = .ok action :=
  Reader.record_ok ((yields_text (by simp)).map.seq (yields_text (by simp))
    |>.seq (yields_required (by simp [Record.keyed]) (Reader.word_wordJson action.kind))
    |>.seq (yields_required (by simp [Record.keyed]) (Reader.word_wordJson action.variant))
    |>.seq (yields_optionalText (by simp)))

/-- A written rule is read back. -/
theorem Rule.reader_toJson (rule : Rule) : Rule.reader rule.toJson = .ok rule := by
  obtain ⟨demand, message⟩ := rule
  cases demand with
  | required =>
    refine TagForm.read_ok "required" (by simp [tagForm, Demand.name]) (by decide) ?_
    simp only [readVariant]
    exact Reader.record_ok (yields_optionalText (by simp [Demand.members])).map
  | email =>
    refine TagForm.read_ok "email" (by simp [tagForm, Demand.name]) (by decide) ?_
    simp only [readVariant]
    exact Reader.record_ok (yields_optionalText (by simp [Demand.members])).map
  | minLength value =>
    refine TagForm.read_ok "minLength" (by simp [tagForm, Demand.name]) (by decide) ?_
    simp only [readVariant]
    exact Reader.record_ok ((yields_required (by simp [Record.keyed, Demand.members])
      (Reader.uint32_ofNat value)).map.seq (yields_optionalText (by simp [Demand.members])))
  | maxLength value =>
    refine TagForm.read_ok "maxLength" (by simp [tagForm, Demand.name]) (by decide) ?_
    simp only [readVariant]
    exact Reader.record_ok ((yields_required (by simp [Record.keyed, Demand.members])
      (Reader.uint32_ofNat value)).map.seq (yields_optionalText (by simp [Demand.members])))
  | pattern source =>
    refine TagForm.read_ok "pattern" (by simp [tagForm, Demand.name]) (by decide) ?_
    simp only [readVariant]
    exact Reader.record_ok ((yields_text (by simp [Demand.members])).map.seq
      (yields_optionalText (by simp [Demand.members])))

/-! ## Fields and documents -/

/-- A field as the format can tell it: with no default in place of one that is null. -/
def Field.settled (field : Field) : Field :=
  { field with defaultValue := field.defaultValue.bind ofNullable }

/-- A field is as the format can tell it exactly if its default is not null. -/
theorem Field.settled_eq_iff (field : Field) :
    field.settled = field ↔ field.defaultValue ≠ some .null := by
  obtain ⟨id, name, label, control, placeholder, helperText, rules, choices, defaultValue⟩ := field
  cases defaultValue with
  | none => simp [settled]
  | some value => cases value <;> simp [settled, ofNullable]

/-- A written field is read back as the format can tell it. -/
theorem Field.reader_toJson (field : Field) : Field.reader field.toJson = .ok field.settled := by
  obtain ⟨id, name, label, control, placeholder, helperText, rules, choices, defaultValue⟩ := field
  exact Reader.record_ok ((yields_text (by simp)).map.seq (yields_text (by simp))
    |>.seq (yields_text (by simp))
    |>.seq (yields_required (by simp [Record.keyed]) (Reader.word_wordJson control))
    |>.seq (yields_optionalText (by simp)) |>.seq (yields_optionalText (by simp))
    |>.seq (yields_list (by simp) Rule.reader_toJson)
    |>.seq (yields_list (by simp) Choice.reader_toJson)
    |>.seq (yields_optionalAny (by simp)))

/-- No field was read with a default that is null. -/
theorem Field.defaultValue_ne_null {value : Json} {field : Field}
    (read : Field.reader value = .ok field) : field.defaultValue ≠ some .null := by
  obtain ⟨record, parts⟩ := Reader.exists_yields_of_record read
  obtain ⟨_, defaultValue, upToChoices, readDefault, rfl⟩ := parts.exists_seq
  obtain ⟨_, _, upToRules, _, rfl⟩ := upToChoices.exists_seq
  obtain ⟨_, _, upToHelperText, _, rfl⟩ := upToRules.exists_seq
  obtain ⟨_, _, upToPlaceholder, _, rfl⟩ := upToHelperText.exists_seq
  obtain ⟨_, _, upToControl, _, rfl⟩ := upToPlaceholder.exists_seq
  obtain ⟨_, _, upToLabel, _, rfl⟩ := upToControl.exists_seq
  obtain ⟨_, _, upToName, _, rfl⟩ := upToLabel.exists_seq
  obtain ⟨_, _, upToId, _, rfl⟩ := upToName.exists_seq
  obtain ⟨_, _, rfl⟩ := upToId.exists_map
  exact ne_null_of_optionalAny readDefault

namespace Document

/-- A document as the format can tell it: without the defaults that are null. -/
def settled (document : Document) : Document :=
  { document with fields := document.fields.map Field.settled }

/-- A document is as the format can tell it exactly if none of its defaults is null. -/
theorem settled_eq_iff (document : Document) :
    document.settled = document ↔ ∀ field ∈ document.fields, field.defaultValue ≠ some .null := by
  have fields : document.settled = document ↔ document.fields.map Field.settled =
      document.fields.map id := by
    obtain ⟨kind, title, description, scaffold, fields, actions⟩ := document
    simp [settled]
  simp only [fields, List.map_inj_left, id_eq, Field.settled_eq_iff]

/-- A written document is read back as the format can tell it. -/
theorem reader_toJson (document : Document) :
    reader document.toJson = .ok document.settled :=
  Reader.record_ok
    ((yields_required (by simp [Record.keyed]) (Reader.word_wordJson document.kind)).map.seq
      (yields_text (by simp))
    |>.seq (yields_optionalText (by simp)) |>.seq (yields_optionalWord (by simp))
    |>.seq (yields_withDefault (by simp [Record.keyed])
      (Reader.list_map_ok document.fields Field.reader_toJson))
    |>.seq (yields_withDefault (by simp [Record.keyed])
      (Reader.list_ok document.actions Action.reader_toJson)))

/-- No field of a document was read with a default that is null. -/
theorem defaultValue_ne_null {value : Json} {document : Document}
    (read : reader value = .ok document) :
    ∀ field ∈ document.fields, field.defaultValue ≠ some .null := by
  obtain ⟨record, parts⟩ := Reader.exists_yields_of_record read
  obtain ⟨_, _, upToFields, _, rfl⟩ := parts.exists_seq
  obtain ⟨_, fields, upToScaffold, readFields, rfl⟩ := upToFields.exists_seq
  obtain ⟨_, _, upToDescription, _, rfl⟩ := upToScaffold.exists_seq
  obtain ⟨_, _, upToTitle, _, rfl⟩ := upToDescription.exists_seq
  obtain ⟨_, _, upToKind, _, rfl⟩ := upToTitle.exists_seq
  obtain ⟨_, _, rfl⟩ := upToKind.exists_map
  intro field member
  have some : fields ≠ [] := List.ne_nil_of_mem member
  obtain ⟨_, _, taken⟩ := exists_of_withDefault readFields some
  obtain ⟨_, readField⟩ := Reader.exists_of_mem_list taken field member
  exact Field.defaultValue_ne_null readField

end Document

/-! ## Documents of prompts -/

/-- A completed field has the default that the field has. -/
theorem Draft.defaultValue_complete (field : Field) (token : String) (language : Language)
    (profile : Profile) :
    (complete field token language profile).defaultValue = field.defaultValue := by
  unfold complete
  split
  · cases profile <;> rfl
  all_goals rfl

/-- The fields of drafts for tokens have no defaults. -/
theorem Draft.defaultValue_of_mem_ofTokensAfter {language : Language}
    {seen taken tokens : List String} :
    ∀ draft ∈ ofTokensAfter language seen taken tokens, draft.field.defaultValue = none := by
  induction tokens generalizing seen taken with
  | nil => nofun
  | cons token later ih =>
    rw [ofTokensAfter]
    split
    · exact ih
    · exact List.forall_mem_cons.mpr ⟨defaultValue_complete _ _ _ _, ih⟩

/-- The fields of qualified drafts have no defaults if those of the drafts have none. -/
theorem Draft.defaultValue_of_mem_apply {qualifiers : Qualifiers} {drafts : List Draft}
    (none : ∀ draft ∈ drafts, draft.field.defaultValue = none) :
    ∀ draft ∈ qualifiers.apply drafts, draft.field.defaultValue = .none := by
  intro draft member
  obtain ⟨source, listed, same⟩ := exists_of_mem_apply member
  have sourceDefault := none source listed
  exact (congrArg (·.field.defaultValue) same).symm.trans sourceDefault

/-- The fields of the document of a prompt have no defaults. -/
theorem Prompt.defaultValue_of_mem_read (prompt : String) :
    ∀ field ∈ (read prompt).document.fields, field.defaultValue = none := by
  simp only [read]
  split
  · exact List.forall_mem_nil _
  · obtain ⟨⟨tokens, made⟩, -⟩ := drafts_spec (Request.ofPrompt prompt.toList).text
      (Topic.ofText (Request.ofPrompt prompt.toList).text)
    rw [fields_readRequest, made]
    exact List.forall_mem_map.mpr
      (Draft.defaultValue_of_mem_apply Draft.defaultValue_of_mem_ofTokensAfter)

/-- The document of a prompt is read back once written. -/
theorem Prompt.reader_toJson_read (prompt : String) :
    Document.reader (read prompt).document.toJson = .ok (read prompt).document := by
  have plain : ∀ field ∈ (read prompt).document.fields, field.defaultValue ≠ some .null :=
    fun field member null => by
      rw [defaultValue_of_mem_read prompt field member] at null
      cases null
  rw [Document.reader_toJson, (Document.settled_eq_iff _).mpr plain]

/-! ## Passing documents on -/

/-- A document is read back once written exactly if none of its defaults is null. The document of a
prompt is, so compiling what is read back gives the page, the validation and the code of the prompt,
whatever the registry and the options; and a document that was read from any value is, so it has the
same fingerprint once it is written and read again. -/
theorem Document.reader_toJson_eq_iff :
    (∀ document, reader document.toJson = .ok document ↔
      ∀ field ∈ document.fields, field.defaultValue ≠ some .null) ∧
    (∀ parser prompt registry options,
      ∃ document, reader (Prompt.read prompt).document.toJson = .ok document ∧
        (compilePromptWith parser prompt registry options).toCompilation =
          compileWith parser document registry options) ∧
    ∀ value document, reader value = .ok document →
      ∃ again, reader document.toJson = .ok again ∧
        again = document ∧ again.fingerprint = document.fingerprint := by
  have back (document : Document) : reader document.toJson = .ok document ↔
      ∀ field ∈ document.fields, field.defaultValue ≠ some .null := by
    rw [reader_toJson, Except.ok.injEq, settled_eq_iff]
  refine ⟨back, fun parser prompt registry options => ?_, fun value document read => ?_⟩
  · refine ⟨_, Prompt.reader_toJson_read prompt, ?_⟩
    simp only [compilePromptWith]
  · exact ⟨document, (back document).mpr (defaultValue_ne_null read), rfl, rfl⟩

/-- A form that gives a box a default of null and leaves out its actions is read without the
default, and what it was read as settles. -/
theorem Document.reader_toJson_eq_iff_box :
    let value : Json := .object [
      ("fields", .array [.object [("component", .string "Checkbox"), ("defaultValue", .null),
        ("id", .string "terms"), ("label", .string "Terms"), ("name", .string "terms")]]),
      ("title", .string "Join"), ("type", .string "form")]
    let document : Document :=
      { kind := .form, title := "Join"
        fields := [{ id := "terms", name := "terms", label := "Terms", control := .checkbox }] }
    reader value = .ok document ∧
      ∃ again, reader document.toJson = .ok again ∧
        again = document ∧ again.fingerprint = document.fingerprint := by
  intro value document
  have read : reader value = .ok document := by rfl
  exact ⟨read, reader_toJson_eq_iff.2.2 value document read⟩

end Formwright
