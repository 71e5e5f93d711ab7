import Formwright.Document.Writer
import Formwright.Proofs.Json.Outline
import Formwright.Proofs.Vocabulary
import Mathlib.Data.List.Basic

/-!
# What the canonical text of a document tells

The canonical text tells all of a document but which of the numbers that are printed alike stand in
the default values of its fields: documents with one canonical text are alike. Nothing that is left
out can be taken for anything that is there, and no part for another one.
-/
namespace Formwright
open Json

attribute [local simp] List.lookup_append lookup_cons_ite outline wordJson

/-! ## Parts of a document -/

/-- Optional texts are written with one outline only if they are the same. -/
theorem Json.map_outline_string_inj {left right : Option String}
    (same : (left.map Json.string).map outline = (right.map Json.string).map outline) :
    left = right := by
  rw [Option.map_map, Option.map_map] at same
  exact Option.map_injective outline_string_injective same

/-- Optional words are written with one outline only if they are the same. -/
theorem Json.map_outline_wordJson_inj {α : Type} [Vocabulary α] [LawfulVocabulary α]
    {left right : Option α}
    (same : (left.map wordJson).map outline = (right.map wordJson).map outline) :
    left = right := by
  rw [Option.map_map, Option.map_map] at same
  exact Option.map_injective
    (fun _ _ alike => Vocabulary.word_inj (outline_string_injective alike)) same

/-- Lists are written with one outline only if the outlines of their elements are the same. -/
theorem Json.map_outline_eq {α : Type} {toJson : α → Json} {left right : List α}
    (same : (array (left.map toJson)).outline = (array (right.map toJson)).outline) :
    (left.map fun value => (toJson value).outline) =
      right.map fun value => (toJson value).outline := by
  have items := Outline.array.inj same
  rwa [outlineItems_eq_map, outlineItems_eq_map, List.map_map, List.map_map] at items

/-- Lists that are left out when they are empty are written with one outline only if they are the
same, as long as their elements are. -/
theorem Json.nonEmpty_outline_inj {α : Type} {toJson : α → Json} {left right : List α}
    (injective : Function.Injective fun value => (toJson value).outline)
    (same : (if left = [] then none else some (array (left.map toJson))).map outline =
      (if right = [] then none else some (array (right.map toJson))).map outline) :
    left = right := by
  cases left with
  | nil =>
    cases right with
    | nil => rfl
    | cons first later => exact nomatch same
  | cons first later =>
    cases right with
    | nil => exact nomatch same
    | cons first' later' =>
      exact List.map_injective_iff.mpr injective (map_outline_eq (Option.some.inj same))

/-- A choice is told by its outline. -/
theorem Choice.outline_toJson_injective : Function.Injective fun choice : Choice =>
    choice.toJson.outline := by
  rintro ⟨label, value⟩ ⟨label', value'⟩ same
  have labels : label = label' := by simpa using lookup_outline_eq same "label"
  have values : value = value' := by simpa using lookup_outline_eq same "value"
  rw [labels, values]

/-- A demand is told by its name and what it limits the value by. -/
theorem Demand.eq_of_outline_eq {left right : Demand} (names : left.name = right.name)
    (values : (left.members.lookup "value").map outline =
      (right.members.lookup "value").map outline) : left = right := by
  have limit {value value' : UInt32} (same : (some (ofNat value.toNat)).map outline =
      (some (ofNat value'.toNat)).map outline) : value = value' :=
    UInt32.toNat_inj.mp (outline_ofNat_injective (Option.some.inj same))
  cases left with
  | required => cases right <;> simp [name] at names ⊢
  | email => cases right <;> simp [name] at names ⊢
  | minLength value =>
    cases right with
    | minLength value' => exact congrArg minLength (limit values)
    | _ => simp [name] at names
  | maxLength value =>
    cases right with
    | maxLength value' => exact congrArg maxLength (limit values)
    | _ => simp [name] at names
  | pattern source =>
    cases right with
    | pattern source' =>
      exact congrArg pattern (outline_string_injective (Option.some.inj values))
    | _ => simp [name] at names

/-- The limits of demands stand under one key. -/
theorem Demand.lookup_members_eq_none {demand : Demand} {key : String} (foreign : key ≠ "value") :
    demand.members.lookup key = none := by
  cases demand <;> simp [members, foreign]

/-- A rule is told by its outline. -/
theorem Rule.outline_toJson_injective : Function.Injective fun rule : Rule =>
    rule.toJson.outline := by
  rintro ⟨demand, message⟩ ⟨demand', message'⟩ same
  have demands : demand = demand' := Demand.eq_of_outline_eq
    (by simpa using lookup_outline_eq same "type") (by simpa using lookup_outline_eq same "value")
  have messages : message = message' := map_outline_string_inj (by
    simpa [-Option.map_map, Demand.lookup_members_eq_none] using lookup_outline_eq same "message")
  rw [demands, messages]

/-- An action is told by its outline. -/
theorem Action.outline_toJson_injective : Function.Injective fun action : Action =>
    action.toJson.outline := by
  rintro ⟨id, label, kind, variant, href⟩ ⟨id', label', kind', variant', href'⟩ same
  have ids : id = id' := by simpa using lookup_outline_eq same "id"
  have labels : label = label' := by simpa using lookup_outline_eq same "label"
  have kinds : kind = kind' :=
    Vocabulary.word_inj (by simpa using lookup_outline_eq same "type")
  have variants : variant = variant' :=
    Vocabulary.word_inj (by simpa using lookup_outline_eq same "variant")
  have targets : href = href' :=
    map_outline_string_inj (by simpa [-Option.map_map] using lookup_outline_eq same "href")
  rw [ids, labels, kinds, variants, targets]

/-! ## Fields -/

/-- A field without the default that it may have. -/
def Field.withoutDefault (field : Field) : Field := { field with defaultValue := none }

/-- A field is told by its outline, but for the numbers in its default that are printed alike. -/
theorem Field.eq_of_outline_eq {left right : Field}
    (same : left.toJson.outline = right.toJson.outline) :
    left.withoutDefault = right.withoutDefault ∧
      left.defaultValue.map outline = right.defaultValue.map outline := by
  have ids : left.id = right.id := by simpa using lookup_outline_eq same "id"
  have names : left.name = right.name := by simpa using lookup_outline_eq same "name"
  have labels : left.label = right.label := by simpa using lookup_outline_eq same "label"
  have controls : left.control = right.control :=
    Vocabulary.word_inj (by simpa using lookup_outline_eq same "component")
  have placeholders : left.placeholder = right.placeholder := map_outline_string_inj
    (by simpa [-Option.map_map] using lookup_outline_eq same "placeholder")
  have helperTexts : left.helperText = right.helperText := map_outline_string_inj
    (by simpa [-Option.map_map] using lookup_outline_eq same "helperText")
  have rules : left.rules = right.rules := nonEmpty_outline_inj Rule.outline_toJson_injective
    (by simpa using lookup_outline_eq same "validation")
  have choices : left.choices = right.choices :=
    nonEmpty_outline_inj Choice.outline_toJson_injective
      (by simpa using lookup_outline_eq same "options")
  have defaults : left.defaultValue.map outline = right.defaultValue.map outline := by
    simpa using lookup_outline_eq same "defaultValue"
  refine ⟨?_, defaults⟩
  simp only [withoutDefault, ids, names, labels, controls, placeholders, helperTexts, rules,
    choices]

/-! ## Documents -/

/-- A document without the defaults of its fields. -/
def Document.withoutDefaults (document : Document) : Document :=
  { document with fields := document.fields.map Field.withoutDefault }

/-- The outlines of the defaults of the fields of a document. -/
def Document.defaultOutlines (document : Document) : List (Option Outline) :=
  document.fields.map fun field => field.defaultValue.map outline

/-- Two documents are the same but for numbers in the defaults of their fields that are printed
alike. -/
structure Document.Alike (left right : Document) : Prop where
  withoutDefaults : left.withoutDefaults = right.withoutDefaults
  defaultOutlines : left.defaultOutlines = right.defaultOutlines

/-- What is told by something of each element is told by it of all elements of a list. -/
theorem map_eq_map_of_told {α β γ : Type} {tells : α → β} {told : α → γ}
    (each : ∀ first second, tells first = tells second → told first = told second)
    {left right : List α} (same : left.map tells = right.map tells) :
    left.map told = right.map told := by
  induction left generalizing right with
  | nil => rw [List.map_eq_nil_iff.mp same.symm]
  | cons first later ih =>
    obtain ⟨second, others, rfl, here, rest⟩ := List.map_eq_cons_iff.mp same.symm
    rw [List.map_cons, List.map_cons, each first second here.symm, ih rest.symm]

/-- Documents with one canonical text are alike. -/
theorem Document.alike_of_canonical_eq {left right : Document}
    (texts : left.canonical = right.canonical) : left.Alike right := by
  have same : left.toJson.outline = right.toJson.outline := (render_eq_iff _ _).mp texts
  have kinds : left.kind = right.kind :=
    Vocabulary.word_inj (by simpa using lookup_outline_eq same "type")
  have titles : left.title = right.title := by simpa using lookup_outline_eq same "title"
  have descriptions : left.description = right.description := map_outline_string_inj
    (by simpa [-Option.map_map] using lookup_outline_eq same "description")
  have scaffolds : left.scaffold = right.scaffold := map_outline_wordJson_inj
    (by simpa [-Option.map_map, -wordJson] using lookup_outline_eq same "scaffold")
  have fields : (left.fields.map fun field => field.toJson.outline) =
      right.fields.map fun field => field.toJson.outline :=
    map_outline_eq (by simpa using lookup_outline_eq same "fields")
  have actions : left.actions = right.actions :=
    List.map_injective_iff.mpr Action.outline_toJson_injective
      (map_outline_eq (by simpa using lookup_outline_eq same "actions"))
  constructor
  · have told := map_eq_map_of_told (fun _ _ alike => (Field.eq_of_outline_eq alike).1) fields
    simp only [withoutDefaults, kinds, titles, descriptions, scaffolds, told, actions]
  · exact map_eq_map_of_told (fun _ _ alike => (Field.eq_of_outline_eq alike).2) fields

end Formwright
