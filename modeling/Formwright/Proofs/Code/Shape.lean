import Formwright.Proofs.Code.LineCount
import Formwright.Proofs.Document.Canonical

/-!
# The shape of a document and the lines of its code

What a document looks like without its texts is its shape. Together with the options it tells how
many lines the generator writes. So documents of one shape have code of as many lines exactly where
the texts in their attributes have as many line breaks.
-/
namespace Formwright

/-- What a field looks like without its texts. -/
structure FieldShape where
  control : Control
  hasPlaceholder : Bool
  hasHelperText : Bool
  hasDefault : Bool
  ruleCount : Nat
  choiceCount : Nat
deriving DecidableEq, Repr

/-- The shape of a field. -/
def Field.shape (field : Field) : FieldShape where
  control := field.control
  hasPlaceholder := field.placeholder.isSome
  hasHelperText := field.helperText.isSome
  hasDefault := field.defaultValue.isSome
  ruleCount := field.rules.length
  choiceCount := field.choices.length

/-- What a document looks like without its texts. -/
structure DocumentShape where
  kind : DocumentKind
  scaffold : Option Scaffold
  hasDescription : Bool
  fields : List FieldShape
  actions : List ActionKind
deriving DecidableEq, Repr

/-- The shape of a document. -/
def Document.shape (document : Document) : DocumentShape where
  kind := document.kind
  scaffold := document.scaffold
  hasDescription := document.description.isSome
  fields := document.fields.map Field.shape
  actions := document.actions.map Action.kind

namespace Code

/-- A text that may be absent is one line or none, which its presence tells. -/
theorem length_optionalLine {left right : Option String} (same : left.isSome = right.isSome)
    (line : String → Line) : (left.map line).toList.length = (right.map line).toList.length := by
  cases left <;> cases right <;> simp at same ⊢

/-- Fields of one shape have controls of the same length. -/
theorem length_controlLines {left right : Field} (same : left.shape = right.shape) :
    (controlLines left).length = (controlLines right).length := by
  have control : left.control = right.control := congrArg FieldShape.control same
  have placeholder : left.placeholder.isSome = right.placeholder.isSome :=
    congrArg FieldShape.hasPlaceholder same
  have choices : left.choices.length = right.choices.length :=
    congrArg FieldShape.choiceCount same
  have attributes : (placeholderAttribute left).toList.length =
      (placeholderAttribute right).toList.length := by
    unfold placeholderAttribute
    cases found : left.placeholder <;> cases found' : right.placeholder <;>
      simp [found, found'] at placeholder ⊢
  unfold controlLines
  rw [control]
  cases right.control <;> simp [textControl, attributes, choices]

/-- Fields of one shape have blocks of the same length. -/
theorem length_fieldLines {left right : Field} (same : left.shape = right.shape) :
    (fieldLines left).length = (fieldLines right).length := by
  have control := length_controlLines same
  have helper := length_optionalLine (congrArg FieldShape.hasHelperText same) helperLine
  simp [fieldLines, control, helper]

/-- Fields of one shape have entries of the same length in the rule table. -/
theorem length_ruleEntry {left right : Field} (same : left.shape = right.shape) :
    (ruleEntry left).length = (ruleEntry right).length := by
  have rules : left.rules.length = right.rules.length := congrArg FieldShape.ruleCount same
  simp [ruleEntry, rules]

/-- Actions of one kind have buttons of the same length. -/
theorem length_actionLines {left right : Action} (same : left.kind = right.kind) :
    (actionLines left).length = (actionLines right).length := by
  unfold actionLines
  rw [same]
  cases right.kind <;> simp

/-- Lines that are written part by part are as many for parts that look the same. -/
theorem length_flatMap_eq {α β : Type} {lines : α → List Line} {shape : α → β}
    (each : ∀ {left right : α}, shape left = shape right →
      (lines left).length = (lines right).length) {left right : List α}
    (same : left.map shape = right.map shape) :
    (left.flatMap lines).length = (right.flatMap lines).length := by
  have lengths : left.map (fun part => (lines part).length) =
      right.map (fun part => (lines part).length) :=
    map_eq_map_of_told (fun _ _ => each) same
  rw [List.length_flatMap, List.length_flatMap, lengths]

section

variable {left right : Document} (same : left.shape = right.shape)
include same

/-- Documents of one shape have fields of the same shapes. -/
theorem map_shape_fields : left.fields.map Field.shape = right.fields.map Field.shape :=
  congrArg DocumentShape.fields same

/-- Documents of one shape have actions of the same kinds. -/
theorem map_kind_actions : left.actions.map Action.kind = right.actions.map Action.kind :=
  congrArg DocumentShape.actions same

/-- Documents of one shape have fields both or neither. -/
theorem isEmpty_fields : left.fields.isEmpty = right.fields.isEmpty := by
  rw [← List.isEmpty_map (f := Field.shape), map_shape_fields same, List.isEmpty_map]

/-- Documents of one shape have actions both or neither. -/
theorem isEmpty_actions : left.actions.isEmpty = right.actions.isEmpty := by
  rw [← List.isEmpty_map (f := Action.kind), map_kind_actions same, List.isEmpty_map]

/-- Documents of one shape use the same components. -/
theorem usedComponents_eq : usedComponents left = usedComponents right := by
  have scaffold : left.scaffold = right.scaffold := congrArg DocumentShape.scaffold same
  have description : left.description.isSome = right.description.isSome :=
    congrArg DocumentShape.hasDescription same
  have parts : left.fields.map (fun field => "Label" :: controlComponents field.control) =
      right.fields.map (fun field => "Label" :: controlComponents field.control) := by
    apply map_eq_map_of_told _ (map_shape_fields same)
    intro field other alike
    have control : field.control = other.control := congrArg FieldShape.control alike
    exact congrArg (fun control => "Label" :: controlComponents control) control
  simp only [usedComponents, List.flatMap_def, parts, isEmpty_actions same, scaffoldComponents,
    scaffold, description]

/-- Documents of one shape have the same imports. -/
theorem imports_eq (options : Options) : imports left options = imports right options := by
  rw [imports, usedComponents_eq same, imports]

/-- Documents of one shape have rule tables of the same length. -/
theorem length_ruleTable_eq : (ruleTable left.fields).length = (ruleTable right.fields).length := by
  -- Whether a field has rules is told by its shape, so the same fields stay.
  have ruled : (left.fields.filter fun field => !field.rules.isEmpty).map Field.shape =
      (right.fields.filter fun field => !field.rules.isEmpty).map Field.shape := by
    have told (fields : List Field) :
        (fields.filter fun field => !field.rules.isEmpty).map Field.shape =
          (fields.map Field.shape).filter fun shape => !(shape.ruleCount == 0) := by
      rw [List.filter_map]
      congr 2
      funext field
      cases found : field.rules <;> simp [Field.shape, found]
    rw [told, told, map_shape_fields same]
  have entries := length_flatMap_eq length_ruleEntry ruled
  have empty : (left.fields.filter fun field => !field.rules.isEmpty).isEmpty =
      (right.fields.filter fun field => !field.rules.isEmpty).isEmpty := by
    rw [← List.isEmpty_map (f := Field.shape), ruled, List.isEmpty_map]
  simp only [ruleTable, empty]
  split
  · rfl
  · rw [Line.length_block, Line.length_block, entries]

/-- Documents of one shape have states of the same length. -/
theorem length_stateLines_eq :
    (stateLines left.fields).length = (stateLines right.fields).length := by
  have count : left.fields.length = right.fields.length := by
    rw [← List.length_map Field.shape, map_shape_fields same, List.length_map]
  simp only [stateLines, isEmpty_fields same]
  split <;> simp [count]

/-- Documents of one shape have buttons of the same length. -/
theorem length_actionBlock_eq (first last : String) :
    (actionBlock first last left).length = (actionBlock first last right).length := by
  have buttons := length_flatMap_eq length_actionLines (map_kind_actions same)
  simp only [actionBlock, isEmpty_actions same]
  split <;> simp [buttons]

/-- Documents of one shape have cards of the same length. -/
theorem length_cardLines_eq : (cardLines left).length = (cardLines right).length := by
  have blocks := length_flatMap_eq length_fieldLines (map_shape_fields same)
  have description := length_optionalLine (congrArg DocumentShape.hasDescription same)
    fun text => .plain ("<CardDescription>" ++ textChild text ++ "</CardDescription>")
  simp only [cardLines, allFields, Line.length_block, List.length_append, List.length_cons,
    description, blocks, length_actionBlock_eq same]

/-- Documents of one shape have pages of the same length. -/
theorem length_pageLines_eq (style : PageStyle) :
    (pageLines style left).length = (pageLines style right).length := by
  have blocks : (allFields left).length = (allFields right).length :=
    length_flatMap_eq length_fieldLines (map_shape_fields same)
  have fields : (pageFields style left).length = (pageFields style right).length := by
    simp only [pageFields, isEmpty_fields same]
    split <;> simp [blocks]
  have description := length_optionalLine (congrArg DocumentShape.hasDescription same)
    fun text => .plain ("<p className=\"text-muted-foreground\">" ++ textChild text ++ "</p>")
  simp only [pageLines, Line.length_block, List.length_append, List.length_cons, description,
    fields, length_actionBlock_eq same]

/-- Documents of one shape have markup of the same length. -/
theorem length_markupLines_eq : (markupLines left).length = (markupLines right).length := by
  have scaffold : left.scaffold = right.scaffold := congrArg DocumentShape.scaffold same
  unfold markupLines
  rw [scaffold]
  split
  · exact length_cardLines_eq same
  all_goals exact length_pageLines_eq same _

/-- The generator writes as many lines for documents of one shape. -/
theorem length_sourceLines_eq (options : Options) :
    (sourceLines left options).length = (sourceLines right options).length := by
  simp only [sourceLines, componentLines, Line.length_block, List.length_append, List.length_cons,
    List.length_map, imports_eq same, length_ruleTable_eq same, length_stateLines_eq same,
    length_markupLines_eq same]

end

/-- Documents of one shape have code of as many lines exactly if the texts in their attributes have
as many line breaks: no other text of a document changes the number of lines. -/
theorem lineBreaks_generate_eq_iff {left right : Document} (same : left.shape = right.shape)
    (options : Options) :
    lineBreaks (generate left options) = lineBreaks (generate right options) ↔
      lineBreaksIn left.attributeTexts = lineBreaksIn right.attributeTexts := by
  rw [lineBreaks_generate, lineBreaks_generate, length_sourceLines_eq same]
  exact Nat.add_left_cancel_iff

/-- A form with one field, by the label and the placeholder of the field. -/
def remarkForm (label placeholder : String) : Document where
  kind := .form
  title := "Contact"
  fields := [{ id := "f", name := "f", label, control := .input, placeholder := some placeholder }]

/-- A label may have any line breaks. -/
theorem lineBreaks_generate_eq_iff_label :
    (remarkForm "F" "G").shape = (remarkForm "F\nG\n" "H").shape ∧
      lineBreaks (generate (remarkForm "F" "G") {}) =
        lineBreaks (generate (remarkForm "F\nG\n" "H") {}) := by
  have same : (remarkForm "F" "G").shape = (remarkForm "F\nG\n" "H").shape := rfl
  exact ⟨same, (lineBreaks_generate_eq_iff same {}).mpr (by decide)⟩

/-- A line break in a placeholder is one more line of the code. -/
theorem lineBreaks_generate_placeholder :
    (remarkForm "F" "a b").shape = (remarkForm "F" "a\nb").shape ∧
      lineBreaks (generate (remarkForm "F" "a b") {}) + 1 =
        lineBreaks (generate (remarkForm "F" "a\nb") {}) := by
  have same : (remarkForm "F" "a b").shape = (remarkForm "F" "a\nb").shape := rfl
  have before : lineBreaksIn (remarkForm "F" "a b").attributeTexts = 0 := by decide
  have after : lineBreaksIn (remarkForm "F" "a\nb").attributeTexts = 1 := by decide
  rw [lineBreaks_generate, lineBreaks_generate, length_sourceLines_eq same, before, after]
  exact ⟨same, rfl⟩

end Code
end Formwright
