import Formwright.Proofs.Code.LineBreak
import Formwright.Proofs.Code.Source

/-!
# The number of lines of generated code

The code for a document has the lines that the generator writes, and one more for every line break
in a text that stands in an attribute. No other text of the document adds a line.
-/
namespace Formwright

/-! ## Texts in attributes -/

/-- The texts of a field that stand in attributes, each as often as it does. -/
def Field.attributeTexts (field : Field) : List String :=
  field.id :: match field.control with
  | .checkbox | .fileUpload => [field.id]
  | .input | .textarea => field.id :: field.name :: field.placeholder.toList
  | .select => field.id :: (field.placeholder.toList ++ field.choices.map Choice.value)
  | .datePicker => field.id :: field.placeholder.toList

/-- The texts of an action that stand in attributes. -/
def Action.attributeTexts (action : Action) : List String :=
  match action.kind with
  | .link => [action.href.getD "#"]
  | .submit | .button => []

/-- The texts of a document that stand in attributes, each as often as it does. -/
def Document.attributeTexts (document : Document) : List String :=
  document.fields.flatMap Field.attributeTexts ++ document.actions.flatMap Action.attributeTexts

namespace Code
open Line

/-- An attribute has the line breaks of its value. -/
@[simp]
theorem lineBreaks_literalAttribute (name value : String) :
    lineBreaks (literalAttribute name value) = lineBreaks name + lineBreaks value := by
  simp [literalAttribute]

/-- The attribute for a placeholder has its line breaks. -/
@[simp]
theorem lineBreaksIn_placeholderAttribute (field : Field) :
    lineBreaksIn (placeholderAttribute field).toList = lineBreaksIn field.placeholder.toList := by
  cases found : field.placeholder <;> simp [placeholderAttribute, found]

/-- The attribute for a placeholder has its line breaks with a space before it too. -/
@[simp]
theorem lineBreaks_inlinePlaceholder (field : Field) :
    lineBreaks (inlinePlaceholder field) = lineBreaksIn field.placeholder.toList := by
  cases found : field.placeholder <;> simp [inlinePlaceholder, placeholderAttribute, found]

/-- Access to the value of a field has no line breaks. -/
@[simp]
theorem lineBreaks_valueMember (field : Field) : lineBreaks (valueMember field) = 0 := by
  simp [valueMember]

/-- The handler for a field has the line breaks of its argument and of the value it takes. -/
@[simp]
theorem lineBreaks_changeHandler (field : Field) (argument value : String) :
    lineBreaks (changeHandler field argument value) = lineBreaks argument + lineBreaks value := by
  simp [changeHandler]

/-- The label of a field has the line breaks of the id. -/
@[simp]
theorem lineBreaks_labelLine (field : Field) :
    lineBreaks (labelLine field).text = lineBreaks field.id := by
  simp [labelLine]

/-- Plain lines have the line breaks of their texts. -/
theorem innerBreaks_map_plain (texts : List String) :
    innerBreaks (texts.map .plain) = lineBreaksIn texts := by
  rw [innerBreaks, List.map_map]
  exact congrArg lineBreaksIn (List.map_id _)

/-- A control for text has the line breaks of its attributes. -/
theorem innerBreaks_textControl (component : String) (attributes : List String) (field : Field) :
    innerBreaks (textControl component attributes field) =
      lineBreaks component + (lineBreaksIn attributes + lineBreaksIn field.placeholder.toList) := by
  rw [textControl, innerBreaks_block, innerBreaks_map_plain]
  simp

/-- The lines of choices have the line breaks of their values. -/
theorem innerBreaks_choiceLines (choices : List Choice) :
    innerBreaks (choices.map choiceLine) = lineBreaksIn (choices.map Choice.value) := by
  induction choices with
  | nil => rfl
  | cons choice later ih => simp [choiceLine, ih]

/-- The type of an input has no line breaks. -/
@[simp]
theorem lineBreaks_inputType (name : String) : lineBreaks (inputType name) = 0 := by
  unfold inputType
  dsimp only
  split_ifs <;> simp

/-- A control and its label have the line breaks of the texts in their attributes. -/
theorem innerBreaks_controlLines (field : Field) :
    innerBreaks (controlLines field) = lineBreaksIn field.attributeTexts := by
  unfold controlLines Field.attributeTexts
  cases field.control with
  | checkbox => simp
  | input => simp [innerBreaks_textControl, Nat.add_assoc]
  | textarea => simp [innerBreaks_textControl, Nat.add_assoc]
  | select => simp [innerBreaks_choiceLines, Nat.add_assoc]
  | datePicker => simp
  | fileUpload => simp

/-- The block of a field has the line breaks of the texts in its attributes. -/
theorem innerBreaks_fieldLines (field : Field) :
    innerBreaks (fieldLines field) = lineBreaksIn field.attributeTexts := by
  have helper : innerBreaks (field.helperText.map helperLine).toList = 0 := by
    cases field.helperText <;> simp [helperLine]
  rw [fieldLines, innerBreaks_block, innerBreaks_append, innerBreaks_append, helper,
    innerBreaks_controlLines]
  simp [errorLine, braced]

/-- The button of an action has the line breaks of the texts in its attributes. -/
theorem innerBreaks_actionLines (action : Action) :
    innerBreaks (actionLines action) = lineBreaksIn action.attributeTexts := by
  have variant : lineBreaks (variantAttribute action.variant) = 0 := by
    cases action.variant <;> simp [variantAttribute, ActionVariant.buttonVariant]
  unfold actionLines Action.attributeTexts
  cases action.kind <;> simp [buttonLine, variant]

/-- The blocks of fields have the line breaks of the texts in their attributes. -/
@[simp]
theorem innerBreaks_allFields (document : Document) : innerBreaks (allFields document) =
    lineBreaksIn (document.fields.flatMap Field.attributeTexts) :=
  innerBreaks_flatMap document.fields innerBreaks_fieldLines

/-- The buttons of a document have the line breaks of the texts in their attributes, if the element
around them has none. -/
theorem innerBreaks_actionBlock {first last : String} (opening : lineBreaks first = 0)
    (closing : lineBreaks last = 0) (document : Document) :
    innerBreaks (actionBlock first last document) =
      lineBreaksIn (document.actions.flatMap Action.attributeTexts) := by
  unfold actionBlock
  split
  · next none => simp [List.isEmpty_iff.mp none]
  · rw [innerBreaks_block, opening, closing, Nat.zero_add, Nat.add_zero]
    exact innerBreaks_flatMap document.actions innerBreaks_actionLines

/-- The card of a document has the line breaks of the texts in its attributes. -/
theorem innerBreaks_cardLines (document : Document) :
    innerBreaks (cardLines document) = lineBreaksIn document.attributeTexts := by
  have description : innerBreaks (document.description.map fun text => Line.plain
      ("<CardDescription>" ++ textChild text ++ "</CardDescription>")).toList = 0 := by
    cases document.description <;> simp
  have buttons := innerBreaks_actionBlock
    (lineBreaks_ofList rfl : lineBreaks "<CardFooter className=\"flex justify-end gap-2\">" = 0)
    (lineBreaks_ofList rfl : lineBreaks "</CardFooter>" = 0) document
  simp [cardLines, Document.attributeTexts, description, buttons]

/-- The page of a document has the line breaks of the texts in its attributes, if its style has
none. -/
theorem innerBreaks_pageLines {style : PageStyle} (width : lineBreaks style.width = 0)
    (grid : lineBreaksIn style.grid.toList = 0) (document : Document) :
    innerBreaks (pageLines style document) = lineBreaksIn document.attributeTexts := by
  have description : innerBreaks (document.description.map fun text => Line.plain
      ("<p className=\"text-muted-foreground\">" ++ textChild text ++ "</p>")).toList = 0 := by
    cases document.description <;> simp
  have separator : innerBreaks (if style.separator then
      [.plain "<Separator className=\"my-6\" />"] else []) = 0 := by
    split <;> simp
  have fields : innerBreaks (pageFields style document) = innerBreaks (allFields document) := by
    unfold pageFields
    split
    · next classes arranged _ =>
      rw [arranged] at grid
      have classless : lineBreaks classes = 0 := by simpa using grid
      simp [classless]
    · rfl
  have buttons := innerBreaks_actionBlock
    (lineBreaks_ofList rfl : lineBreaks "<div className=\"flex justify-end gap-2\">" = 0)
    (lineBreaks_ofList rfl : lineBreaks "</div>" = 0) document
  simp [pageLines, Document.attributeTexts, width, description, separator, fields, buttons]

/-- The markup of a document has the line breaks of the texts in its attributes. -/
theorem innerBreaks_markupLines (document : Document) :
    innerBreaks (markupLines document) = lineBreaksIn document.attributeTexts := by
  unfold markupLines
  split
  · exact innerBreaks_cardLines document
  all_goals exact innerBreaks_pageLines (by simp) (by simp) document

/-! ## Lines without line breaks -/

/-- Names with commas between them have no line breaks. -/
theorem lineBreaks_intercalate {names : List String} (plain : ∀ name ∈ names, lineBreaks name = 0) :
    lineBreaks (", ".intercalate names) = 0 := by
  induction names with
  | nil => rfl
  | cons name later ih =>
    rw [List.forall_mem_cons] at plain
    cases later with
    | nil => simpa using plain.1
    | cons next later =>
      rw [String.intercalate_cons_cons, lineBreaks_append, lineBreaks_append, plain.1, ih plain.2]
      rfl

/-- The lines of imports have no line breaks inside them. -/
theorem innerBreaks_imports (document : Document) (options : Options) :
    innerBreaks ((imports document options).map Import.line) = 0 := by
  apply innerBreaks_eq_zero
  rw [List.forall_mem_map]
  intro used listed
  have names : lineBreaks (", ".intercalate used.names) = 0 := by
    apply lineBreaks_intercalate
    intro name named
    exact lineBreaks_of_isName (isName_of_mem_usedComponents ((mem_names_iff listed).mp named).1)
  simp [Import.line, names]

/-- What limits a value is written without line breaks. -/
theorem lineBreaks_demandValue (demand : Demand) : lineBreaks (demandValue demand) = 0 := by
  have number (value : Nat) : lineBreaks (toString value) = 0 :=
    lineBreaks_of_isNumeric (Json.isNumeric_toString value)
  cases demand with
  | required | email => rfl
  | minLength value | maxLength value =>
    rw [demandValue, lineBreaks_append, lineBreaks_append, number]
    rfl
  | pattern source => simp [demandValue, patternExpression]

/-- The literal of a rule has no line breaks. -/
@[simp]
theorem lineBreaks_ruleLiteral (label : String) (rule : Rule) :
    lineBreaks (ruleLiteral label rule) = 0 := by
  have name : lineBreaks rule.demand.name = 0 := by
    cases rule.demand <;> simp [Demand.name]
  simp [ruleLiteral, name, lineBreaks_demandValue]

/-- The entry of a field in the rule table has no line breaks inside its lines. -/
theorem innerBreaks_ruleEntry (field : Field) : innerBreaks (ruleEntry field) = 0 := by
  have rules : innerBreaks
      (field.rules.map fun rule => .plain (ruleLiteral field.label rule ++ ",")) = 0 := by
    apply innerBreaks_eq_zero
    rw [List.forall_mem_map]
    intro rule _
    simp
  simp [ruleEntry, rules]

/-- The rule table has no line breaks inside its lines. -/
theorem innerBreaks_ruleTable (fields : List Field) : innerBreaks (ruleTable fields) = 0 := by
  have entries (ruled : List Field) : innerBreaks (ruled.flatMap ruleEntry) = 0 := by
    induction ruled with
    | nil => rfl
    | cons field later ih =>
      rw [List.flatMap_cons, innerBreaks_append, innerBreaks_ruleEntry, ih]
  unfold ruleTable
  dsimp only
  split
  · simp
  · simp [entries]

/-- The state of the component has no line breaks inside its lines. -/
theorem innerBreaks_stateLines (fields : List Field) : innerBreaks (stateLines fields) = 0 := by
  have initial (field : Field) : lineBreaks (initialValue field) = 0 := by
    unfold initialValue
    split <;> simp
  have entries : innerBreaks (fields.map stateEntry) = 0 := by
    apply innerBreaks_eq_zero
    rw [List.forall_mem_map]
    intro field _
    simp [stateEntry, initial]
  unfold stateLines
  dsimp only
  split
  · simp
  · simp [entries]

/-- The lines that declare the types have no line breaks inside. -/
theorem innerBreaks_typeLines : innerBreaks typeLines = 0 := by
  apply innerBreaks_eq_zero
  simp only [typeLines, List.forall_mem_cons, text_plain, text_blank, List.not_mem_nil,
    false_implies, implies_true, and_true]
  repeat' apply And.intro
  all_goals exact lineBreaks_ofList rfl

/-- The lines of the function that checks a value have no line breaks inside. -/
theorem innerBreaks_checkLines : innerBreaks checkLines = 0 := by
  apply innerBreaks_eq_zero
  simp only [checkLines, List.forall_mem_cons, text_plain, lineBreaks_append, Nat.add_eq_zero_iff,
    List.not_mem_nil, false_implies, implies_true, and_true]
  repeat' apply And.intro
  all_goals exact lineBreaks_ofList rfl

/-- The lines of the handlers have no line breaks inside. -/
theorem innerBreaks_handlerLines : innerBreaks handlerLines = 0 := by
  apply innerBreaks_eq_zero
  simp only [handlerLines, block, List.forall_mem_append, List.forall_mem_cons, text_plain,
    text_blank, text_opening, text_closing, List.not_mem_nil, false_implies, implies_true, and_true]
  repeat' apply And.intro
  all_goals exact lineBreaks_ofList rfl

/-- The first line of the component has no line breaks inside. -/
theorem lineBreaks_componentHead {name : String} (sound : isName name = true) :
    lineBreaks (componentHead name) = 0 := by
  unfold componentHead
  simp [lineBreaks_of_isName sound]

/-- The component of a document has the line breaks of the texts in attributes inside its lines. -/
theorem innerBreaks_componentLines (document : Document) (options : Options) :
    innerBreaks (componentLines document options) = lineBreaksIn document.attributeTexts := by
  have head := lineBreaks_componentHead (isName_componentName document options)
  have gap : innerBreaks [.blank] = 0 := rfl
  have ending : lineBreaks "\x7d" = 0 := rfl
  have markup : innerBreaks (block "return (" (markupLines document) ");") =
      lineBreaksIn document.attributeTexts := by
    simp [innerBreaks_markupLines]
  simp only [componentLines, innerBreaks_block, innerBreaks_append, head, ending, gap, markup,
    innerBreaks_stateLines, innerBreaks_handlerLines, Nat.zero_add, Nat.add_zero]

/-- The code for a document has the line breaks of the texts in its attributes inside its lines. -/
theorem innerBreaks_sourceLines (document : Document) (options : Options) :
    innerBreaks (sourceLines document options) = lineBreaksIn document.attributeTexts := by
  have directive : innerBreaks (if options.clientDirective then
      [.plain "\"use client\";", .blank] else []) = 0 := by
    split <;> simp
  have react : innerBreaks [.plain "import \x7b useState, type FormEvent \x7d from \"react\";"] =
      0 := by
    simp
  have gap : innerBreaks [.blank] = 0 := rfl
  simp only [sourceLines, innerBreaks_append, directive, react, gap, innerBreaks_imports,
    innerBreaks_typeLines, innerBreaks_ruleTable, innerBreaks_checkLines,
    innerBreaks_componentLines, Nat.zero_add]

/-- The code for a document has a line break for every line that the generator writes, and those of
the texts in attributes. -/
theorem lineBreaks_generate (document : Document) (options : Options) :
    lineBreaks (generate document options) =
      (sourceLines document options).length + lineBreaksIn document.attributeTexts := by
  rw [generate, render, lineBreaks_renderAt, innerBreaks_sourceLines]

end Code
end Formwright
