import Formwright.Proofs.Code.MarkupTag
import Formwright.Proofs.Code.Source

/-!
# Controls and buttons in generated code

The tags of generated code say which controls and buttons it shows: the type and the placeholder of
a control, the options of a select control, and the variant, the type, the target and the label of
a button. They are those of the fields of the document and then of its actions, in their order.
-/
namespace Formwright

/-- A control or a button as a user sees it. -/
inductive Widget where
  | input (type placeholder : Option String)
  | textarea (placeholder : Option String)
  | select (placeholder : Option String) (options : List Choice)
  | checkbox
  | datePicker (placeholder : Option String)
  | fileUpload
  /-- A button, which leads to an address if it is a link. -/
  | button (variant : String) (type href : Option String) (label : String)
deriving DecidableEq, Repr

namespace Code

/-! ## Controls and buttons from tags -/

namespace Tag

/-- The literal attribute of a name. -/
def attribute? (tag : Tag) (name : String) : Option String := tag.attributes.lookup name

/-- Whether the element says something of the control or the button that it stands in. -/
def isPart (tag : Tag) : Bool := tag.name ∈ ["SelectValue", "SelectItem", "a"]

/-- The control or the button of a tag, given the tags of the parts after it. A button without a
variant is of the default one, and one around a link leads where the link does. -/
def widget? (tag : Tag) (parts : List Tag) : Option Widget :=
  match tag.name with
  | "Input" => some (.input (tag.attribute? "type") (tag.attribute? "placeholder"))
  | "Textarea" => some (.textarea (tag.attribute? "placeholder"))
  | "Select" =>
    let shown := parts.find? (·.name == "SelectValue")
    let items := parts.filter (·.name == "SelectItem")
    some (.select (shown.bind (·.attribute? "placeholder"))
      (items.map fun item => ⟨item.text, (item.attribute? "value").getD ""⟩))
  | "Checkbox" => some .checkbox
  | "DatePicker" => some (.datePicker (tag.attribute? "placeholder"))
  | "FileUpload" => some .fileUpload
  | "Button" =>
    let link := parts.find? (·.name == "a")
    some (.button ((tag.attribute? "variant").getD "default") (tag.attribute? "type")
      (link.bind (·.attribute? "href")) (link.getD tag).text)
  | _ => none

end Tag

/-- The controls and buttons of some tags, in their order. -/
def widgetsIn : List Tag → List Widget
  | [] => []
  | tag :: later => (tag.widget? (later.takeWhile Tag.isPart)).toList ++ widgetsIn later

/-- The controls and buttons that a source shows: none can be told if it is not read to its end. -/
def widgetsOf? (source : String) : Option (List Widget) :=
  (tokenize? source).map fun tokens => widgetsIn (tagsIn tokens)

end Code

namespace Widget
open Code

/-- The control of a field. -/
def ofField (field : Field) : Widget :=
  match field.control with
  | .input => .input (some (inputType field.name)) field.placeholder
  | .textarea => .textarea field.placeholder
  | .select => .select field.placeholder field.choices
  | .checkbox => .checkbox
  | .datePicker => .datePicker field.placeholder
  | .fileUpload => .fileUpload

/-- The button of an action. -/
def ofAction (action : Action) : Widget :=
  match action.kind with
  | .submit => .button action.variant.buttonVariant (some "submit") none action.label
  | .button => .button action.variant.buttonVariant (some "button") none action.label
  | .link => .button "link" none (some (action.href.getD "#")) action.label

end Widget

namespace Code

/-- The tags do not start in the middle of a control or a button. -/
def startsWhole (tags : List Tag) : Bool := tags.head?.all (!·.isPart)

/-- Before a tag that is no part, a control or a button is told by its own tags. -/
theorem widgetsIn_append {tag : Tag} {parts : List Tag} (within : ∀ part ∈ parts, part.isPart)
    {rest : List Tag} (apart : startsWhole rest = true) :
    widgetsIn (tag :: parts ++ rest) = (tag.widget? parts).toList ++ widgetsIn rest := by
  have parted : (parts ++ rest).takeWhile Tag.isPart = parts := by
    rw [List.takeWhile_append_of_pos within]
    cases rest with
    | nil => simp
    | cons next _ =>
      have whole : next.isPart = false := by simpa [startsWhole] using apart
      simp [whole]
  have passed : widgetsIn (parts ++ rest) = widgetsIn rest := by
    clear parted
    induction parts with
    | nil => rfl
    | cons part later ih =>
      rw [List.forall_mem_cons] at within
      have none (parts : List Tag) : part.widget? parts = none := by
        have named := within.1
        simp only [Tag.isPart, decide_eq_true_eq, List.mem_cons, List.not_mem_nil,
          or_false] at named
        rcases named with named | named | named <;> simp [Tag.widget?, named]
      rw [List.cons_append, widgetsIn, none, ih within.2]
      rfl
  rw [List.cons_append, widgetsIn, parted, passed]

/-- The tags of a field are told as its control. -/
theorem widgetsIn_fieldTags (field : Field) {rest : List Tag} (apart : startsWhole rest = true) :
    widgetsIn (fieldTags field ++ rest) = Widget.ofField field :: widgetsIn rest := by
  have placeholder : (placeholderAttributes field).lookup "placeholder" = field.placeholder := by
    unfold placeholderAttributes
    cases field.placeholder <;> rfl
  have alone (tag : Tag) : widgetsIn ([tag] ++ rest) = (tag.widget? []).toList ++ widgetsIn rest :=
    widgetsIn_append (by simp) apart
  unfold fieldTags Widget.ofField
  cases field.control with
  | select =>
    have items : (field.choices.map fun choice =>
        (⟨"SelectItem", [("value", choice.value)], choice.label⟩ : Tag)).filter
          (·.name == "SelectItem") = field.choices.map fun choice =>
        ⟨"SelectItem", [("value", choice.value)], choice.label⟩ := by
      simp [List.filter_map, Function.comp_def]
    rw [widgetsIn_append (by simp [Tag.isPart]) apart]
    simp [Tag.widget?, Tag.attribute?, placeholder, items, Function.comp_def]
  | input | textarea | checkbox | datePicker | fileUpload =>
    rw [alone]
    simp [Tag.widget?, Tag.attribute?, List.lookup_cons, placeholder]

/-- The tags of an action are told as its button. -/
theorem widgetsIn_actionTags (action : Action) {rest : List Tag}
    (apart : startsWhole rest = true) :
    widgetsIn (actionTags action ++ rest) = Widget.ofAction action :: widgetsIn rest := by
  have variant : ((variantAttributes action.variant).lookup "variant").getD "default" =
      action.variant.buttonVariant := by
    cases action.variant <;> rfl
  have typeless : (variantAttributes action.variant).lookup "type" = none := by
    cases action.variant <;> rfl
  unfold actionTags Widget.ofAction
  cases action.kind with
  | submit | button =>
    rw [widgetsIn_append (by simp) apart]
    simp [Tag.widget?, Tag.attribute?, List.lookup_cons, variant]
  | link =>
    rw [← List.singleton_append, widgetsIn_append (by simp [Tag.isPart]) apart]
    simp [Tag.widget?, Tag.attribute?, List.lookup_cons]

/-- The tags of a field start with its control. -/
theorem startsWhole_fieldTags (field : Field) (rest : List Tag) :
    startsWhole (fieldTags field ++ rest) = true := by
  unfold fieldTags
  cases field.control <;> rfl

/-- The tags of an action start with its button. -/
theorem startsWhole_actionTags (action : Action) (rest : List Tag) :
    startsWhole (actionTags action ++ rest) = true := by
  unfold actionTags
  cases action.kind <;> rfl

/-- Parts whose tags are told one by one are told one after the other. -/
theorem widgetsIn_flatMap {α : Type} {tags : α → List Tag} {widget : α → Widget}
    (starts : ∀ part rest, startsWhole (tags part ++ rest) = true)
    (told : ∀ part {rest}, startsWhole rest = true →
      widgetsIn (tags part ++ rest) = widget part :: widgetsIn rest)
    (parts : List α) {rest : List Tag} (apart : startsWhole rest = true) :
    startsWhole (parts.flatMap tags ++ rest) = true ∧
      widgetsIn (parts.flatMap tags ++ rest) = parts.map widget ++ widgetsIn rest := by
  induction parts with
  | nil => exact ⟨apart, rfl⟩
  | cons part later ih =>
    rw [List.flatMap_cons, List.append_assoc, told part ih.1, ih.2]
    exact ⟨starts part _, rfl⟩

/-- The tags of a document are told as the controls of its fields and the buttons of its
actions. -/
theorem widgetsIn_markupTags (document : Document) :
    widgetsIn (markupTags document) =
      document.fields.map Widget.ofField ++ document.actions.map Widget.ofAction := by
  obtain ⟨whole, actions⟩ := widgetsIn_flatMap startsWhole_actionTags widgetsIn_actionTags
    document.actions (rfl : startsWhole [] = true)
  rw [List.append_nil] at whole actions
  rw [markupTags, (widgetsIn_flatMap startsWhole_fieldTags widgetsIn_fieldTags document.fields
    whole).2, actions, widgetsIn, List.append_nil]

/-! ## The whole source -/

/-- Lexemes that use nothing have no tags of controls or buttons. -/
theorem IsQuiet.tell {outer inner : List Region} {lines : List Line} {tokens : List Lexeme}
    (quiet : IsQuiet tokens) (read : Line.AllRead outer lines inner tokens) :
    Line.Tell outer lines inner [] := by
  obtain ⟨shut, none⟩ := tagsIn_of_uses (by rw [quiet.2]; rfl)
  exact ⟨tokens, read, shut, none⟩

/-- The lines of the code for a document have the tags of its markup. -/
theorem tell_sourceLines (document : Document) (options : Options) :
    Line.Tell [.code] (sourceLines document options) [.code] (markupTags document) := by
  obtain ⟨lead, leadRead, leadFills⟩ := fill_leadLines document options
  obtain ⟨middle, middleRead, middleFills⟩ := fill_middleLines document options
  have table : IsQuiet (tableHead ++ tableTokens document.fields ++ [.mark ';']) := by
    have head : IsQuiet tableHead := ⟨by decide, by decide⟩
    exact (head.append (isQuiet_table _)).append ⟨by decide, by decide⟩
  have state : IsQuiet (stateHead ++ stateTokens document.fields ++ stateTail) := by
    have head : IsQuiet stateHead := ⟨by decide, by decide⟩
    exact (head.append (isQuiet_state _)).append ⟨by decide, by decide⟩
  have markup : Line.Tell [.code, .code] (markupLines document) [.code, .code] _ :=
    tell_markupLines document
  have whole := (leadFills.1.tell leadRead).append ((table.tell (allRead_ruleTable _)).append
    ((middleFills.1.tell middleRead).append ((state.tell (allRead_stateLines _)).append
      (((show_handlerLines.tell rfl).append markup).append (show_lastLines.tell rfl)))))
  simpa [sourceLines, componentLines, Line.block] using whole

/-- The code for a document shows the controls of its fields and the buttons of its actions. -/
theorem widgetsOf?_generate (document : Document) (options : Options) :
    widgetsOf? (generate document options) = some
      (document.fields.map Widget.ofField ++ document.actions.map Widget.ofAction) := by
  obtain ⟨tokens, read, -, found⟩ := tell_sourceLines document options
  rw [widgetsOf?, generate, tokenize?_render read, Option.map_some, found, widgetsIn_markupTags]

end Code
end Formwright
