import Formwright.Proofs.Code.Control
import Formwright.Proofs.Code.Markup
import Formwright.Proofs.Code.Tag

/-!
# The tags of the markup of a document

From the lexemes of a control or a button it is told which tags it has: its own, with literal
attributes for what the document says of it, and those of its parts. The markup of a document has
the tags of its fields and then of its actions, whatever stands around them.
-/
namespace Formwright.Code

variable {outer : List Region}

/-! ## Lexemes of attributes -/

/-- Lexemes of attributes whose values are expressions: they end no tag and hold neither a literal
attribute nor a text child. -/
def isExpression (tokens : List Lexeme) : Bool :=
  !tokens.any Lexeme.endsTag && attributesIn tokens == [] && childIn tokens == ""

/-- Literal attributes end no tag. -/
theorem any_endsTag_attributeTokens (attributes : List (String × String)) :
    (attributeTokens attributes).any Lexeme.endsTag = false := by
  induction attributes with
  | nil => rfl
  | cons first later ih => exact ih

/-- Literal attributes are found in front of anything. -/
theorem attributesIn_append (attributes : List (String × String)) (rest : List Lexeme) :
    attributesIn (attributeTokens attributes ++ rest) = attributes ++ attributesIn rest := by
  induction attributes with
  | nil => rfl
  | cons first later ih => exact congrArg (first :: ·) ih

/-- Literal attributes are no text children. -/
theorem childIn_append (attributes : List (String × String)) (rest : List Lexeme) :
    childIn (attributeTokens attributes ++ rest) = childIn rest := by
  induction attributes with
  | nil => rfl
  | cons first later ih => exact ih

/-- A text child ends no tag, and is found as itself. -/
theorem childIn_childTokens (text : String) :
    (childTokens text).any Lexeme.endsTag = false ∧ attributesIn (childTokens text) = [] ∧
      childIn (childTokens text) = text := by
  unfold childTokens
  split_ifs with marked empty
  · exact ⟨rfl, rfl, rfl⟩
  · exact ⟨rfl, rfl, (String.isEmpty_iff.mp empty).symm⟩
  · exact ⟨rfl, rfl, rfl⟩

section

variable {name : String} {body rest : List Lexeme} {stop : Lexeme}

/-- A tag is found with what stands between its name and its end. -/
theorem tagsIn_opening (listed : name ∈ widgetElements)
    (within : body.any Lexeme.endsTag = false) (ends : stop.endsTag = true) :
    tagsIn (.opening name :: (body ++ stop :: rest)) =
      ⟨name, attributesIn body, childIn body⟩ :: tagsIn (stop :: rest) := by
  have held : tagBody (body ++ stop :: rest) = body := by
    rw [tagBody, List.takeWhile_append_of_pos fun token member => ?_, List.takeWhile_cons]
    · simp [ends]
    · simpa using List.any_eq_false.mp within token member
  have passed : tagsIn (body ++ stop :: rest) = tagsIn (stop :: rest) := by
    clear held
    induction body with
    | nil => rfl
    | cons token later ih =>
      rw [List.any_cons, Bool.or_eq_false_iff] at within
      cases token with
      | opening _ => cases within.1
      | _ => exact ih within.2
  rw [tagsIn, if_pos listed, held, passed]

/-- A tag does not go on after its end. -/
theorem isShut_opening (within : body.any Lexeme.endsTag = false) (ends : stop.endsTag = true) :
    isShut (.opening name :: (body ++ stop :: rest)) = isShut (stop :: rest) := by
  have passed : isShut (body ++ stop :: rest) = isShut (stop :: rest) := by
    induction body with
    | nil => rfl
    | cons token later ih =>
      rw [List.any_cons, Bool.or_eq_false_iff] at within
      cases token with
      | opening _ => cases within.1
      | _ => exact ih within.2
  simp [isShut, passed, ends]

end

/-- The lexemes of a tag with the given attributes, up to what ends it. -/
theorem tag_of_tokens {name : String} (listed : name ∈ widgetElements)
    (attributes : List (String × String)) {expression : List Lexeme}
    (plain : isExpression expression = true) {stop : Lexeme} (ends : stop.endsTag = true)
    (rest : List Lexeme) :
    isShut (.opening name :: (attributeTokens attributes ++ expression ++ stop :: rest)) =
        isShut (stop :: rest) ∧
      tagsIn (.opening name :: (attributeTokens attributes ++ expression ++ stop :: rest)) =
        ⟨name, attributes, ""⟩ :: tagsIn (stop :: rest) := by
  simp only [isExpression, Bool.and_eq_true, Bool.not_eq_true', beq_iff_eq] at plain
  obtain ⟨⟨within, none⟩, childless⟩ := plain
  have body : (attributeTokens attributes ++ expression).any Lexeme.endsTag = false := by
    rw [List.any_append, any_endsTag_attributeTokens, within]
    rfl
  refine ⟨isShut_opening body ends, ?_⟩
  rw [tagsIn_opening listed body ends, attributesIn_append, childIn_append, none, childless,
    List.append_nil]

/-! ## Controls -/

/-- The lexemes of the expressions of a control hold no literal attribute and end no tag. -/
theorem isExpression_controls (field : Field) :
    isExpression (textTokens field) = true ∧ isExpression (checkboxTokens field) = true ∧
      isExpression (datePickerTokens field) = true ∧
      isExpression (fileUploadTokens field) = true ∧
      isExpression (selectTokens field ++ [.mark '>']) = true := by
  unfold textTokens checkboxTokens datePickerTokens selectTokens valueTokens memberTokens
  split <;> exact ⟨rfl, rfl, rfl, rfl, rfl⟩

/-- A control for text has its attributes and the placeholder of its field. -/
theorem tell_textControl {component : String} (listed : component ∈ widgetElements)
    (attributes : List (String × String)) (field : Field)
    (opens : Line.readAll? [.element] [.opening ("<" ++ component)] =
      some ([.tag, .element], [.opening component]))
    (sound : attributes.all (fun entry => isName entry.1) = true) :
    Line.Tell (.element :: outer) (textControl component
        (attributes.map fun entry => literalAttribute entry.1 entry.2) field)
      (.element :: outer) [⟨component, attributes ++ placeholderAttributes field, ""⟩] := by
  obtain ⟨shut, found⟩ := tag_of_tokens listed (attributes ++ placeholderAttributes field)
    (isExpression_controls field).1 (rfl : (Lexeme.mark '/').endsTag = true) [.mark '>']
  exact ⟨_, allRead_textControl attributes field opens sound, shut, found⟩

/-- A line with a tag without children has the tag. -/
theorem tell_tagLine {name text : String} (listed : name ∈ widgetElements)
    {attributes : List (String × String)} {expression : List Lexeme}
    (plain : isExpression expression = true)
    (read : Reads (.element :: outer) text Pending.idle.endsAt (.element :: outer)
      (.opening name :: (attributeTokens attributes ++ expression ++ [.mark '/', .mark '>'])))
    (starts : text.toList.head?.any (fun c => !Json.isGap c) = true) :
    Line.Tell (.element :: outer) [.plain text] (.element :: outer) [⟨name, attributes, ""⟩] := by
  obtain ⟨shut, found⟩ := tag_of_tokens listed attributes plain
    (rfl : (Lexeme.mark '/').endsTag = true) [.mark '>']
  exact ⟨_, read.line starts rfl (by decide) rfl, shut, found⟩

/-- An element with a text is read as its tag first, with its attributes and the text. -/
theorem exists_textElement {name front back : String} (listed : name ∈ widgetElements)
    (attributes : List (String × String))
    (opened : Reads (.element :: outer) front Pending.idle.endsAt (.element :: .element :: outer)
      (.opening name :: (attributeTokens attributes ++ [.mark '>'])))
    (starts : front.toList.head?.any (fun c => !Json.isGap c) = true) (text : String)
    (closes : isRead [.element] back .idle [] [.closing name, .mark '>'] = true)
    (ends : back.toList.head?.any (Pending.child []).endsAt = true) :
    ∃ rest, Line.AllRead (.element :: outer) [.plain (front ++ textChild text ++ back)]
        (.element :: outer) (.opening name :: rest) ∧
      isShut (.opening name :: rest) = true ∧
      tagsIn (.opening name :: rest) = [⟨name, attributes, text⟩] := by
  have read := (opened.append (reads_textChild text)).before
    (reads_of_isRead closes (.element :: outer)) ends
  have line : Line.AllRead (.element :: outer) [.plain (front ++ textChild text ++ back)]
      (.element :: outer) _ :=
    read.line (any_head?_append (any_head?_append starts _) _) rfl (by decide) rfl
  obtain ⟨endless, attributeless, shown⟩ := childIn_childTokens text
  have within : (attributeTokens attributes ++ (.mark '>' :: childTokens text)).any
      Lexeme.endsTag = false := by
    rw [List.any_append, any_endsTag_attributeTokens, List.any_cons, endless]
    rfl
  have ended : (Lexeme.closing name).endsTag = true := rfl
  have bare : attributesIn (.mark '>' :: childTokens text) = [] := attributeless
  have held : childIn (.mark '>' :: childTokens text) = text := shown
  refine ⟨(attributeTokens attributes ++ (.mark '>' :: childTokens text))
    ++ .closing name :: [.mark '>'], by simpa using line, isShut_opening within ended, ?_⟩
  rw [tagsIn_opening listed within ended, attributesIn_append, childIn_append, bare, held,
    List.append_nil]
  rfl

/-- A choice has its value for an attribute and its label for a text. -/
theorem tell_choiceLine (choice : Choice) :
    Line.Tell (.element :: outer) [choiceLine choice] (.element :: outer)
      [⟨"SelectItem", [("value", choice.value)], choice.label⟩] := by
  have front := reads_attributedTag (by decide : isRead [.element] "<SelectItem " .idle
    [.tag, .element] [.opening "SelectItem"] = true) (rfl : isName "value" = true) choice.value
  obtain ⟨rest, told⟩ := exists_textElement (by decide) _ (front outer) (by simp; rfl) choice.label
    (by decide : isRead [.element] "</SelectItem>" .idle [] [.closing "SelectItem", .mark '>'])
    (by decide)
  exact ⟨_, told⟩

/-- The first lines of a select control have nothing to say, and the one inside them goes on. -/
theorem tell_selectHead (field : Field) :
    Line.Tell (.element :: outer)
      [.opening ("<Select value=\x7bString(" ++ valueMember field
          ++ " ?? \"\")\x7d onValueChange=" ++ changeHandler field "value" "value" ++ ">"),
        .opening ("<SelectTrigger " ++ literalAttribute "id" field.id ++ ">")]
      (.element :: .element :: .element :: outer) [⟨"Select", [], ""⟩] := by
  have select : Line.AllRead (.element :: outer) [.opening _] (.element :: .element :: outer) _ :=
    (reads_select field).line (by simp; rfl) rfl (by decide) rfl
  have trigger : Line.AllRead (.element :: .element :: outer) [.opening _]
      (.element :: .element :: .element :: outer) _ :=
    (reads_attributedTag (by decide : isRead [.element] "<SelectTrigger " .idle [.tag, .element]
      [.opening "SelectTrigger"] = true) (rfl : isName "id" = true) field.id
      (.element :: outer)).line (by simp; rfl) rfl (by decide) rfl
  obtain ⟨-, -, -, -, plain⟩ := isExpression_controls field
  obtain ⟨shut, found⟩ := tag_of_tokens (by decide : "Select" ∈ widgetElements) [] plain
    (rfl : (Lexeme.opening "SelectTrigger").endsTag = true)
    [.word "id", .mark '=', .attribute field.id, .mark '>']
  have whole := select.append trigger
  exact ⟨_, by simpa [attributeTokens] using whole, shut, found⟩

/-- The tags of the control of a field. -/
def fieldTags (field : Field) : List Tag :=
  match field.control with
  | .input => [⟨"Input", [("id", field.id), ("name", field.name), ("type", inputType field.name)]
      ++ placeholderAttributes field, ""⟩]
  | .textarea =>
    [⟨"Textarea", [("id", field.id), ("name", field.name)] ++ placeholderAttributes field, ""⟩]
  | .select => ⟨"Select", [], ""⟩ :: ⟨"SelectValue", placeholderAttributes field, ""⟩
      :: field.choices.map fun choice => ⟨"SelectItem", [("value", choice.value)], choice.label⟩
  | .checkbox => [⟨"Checkbox", [("id", field.id)], ""⟩]
  | .datePicker => [⟨"DatePicker", ("id", field.id) :: placeholderAttributes field, ""⟩]
  | .fileUpload => [⟨"FileUpload", [("id", field.id)], ""⟩]

/-- A line that closes an element has no tags. -/
theorem Line.tell_closing {region : Region} {last : String}
    (closes : linesUses? [.element, region] [.closing last] = some ([region], []))
    (outer : List Region) :
    Line.Tell (.element :: region :: outer) [.closing last] (region :: outer) [] :=
  (show_of_linesUses? closes outer).tell rfl

/-- Whether a line in a region opens an element that is neither a control nor a button. -/
def Line.opensFrame (region : Region) (first : String) : Bool :=
  (linesUses? [region] [.opening first]).any fun (inner, used) =>
    inner == [.element, region] && !used.any Use.isWidget

/-- An element that is neither a control nor a button has the tags of what it holds. -/
theorem Line.tell_element {region : Region} {first last : String} {body : List Line}
    {found : List Tag} (opens : opensFrame region first = true)
    (closes : linesUses? [.element, region] [.closing last] = some ([region], []))
    (inside : Line.Tell (.element :: region :: outer) body (.element :: region :: outer) found) :
    Line.Tell (region :: outer) (block first body last) (region :: outer) found := by
  obtain ⟨⟨inner, used⟩, shown, frame⟩ := (Option.any_eq_true ..).mp opens
  simp only [Bool.and_eq_true, beq_iff_eq, Bool.not_eq_true'] at frame
  obtain ⟨rfl, other⟩ := frame
  have whole := (((show_of_linesUses? shown outer).tell other).append inside).append
    (tell_closing closes outer)
  rwa [List.nil_append, List.append_nil] at whole

/-- The control of a field has its tags. -/
theorem tell_controlLines (field : Field) :
    Line.Tell (.element :: outer) (controlLines field) (.element :: outer) (fieldTags field) := by
  have label {outer : List Region} : Line.Tell (.element :: outer) [labelLine field]
      (.element :: outer) [] := (show_labelLine field).tell (by decide)
  obtain ⟨-, checkbox, datePicker, fileUpload, -⟩ := isExpression_controls field
  unfold controlLines fieldTags
  cases field.control with
  | checkbox =>
    have box : Line.Tell (.element :: .element :: outer) [.plain _] (.element :: .element :: outer)
        [⟨"Checkbox", [("id", field.id)], ""⟩] :=
      tell_tagLine (by decide) checkbox (reads_checkbox field) (by simp; rfl)
    exact Line.tell_element (by decide) (by decide) (box.append label)
  | input =>
    exact label.append (tell_textControl (by decide)
      [("id", field.id), ("name", field.name), ("type", inputType field.name)] field
      (by decide) (by simp only [List.all_cons, List.all_nil]; decide))
  | textarea =>
    exact label.append (tell_textControl (by decide) [("id", field.id), ("name", field.name)] field
      (by decide) (by simp only [List.all_cons, List.all_nil]; decide))
  | select =>
    have choices : Line.Tell (.element :: .element :: outer)
        (Line.block "<SelectContent>" (field.choices.map choiceLine) "</SelectContent>")
        (.element :: .element :: outer) (field.choices.map fun choice =>
          ⟨"SelectItem", [("value", choice.value)], choice.label⟩) := by
      refine Line.tell_element (by decide) (by decide) ?_
      rw [List.map_eq_flatMap, List.map_eq_flatMap]
      exact Line.tell_flatMap field.choices tell_choiceLine
    have triggerEnd := Line.tell_closing (by decide : Line.linesUses? [.element, .element]
      [.closing "</SelectTrigger>"] = some ([.element], [])) (.element :: outer)
    have selectEnd := Line.tell_closing (by decide : Line.linesUses? [.element, .element]
      [.closing "</Select>"] = some ([.element], [])) outer
    have value {outer : List Region} : Line.Tell (.element :: outer)
        [.plain ("<SelectValue" ++ inlinePlaceholder field ++ " />")] (.element :: outer)
        [⟨"SelectValue", placeholderAttributes field, ""⟩] :=
      tell_tagLine (by decide) (rfl : isExpression [] = true)
        (by simpa using reads_selectValue field) (by simp; rfl)
    have inside := ((tell_selectHead field).append value).append triggerEnd
    have whole := label.append ((inside.append choices).append selectEnd)
    simpa [Line.block] using whole
  | datePicker =>
    exact label.append (tell_tagLine (by decide) datePicker (reads_datePicker field) (by simp; rfl))
  | fileUpload =>
    exact label.append (tell_tagLine (by decide) fileUpload (reads_fileUpload field) (by simp; rfl))

/-- An optional element that is neither a control nor a button has no tag of one. -/
theorem any_isWidget_optionalUses {tag : String} (other : tag ∉ widgetElements)
    (text : Option String) : (optionalUses tag text).any Use.isWidget = false := by
  cases text <;> simp [optionalUses, Use.isWidget, other]

/-- The block of a field has the tags of its control. -/
theorem tell_fieldLines (field : Field) :
    Line.Tell (.element :: outer) (fieldLines field) (.element :: outer) (fieldTags field) := by
  have helper : Line.Tell (.element :: .element :: outer) (field.helperText.map helperLine).toList
      (.element :: .element :: outer) [] := by
    have shown : Line.Show (.element :: .element :: outer)
        (field.helperText.map helperLine).toList (.element :: .element :: outer)
        (optionalUses "p" field.helperText) :=
      show_optional (by decide) (by decide) (by decide) (by decide) _
    exact shown.tell (any_isWidget_optionalUses (by decide) _)
  have error : Line.Tell (.element :: .element :: outer) [errorLine field]
      (.element :: .element :: outer) [] := (show_errorLine field).tell rfl
  have inside := ((tell_controlLines field).append helper).append error
  rw [List.append_nil, List.append_nil] at inside
  exact Line.tell_element (by decide) (by decide) inside

/-! ## Actions -/

/-- The tags of an action. -/
def actionTags (action : Action) : List Tag :=
  match action.kind with
  | .submit => [⟨"Button", ("type", "submit") :: variantAttributes action.variant, action.label⟩]
  | .button => [⟨"Button", ("type", "button") :: variantAttributes action.variant, action.label⟩]
  | .link => [⟨"Button", [("variant", "link")], ""⟩,
      ⟨"a", [("href", action.href.getD "#")], action.label⟩]

/-- A button has its type, its variant and its label. -/
theorem tell_buttonLine {type : String} (listed : type = "submit" ∨ type = "button")
    (action : Action) :
    Line.Tell (.element :: outer) [buttonLine type action] (.element :: outer)
      [⟨"Button", ("type", type) :: variantAttributes action.variant, action.label⟩] := by
  obtain ⟨rest, told⟩ := exists_textElement (by decide) _ (reads_button listed action.variant)
    (by simp; rfl) action.label
    (by decide : isRead [.element] "</Button>" .idle [] [.closing "Button", .mark '>']) (by decide)
  exact ⟨_, told⟩

/-- A link is a tag inside that of its button, which says nothing but its variant. -/
theorem tell_link (target label : String) :
    Line.Tell (.element :: outer) (Line.block "<Button variant=\"link\" asChild>"
      [.plain ("<a " ++ literalAttribute "href" target ++ ">" ++ textChild label ++ "</a>")]
      "</Button>") (.element :: outer)
      [⟨"Button", [("variant", "link")], ""⟩, ⟨"a", [("href", target)], label⟩] := by
  have front := reads_attributedTag (by decide : isRead [.element] "<a " .idle
    [.tag, .element] [.opening "a"] = true) (rfl : isName "href" = true) target
  obtain ⟨rest, read, shut, found⟩ := exists_textElement (by decide) _ (front (.element :: outer))
    (by simp; rfl) label
    (by decide : isRead [.element] "</a>" .idle [] [.closing "a", .mark '>']) (by decide)
  have button := Line.allRead_of_readAll? (by decide : Line.readAll? [.element]
    [.opening "<Button variant=\"link\" asChild>"] = some ([.element, .element], [.opening "Button",
      .word "variant", .mark '=', .attribute "link", .word "asChild", .mark '>'])) outer
  have plain : isExpression [.word "asChild", .mark '>'] = true := rfl
  obtain ⟨shut', found'⟩ := tag_of_tokens (by decide : "Button" ∈ widgetElements)
    [("variant", "link")] plain (rfl : (Lexeme.opening "a").endsTag = true) rest
  have head : Line.Tell (.element :: outer) _ (.element :: .element :: outer) _ :=
    ⟨_, button.append read, shut'.trans shut, found'.trans (congrArg _ found)⟩
  exact head.append (Line.tell_closing (by decide) outer)

/-- An action has its tags. -/
theorem tell_actionLines (action : Action) :
    Line.Tell (.element :: outer) (actionLines action) (.element :: outer) (actionTags action) := by
  unfold actionLines actionTags
  cases action.kind with
  | submit => exact tell_buttonLine (.inl rfl) action
  | button => exact tell_buttonLine (.inr rfl) action
  | link => exact tell_link _ _

/-- The buttons of a document have their tags. -/
theorem tell_actionBlock {first last : String} (document : Document)
    (opens : Line.opensFrame .element first = true)
    (closes : Line.linesUses? [.element, .element] [.closing last] = some ([.element], [])) :
    Line.Tell (.element :: outer) (actionBlock first last document) (.element :: outer)
      (document.actions.flatMap actionTags) := by
  unfold actionBlock
  split
  · next none =>
    rw [List.isEmpty_iff.mp none]
    exact Line.tell_nil _
  · exact Line.tell_element opens closes (Line.tell_flatMap document.actions tell_actionLines)

/-! ## Scaffolds -/

/-- The tags of the controls and buttons of a document. -/
def markupTags (document : Document) : List Tag :=
  document.fields.flatMap fieldTags ++ document.actions.flatMap actionTags

/-- The blocks of the fields of a document have the tags of their controls. -/
theorem tell_allFields (document : Document) :
    Line.Tell (.element :: outer) (allFields document) (.element :: outer)
      (document.fields.flatMap fieldTags) :=
  Line.tell_flatMap document.fields tell_fieldLines

/-- The card of a document has the tags of its controls and buttons. -/
theorem tell_cardLines (document : Document) :
    Line.Tell (.code :: outer) (cardLines document) (.code :: outer) (markupTags document) := by
  have header {outer : List Region} : Line.Tell (.element :: outer) _ (.element :: outer) [] :=
    (show_cardHeader document).tell (by
      rw [cardHeaderUses, List.any_cons, List.any_cons, any_isWidget_optionalUses (by decide)]
      decide)
  have content {outer : List Region} : Line.Tell (.element :: outer)
      (Line.block "<CardContent className=\"space-y-4\">" (allFields document) "</CardContent>")
      (.element :: outer) (document.fields.flatMap fieldTags) :=
    Line.tell_element (by decide) (by decide) (tell_allFields document)
  refine Line.tell_element (by decide +kernel) (by decide) ?_
  refine Line.tell_element (by decide) (by decide) ?_
  exact Line.tell_element (by decide) (by decide) ((header.append content).append
    (tell_actionBlock document (by decide) (by decide)))

/-- A page of a document has the tags of its controls and buttons. -/
theorem tell_pageLines (style : PageStyle) (document : Document)
    (wide : Line.opensFrame .code ("<div className=\"mx-auto " ++ style.width ++ " p-6\">") = true)
    (arranged : ∀ classes ∈ style.grid,
      Line.opensFrame .element ("<div className=\"" ++ classes ++ "\">") = true) :
    Line.Tell (.code :: outer) (pageLines style document) (.code :: outer)
      (markupTags document) := by
  have heading {outer : List Region} : Line.Tell (.element :: outer) _ (.element :: outer) [] :=
    (show_pageHeading style document).tell (by
      rw [pageHeadingUses, List.any_append, List.any_cons, any_isWidget_optionalUses (by decide)]
      cases style.separator <;> decide)
  have fields {outer : List Region} : Line.Tell (.element :: outer) (pageFields style document)
      (.element :: outer) (document.fields.flatMap fieldTags) := by
    unfold pageFields
    cases held : style.grid with
    | none => exact tell_allFields document
    | some classes =>
      cases document.fields.isEmpty with
      | true => exact tell_allFields document
      | false =>
        exact Line.tell_element (arranged classes held) (by decide) (tell_allFields document)
  refine Line.tell_element wide (by decide) (heading.append ?_)
  exact Line.tell_element (by decide +kernel) (by decide) (fields.append
    (tell_actionBlock document (by decide) (by decide)))

/-- The markup of a document has the tags of its controls and buttons. -/
theorem tell_markupLines (document : Document) :
    Line.Tell (.code :: outer) (markupLines document) (.code :: outer) (markupTags document) := by
  unfold markupLines
  cases document.scaffold with
  | none => exact tell_pageLines _ document (by decide) nofun
  | some scaffold =>
    cases scaffold with
    | formAuth => exact tell_cardLines document
    | settingsPage => exact tell_pageLines _ document (by decide) nofun
    | dashboard | twoColumn =>
      exact tell_pageLines _ document (by decide) (by rintro _ ⟨⟩; decide +kernel)

end Formwright.Code
