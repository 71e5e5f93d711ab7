import Formwright.Proofs.Code.Spelling

/-!
# Lexemes of controls and buttons

A control is read as a tag: first the literal attributes that the document says something in, then
attributes whose values are expressions over the value of the field and the handler of its changes.
The tag of a button has nothing but literal attributes.
-/
namespace Formwright.Code

variable {outer : List Region}

/-! ## Attributes -/

/-- The lexemes of literal attributes. -/
def attributeTokens (attributes : List (String × String)) : List Lexeme :=
  attributes.flatMap fun (name, value) => [.word name, .mark '=', .attribute value]

/-- The literal attributes that a placeholder becomes. -/
def placeholderAttributes (field : Field) : List (String × String) :=
  (field.placeholder.map ("placeholder", ·)).toList

/-- A placeholder is read as an attribute. -/
theorem reads_inlinePlaceholder (field : Field) :
    Reads (.tag :: outer) (inlinePlaceholder field) Pending.idle.endsAt (.tag :: outer)
      (attributeTokens (placeholderAttributes field)) := by
  unfold inlinePlaceholder placeholderAttribute placeholderAttributes
  cases field.placeholder with
  | none => exact fun _ _ _ => rfl
  | some text =>
    have blank := reads_of_isRead (rfl : isRead [.tag] " " .idle [.tag] [] = true) outer
    exact blank.append (reads_literalAttribute rfl text)

/-- Lines with literal attributes are read as these. -/
theorem allRead_literalAttributes {attributes : List (String × String)}
    (sound : attributes.all (fun entry => isName entry.1) = true) :
    Line.AllRead (.tag :: outer)
      (attributes.map fun entry => .plain (literalAttribute entry.1 entry.2))
      (.tag :: outer) (attributeTokens attributes) := by
  induction attributes with
  | nil => exact .nil _
  | cons entry later ih =>
    rw [List.all_cons, Bool.and_eq_true] at sound
    obtain ⟨first, rest, spelled, starts, -⟩ := exists_of_isName sound.1
    have here : Line.AllRead (.tag :: outer) [.plain (literalAttribute entry.1 entry.2)]
        (.tag :: outer) [.word entry.1, .mark '=', .attribute entry.2] :=
      (reads_literalAttribute sound.1 entry.2).line
        (by simp [literalAttribute, spelled, isGap_of_startsIdentifier starts]) rfl (by decide) rfl
    exact here.append (ih sound.2)

/-- An opening tag with one literal attribute is read as these. -/
theorem reads_attributedTag {lead tag : String}
    (opens : isRead [.element] lead .idle [.tag, .element] [.opening tag] = true) {name : String}
    (sound : isName name = true) (value : String) (outer : List Region) :
    Reads (.element :: outer) (lead ++ literalAttribute name value ++ ">") Pending.idle.endsAt
      (.element :: .element :: outer)
      (.opening tag :: (attributeTokens [(name, value)] ++ [.mark '>'])) := by
  have closed := reads_of_isRead (rfl : isRead [.tag] ">" .idle [.element] [.mark '>'] = true)
    (.element :: outer)
  exact ((reads_of_isRead opens outer).append (reads_literalAttribute sound value)).append closed

/-- The end of a tag without children is read as its two characters. -/
theorem reads_tagEnd (outer : List Region) :
    Reads (.tag :: .element :: outer) " />" Pending.idle.endsAt (.element :: outer)
      [.mark '/', .mark '>'] :=
  reads_of_isRead (by decide : isRead [.tag, .element] " />" .idle [.element]
    [.mark '/', .mark '>'] = true) outer

/-- The lexemes of the value of a field. -/
def valueTokens (field : Field) : List Lexeme := memberTokens "values" field.name

/-- The value of a field is read as its lexemes. -/
theorem reads_valueMember (field : Field) :
    Reads (.code :: outer) (valueMember field) (Pending.word []).endsAt (.code :: outer)
      (valueTokens field) :=
  reads_member rfl field.name

/-- The lexemes of a handler that takes the changed value of a field from its argument. -/
def changeTokens (field : Field) (argument : String) (value : List Lexeme) : List Lexeme :=
  .mark '\x7b' :: .mark '(' :: .word argument :: .mark ')' :: .mark '=' :: .mark '>' ::
    .word "handleChange" :: .mark '(' :: .literal field.name :: .mark ',' ::
      (value ++ [.mark ')', .mark '\x7d'])

/-- The handler of a control is read as its lexemes. -/
theorem reads_changeHandler (field : Field) {argument value : String} {ends : Char → Bool}
    {tokens : List Lexeme} (sound : isName argument = true)
    (read : Reads (.code :: .tag :: outer) value ends (.code :: .tag :: outer) tokens)
    (follows : ends ')' = true) :
    Reads (.tag :: outer) (changeHandler field argument value) Pending.idle.endsAt (.tag :: outer)
      (changeTokens field argument tokens) := by
  have opened := reads_of_isRead (rfl : isRead [.tag] "\x7b(" .idle [.code, .tag]
    [.mark '\x7b', .mark '('] = true) outer
  have called := reads_of_isRead (by decide : isRead [.code, .tag] ") => handleChange("
    .idle [.code, .tag] [.mark ')', .mark '=', .mark '>', .word "handleChange", .mark '('] = true)
    outer
  have comma := reads_of_isRead (rfl : isRead [.code, .tag] ", " .idle [.code, .tag]
    [.mark ','] = true) outer
  have closed := reads_of_isRead (rfl : isRead [.code, .tag] ")\x7d" .idle [.tag]
    [.mark ')', .mark '\x7d'] = true) outer
  have head := (((opened.append (reads_word sound)).before called rfl).append
    (reads_stringLiteral field.name)).append comma
  exact (head.append read).before closed (by simpa using follows)

/-! ## Controls -/

/-- The lexemes of the expressions of a control for text. -/
def textTokens (field : Field) : List Lexeme :=
  .word "value" :: .mark '=' :: .mark '\x7b' :: .word "String" :: .mark '(' ::
    (valueTokens field ++ .mark '?' :: .mark '?' :: .literal "" :: .mark ')' :: .mark '\x7d' ::
      .word "onChange" :: .mark '=' ::
        changeTokens field "e" [.word "e", .mark '.', .word "target", .mark '.', .word "value"])

/-- A control for text is read as its tag. -/
theorem allRead_textControl {component : String} (attributes : List (String × String))
    (field : Field) (opens : Line.readAll? [.element] [.opening ("<" ++ component)] =
      some ([.tag, .element], [.opening component]))
    (sound : attributes.all (fun entry => isName entry.1) = true) :
    Line.AllRead (.element :: outer) (textControl component
        (attributes.map fun entry => literalAttribute entry.1 entry.2) field) (.element :: outer)
      (.opening component :: (attributeTokens (attributes ++ placeholderAttributes field)
        ++ textTokens field ++ [.mark '/', .mark '>'])) := by
  have opened := Line.allRead_of_readAll? opens outer
  have literals : Line.AllRead (.tag :: .element :: outer)
      ((attributes ++ placeholderAttributes field).map
        fun entry => .plain (literalAttribute entry.1 entry.2))
      (.tag :: .element :: outer) _ :=
    allRead_literalAttributes (by
      have named : isName "placeholder" = true := rfl
      rw [List.all_append, sound, Bool.true_and, placeholderAttributes]
      cases field.placeholder <;> simp [named])
  have value : Line.AllRead (.tag :: .element :: outer)
      [.plain ("value=\x7bString(" ++ valueMember field ++ " ?? \"\")\x7d")]
      (.tag :: .element :: outer) _ :=
    (((reads_of_isRead (by decide : isRead [.tag] "value=\x7bString(" .idle [.code, .tag]
      [.word "value", .mark '=', .mark '\x7b', .word "String", .mark '('] = true)
      (.element :: outer)).append (reads_valueMember field)).before
      (reads_of_isRead (by decide : isRead [.code, .tag] " ?? \"\")\x7d" .idle [.tag]
        [.mark '?', .mark '?', .literal "", .mark ')', .mark '\x7d'] = true) (.element :: outer))
      rfl).line (by simp; rfl) rfl (by decide) rfl
  have argument := reads_of_isRead (by decide : isRead [.code] "e.target.value"
    (.word "eulav".toList) [.code] [.word "e", .mark '.', .word "target", .mark '.', .word "value"]
    = true) (.tag :: .element :: outer)
  have change : Line.AllRead (.tag :: .element :: outer)
      [.plain ("onChange=" ++ changeHandler field "e" "e.target.value")]
      (.tag :: .element :: outer) _ :=
    ((reads_of_isRead (by decide : isRead [.tag] "onChange=" .idle [.tag]
      [.word "onChange", .mark '='] = true) (.element :: outer)).append
      (reads_changeHandler field rfl argument rfl)).line (by simp; rfl) rfl (by decide) rfl
  have closed := Line.allRead_of_readAll? (by decide : Line.readAll? [.tag, .element]
    [.closing "/>"] = some ([.element], [.mark '/', .mark '>'])) outer
  have whole := (opened.append ((literals.append value).append change)).append closed
  have placeholder : (placeholderAttribute field).toList =
      (placeholderAttributes field).map fun entry => literalAttribute entry.1 entry.2 := by
    unfold placeholderAttribute placeholderAttributes
    cases field.placeholder <;> rfl
  simpa [textControl, textTokens, Line.block, Function.comp_def, placeholder] using whole

/-- The lexemes of the expressions of a checkbox. -/
def checkboxTokens (field : Field) : List Lexeme :=
  .word "checked" :: .mark '=' :: .mark '\x7b' :: .word "Boolean" :: .mark '(' ::
    (valueTokens field ++ .mark ')' :: .mark '\x7d' :: .word "onCheckedChange" :: .mark '=' ::
      changeTokens field "checked"
        [.word "checked", .mark '=', .mark '=', .mark '=', .word "true"])

/-- A checkbox is read as its tag. -/
theorem reads_checkbox (field : Field) :
    Reads (.element :: outer) ("<Checkbox " ++ literalAttribute "id" field.id
        ++ " checked=\x7bBoolean(" ++ valueMember field ++ ")\x7d onCheckedChange="
        ++ changeHandler field "checked" "checked === true" ++ " />")
      Pending.idle.endsAt (.element :: outer) (.opening "Checkbox" ::
        (attributeTokens [("id", field.id)] ++ checkboxTokens field
          ++ [.mark '/', .mark '>'])) := by
  have opened := reads_of_isRead (by decide : isRead [.element] "<Checkbox " .idle
    [.tag, .element] [.opening "Checkbox"] = true) outer
  have before := reads_of_isRead (by decide : isRead [.tag] " checked=\x7bBoolean(" .idle
    [.code, .tag] [.word "checked", .mark '=', .mark '\x7b', .word "Boolean", .mark '('] = true)
    (.element :: outer)
  have after := reads_of_isRead (by decide : isRead [.code, .tag]
    ")\x7d onCheckedChange=" .idle [.tag]
    [.mark ')', .mark '\x7d', .word "onCheckedChange", .mark '='] = true) (.element :: outer)
  have value := reads_of_isRead (by decide : isRead [.code] "checked === true"
    (.word "eurt".toList) [.code]
    [.word "checked", .mark '=', .mark '=', .mark '=', .word "true"] = true)
    (.tag :: .element :: outer)
  have head := (((opened.append (reads_literalAttribute (rfl : isName "id" = true)
    field.id)).append before).append (reads_valueMember field)).before after rfl
  have whole := (head.append (reads_changeHandler field (rfl : isName "checked" = true) value
    rfl)).append (reads_tagEnd outer)
  simpa [attributeTokens, checkboxTokens] using whole

/-- The lexemes of the expressions of a date picker. -/
def datePickerTokens (field : Field) : List Lexeme :=
  .word "value" :: .mark '=' :: .mark '\x7b' ::
    (valueTokens field ++ .word "as" :: .word "Date" :: .mark '|' :: .word "undefined" ::
      .mark '\x7d' :: .word "onChange" :: .mark '=' :: changeTokens field "date" [.word "date"])

/-- A date picker is read as its tag. -/
theorem reads_datePicker (field : Field) :
    Reads (.element :: outer) ("<DatePicker " ++ literalAttribute "id" field.id
        ++ inlinePlaceholder field ++ " value=\x7b" ++ valueMember field
        ++ " as Date | undefined\x7d onChange=" ++ changeHandler field "date" "date" ++ " />")
      Pending.idle.endsAt (.element :: outer) (.opening "DatePicker" ::
        (attributeTokens (("id", field.id) :: placeholderAttributes field)
          ++ datePickerTokens field ++ [.mark '/', .mark '>'])) := by
  have opened := reads_of_isRead (by decide : isRead [.element] "<DatePicker " .idle
    [.tag, .element] [.opening "DatePicker"] = true) outer
  have before := reads_of_isRead (by decide : isRead [.tag] " value=\x7b" .idle
    [.code, .tag] [.word "value", .mark '=', .mark '\x7b'] = true) (.element :: outer)
  have after := reads_of_isRead (by decide : isRead [.code, .tag]
    " as Date | undefined\x7d onChange=" .idle [.tag] [.word "as", .word "Date", .mark '|',
      .word "undefined", .mark '\x7d', .word "onChange", .mark '='] = true) (.element :: outer)
  have head := ((((opened.append (reads_literalAttribute (rfl : isName "id" = true)
    field.id)).append (reads_inlinePlaceholder field)).append before).append
    (reads_valueMember field)).before after rfl
  have whole := (head.append (reads_changeHandler field (rfl : isName "date" = true)
    (reads_word (rfl : isName "date" = true)) rfl)).append (reads_tagEnd outer)
  simpa [attributeTokens, datePickerTokens] using whole

/-- The lexemes of the expressions of a file upload. -/
def fileUploadTokens (field : Field) : List Lexeme :=
  .word "onChange" :: .mark '=' :: changeTokens field "files" [.word "files"]

/-- A file upload is read as its tag. -/
theorem reads_fileUpload (field : Field) :
    Reads (.element :: outer) ("<FileUpload " ++ literalAttribute "id" field.id ++ " onChange="
        ++ changeHandler field "files" "files" ++ " />")
      Pending.idle.endsAt (.element :: outer) (.opening "FileUpload" ::
        (attributeTokens [("id", field.id)] ++ fileUploadTokens field
          ++ [.mark '/', .mark '>'])) := by
  have opened := reads_of_isRead (by decide : isRead [.element] "<FileUpload " .idle
    [.tag, .element] [.opening "FileUpload"] = true) outer
  have before := reads_of_isRead (by decide : isRead [.tag] " onChange=" .idle [.tag]
    [.word "onChange", .mark '='] = true) (.element :: outer)
  have head := (opened.append (reads_literalAttribute (rfl : isName "id" = true)
    field.id)).append before
  have whole := (head.append (reads_changeHandler field (rfl : isName "files" = true)
    (reads_word (rfl : isName "files" = true)) rfl)).append (reads_tagEnd outer)
  simpa [attributeTokens, fileUploadTokens] using whole

/-- The lexemes of the expressions of a select control. -/
def selectTokens (field : Field) : List Lexeme :=
  .word "value" :: .mark '=' :: .mark '\x7b' :: .word "String" :: .mark '(' ::
    (valueTokens field ++ .mark '?' :: .mark '?' :: .literal "" :: .mark ')' :: .mark '\x7d' ::
      .word "onValueChange" :: .mark '=' :: changeTokens field "value" [.word "value"])

/-- The opening tag of a select control is read as it. -/
theorem reads_select (field : Field) :
    Reads (.element :: outer) ("<Select value=\x7bString(" ++ valueMember field
        ++ " ?? \"\")\x7d onValueChange=" ++ changeHandler field "value" "value" ++ ">")
      Pending.idle.endsAt (.element :: .element :: outer)
      (.opening "Select" :: (selectTokens field ++ [.mark '>'])) := by
  have before := reads_of_isRead (by decide : isRead [.element] "<Select value=\x7bString(" .idle
    [.code, .tag, .element] [.opening "Select", .word "value", .mark '=', .mark '\x7b',
      .word "String", .mark '('] = true) outer
  have after := reads_of_isRead (by decide : isRead [.code, .tag]
    " ?? \"\")\x7d onValueChange=" .idle [.tag] [.mark '?', .mark '?', .literal "", .mark ')',
      .mark '\x7d', .word "onValueChange", .mark '='] = true) (.element :: outer)
  have closed := reads_of_isRead (rfl : isRead [.tag] ">" .idle [.element] [.mark '>'] = true)
    (.element :: outer)
  have head := (before.append (reads_valueMember field)).before after rfl
  have whole := (head.append (reads_changeHandler field (rfl : isName "value" = true)
    (reads_word (rfl : isName "value" = true)) rfl)).append closed
  simpa [selectTokens] using whole

/-- The placeholder of a select control is read as a tag of its own. -/
theorem reads_selectValue (field : Field) :
    Reads (.element :: outer) ("<SelectValue" ++ inlinePlaceholder field ++ " />")
      Pending.idle.endsAt (.element :: outer) (.opening "SelectValue" ::
        (attributeTokens (placeholderAttributes field) ++ [.mark '/', .mark '>'])) := by
  unfold inlinePlaceholder placeholderAttribute placeholderAttributes
  cases field.placeholder with
  | none =>
    exact reads_of_isRead (by decide : isRead [.element] ("<SelectValue" ++ "" ++ " />") .idle
      [.element] [.opening "SelectValue", .mark '/', .mark '>'] = true) outer
  | some text =>
    have opened := reads_of_isRead (by decide : isRead [.element] "<SelectValue " .idle
      [.tag, .element] [.opening "SelectValue"] = true) outer
    have whole := (opened.append (reads_literalAttribute (rfl : isName "placeholder" = true)
      text)).append (reads_tagEnd outer)
    have spelled : "<SelectValue" ++ (" " ++ literalAttribute "placeholder" text) ++ " />" =
        "<SelectValue " ++ literalAttribute "placeholder" text ++ " />" := by
      rw [← String.append_assoc]
      rfl
    rw [← spelled] at whole
    simpa [attributeTokens] using whole

/-! ## Buttons -/

/-- The literal attributes that the variant of an action becomes. -/
def variantAttributes : ActionVariant → List (String × String)
  | .primary => []
  | other => [("variant", other.buttonVariant)]

/-- The lexemes of the opening tag of a button. -/
def buttonTokens (type : String) (variant : ActionVariant) : List Lexeme :=
  .opening "Button" ::
    (attributeTokens (("type", type) :: variantAttributes variant) ++ [.mark '>'])

/-- The opening tag of a button is read as it. -/
theorem reads_button {type : String} (listed : type = "submit" ∨ type = "button")
    (variant : ActionVariant) :
    Reads (.element :: outer) ("<Button type=\"" ++ type ++ "\"" ++ variantAttribute variant ++ ">")
      Pending.idle.endsAt (.element :: .element :: outer) (buttonTokens type variant) := by
  have read : isRead [.element] ("<Button type=\"" ++ type ++ "\"" ++ variantAttribute variant
      ++ ">") .idle [.element, .element] (buttonTokens type variant) = true := by
    rcases listed with rfl | rfl <;> cases variant <;> decide
  exact reads_of_isRead read outer

end Formwright.Code
