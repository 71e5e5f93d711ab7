import Formwright.Proofs.Code.Control
import Formwright.Proofs.Code.Usage

/-!
# What the markup of a document uses

The block of a field opens the elements of its control, calls the handler of changes with the name
of the field, and reads the value and the error under that name and no other; the buttons and the
scaffold of a document only open elements.
-/
namespace Formwright.Code

variable {outer : List Region}

/-! ## Parts of a line -/

/-- Literal attributes use nothing. -/
theorem isQuiet_attributeTokens (attributes : List (String × String)) :
    IsQuiet (attributeTokens attributes) :=
  isQuiet_flatMap attributes fun _ => ⟨rfl, rfl⟩

/-- A text child uses nothing. -/
theorem shows_textChild (text : String) :
    Shows (.element :: outer) (textChild text) (Pending.child []).endsAt (.element :: outer)
      [] := by
  refine ⟨_, reads_textChild text, ?_, ?_⟩ <;> unfold childTokens <;> split_ifs <;> rfl

/-- A member of the values or the errors is one use of it, unless what follows goes on as
another. -/
theorem uses_memberTokens (object name : String) {tokens : List Lexeme}
    (apart : startsApart tokens = true) :
    uses (memberTokens object name ++ tokens) =
      (memberUse? object name).toList ++ uses tokens := by
  unfold memberTokens
  split
  · rw [List.cons_append, List.cons_append, List.cons_append, List.nil_append, uses, uses,
      uses_word_cons name apart]
    rfl
  · simp [uses, use?]

/-- A member of an object is used between given texts. -/
theorem Shows.member {middle inner : List Region} {before after : String} {ends : Char → Bool}
    {found : List Use} {tokens : List Lexeme} {object : String}
    (front : Shows outer before Pending.idle.endsAt (.code :: middle) found)
    (sound : isName object = true) (name : String)
    (back : Reads (.code :: middle) after ends inner tokens)
    (starts : after.toList.head?.any (Pending.word []).endsAt = true)
    (apart : startsApart tokens = true) (settled : isSettled tokens = true) :
    Shows outer (before ++ Code.member object name ++ after) ends inner
      (found ++ ((memberUse? object name).toList ++ uses tokens)) := by
  obtain ⟨lead, read, settled', rfl⟩ := front
  refine ⟨_, (read.append (reads_member sound name)).before back starts, ?_, ?_⟩
  · exact isSettled_append_of_startsApart _ apart settled
  · rw [List.append_assoc, uses_append settled', uses_memberTokens object name apart]

/-- An opening tag with one literal attribute opens its element. -/
theorem shows_attributedTag {lead tag : String}
    (opens : isRead [.element] lead .idle [.tag, .element] [.opening tag] = true) {name : String}
    (sound : isName name = true) (value : String) :
    Shows (.element :: outer) (lead ++ literalAttribute name value ++ ">") Pending.idle.endsAt
      (.element :: .element :: outer) [.tag tag] :=
  ⟨_, reads_attributedTag opens sound value outer, rfl, rfl⟩

/-- An element with a text in it is a line of its own. -/
theorem show_textElement {front back : String} {found : List Use}
    (opened : Shows (.element :: outer) front Pending.idle.endsAt (.element :: .element :: outer)
      found)
    (starts : front.toList.head?.any (fun c => !Json.isGap c) = true) (text : String)
    (closes : textUses? [.element] back = some ([], []))
    (ends : back.toList.head?.any (Pending.child []).endsAt = true) :
    Line.Show (.element :: outer) [.plain (front ++ textChild text ++ back)] (.element :: outer)
      found := by
  have shown := (opened.append (shows_textChild text)).before
    (shows_of_textUses? closes (.element :: outer)) ends
  rw [List.append_nil, List.append_nil] at shown
  exact shown.line (any_head?_append (any_head?_append starts _) _) rfl (by decide) rfl

/-! ## Controls -/

/-- The label of a field is an element. -/
theorem show_labelLine (field : Field) :
    Line.Show (.element :: outer) [labelLine field] (.element :: outer) [.tag "Label"] :=
  show_textElement (shows_attributedTag (by decide) rfl field.id) (by simp; rfl) field.label
    (by decide) (by decide)

/-- A choice is an element. -/
theorem show_choiceLine (choice : Choice) :
    Line.Show (.element :: outer) [choiceLine choice] (.element :: outer) [.tag "SelectItem"] :=
  show_textElement (shows_attributedTag (by decide) rfl choice.value) (by simp; rfl)
    choice.label (by decide) (by decide)

/-- A control for text opens its element, and reads and changes the value of its field. -/
theorem show_textControl {component : String} (attributes : List (String × String)) (field : Field)
    (opens : Line.readAll? [.element] [.opening ("<" ++ component)] =
      some ([.tag, .element], [.opening component]))
    (sound : attributes.all (fun entry => isName entry.1) = true) :
    Line.Show (.element :: outer) (textControl component
        (attributes.map fun entry => literalAttribute entry.1 entry.2) field)
      (.element :: outer) [.tag component, .value field.name, .change field.name] := by
  have quiet := isQuiet_attributeTokens (attributes ++ placeholderAttributes field)
  have used : uses (textTokens field ++ [.mark '/', .mark '>']) =
      [.value field.name, .change field.name] := by
    unfold textTokens valueTokens memberTokens
    split <;> rfl
  refine ⟨_, allRead_textControl attributes field opens sound, ?_, ?_⟩
  · rw [← List.cons_append]
    exact isSettled_append_of_startsApart _ rfl rfl
  · rw [uses, List.append_assoc, uses_append quiet.1, quiet.2, List.nil_append, used]
    rfl

/-- What the control of a field uses, with its label. -/
def controlUses (field : Field) : List Use :=
  match field.control with
  | .checkbox =>
    [.tag "div", .tag "Checkbox", .value field.name, .change field.name, .tag "Label"]
  | .input => [.tag "Label", .tag "Input", .value field.name, .change field.name]
  | .textarea => [.tag "Label", .tag "Textarea", .value field.name, .change field.name]
  | .select => [.tag "Label", .tag "Select", .value field.name, .change field.name,
      .tag "SelectTrigger", .tag "SelectValue", .tag "SelectContent"]
        ++ field.choices.map fun _ => .tag "SelectItem"
  | .datePicker => [.tag "Label", .tag "DatePicker", .value field.name, .change field.name]
  | .fileUpload => [.tag "Label", .tag "FileUpload", .change field.name]

/-- Lines inside an element use what they use after its tag. -/
theorem Line.show_element {region : Region} {first last tag : String} {body : List Line}
    {found : List Use}
    (opens : linesUses? [region] [.opening first] = some ([.element, region], [.tag tag]))
    (closes : linesUses? [.element, region] [.closing last] = some ([region], []))
    (inside : Line.Show (.element :: region :: outer) body (.element :: region :: outer) found) :
    Line.Show (region :: outer) (block first body last) (region :: outer) (.tag tag :: found) :=
  (show_of_linesUses? opens outer).block inside (show_of_linesUses? closes outer)

/-- A checkbox opens its element, and reads and changes the value of its field. -/
theorem shows_checkbox (field : Field) :
    Shows (.element :: outer) ("<Checkbox " ++ literalAttribute "id" field.id
        ++ " checked=\x7bBoolean(" ++ valueMember field ++ ")\x7d onCheckedChange="
        ++ changeHandler field "checked" "checked === true" ++ " />")
      Pending.idle.endsAt (.element :: outer)
      [.tag "Checkbox", .value field.name, .change field.name] := by
  refine ⟨_, reads_checkbox field, ?_, ?_⟩ <;>
    unfold checkboxTokens valueTokens memberTokens <;> split <;> rfl

/-- A date picker opens its element, and reads and changes the value of its field. -/
theorem shows_datePicker (field : Field) :
    Shows (.element :: outer) ("<DatePicker " ++ literalAttribute "id" field.id
        ++ inlinePlaceholder field ++ " value=\x7b" ++ valueMember field
        ++ " as Date | undefined\x7d onChange=" ++ changeHandler field "date" "date" ++ " />")
      Pending.idle.endsAt (.element :: outer)
      [.tag "DatePicker", .value field.name, .change field.name] := by
  refine ⟨_, reads_datePicker field, ?_, ?_⟩ <;>
    unfold datePickerTokens placeholderAttributes valueTokens memberTokens <;>
    cases field.placeholder <;> split <;> rfl

/-- A file upload opens its element and changes the value of its field. -/
theorem shows_fileUpload (field : Field) :
    Shows (.element :: outer) ("<FileUpload " ++ literalAttribute "id" field.id ++ " onChange="
        ++ changeHandler field "files" "files" ++ " />")
      Pending.idle.endsAt (.element :: outer) [.tag "FileUpload", .change field.name] :=
  ⟨_, reads_fileUpload field, rfl, rfl⟩

/-- The opening tag of a select control opens its element, and reads and changes the value of its
field. -/
theorem shows_select (field : Field) :
    Shows (.element :: outer) ("<Select value=\x7bString(" ++ valueMember field
        ++ " ?? \"\")\x7d onValueChange=" ++ changeHandler field "value" "value" ++ ">")
      Pending.idle.endsAt (.element :: .element :: outer)
      [.tag "Select", .value field.name, .change field.name] := by
  refine ⟨_, reads_select field, ?_, ?_⟩ <;>
    unfold selectTokens valueTokens memberTokens <;> split <;> rfl

/-- The error of a field is read twice, once to see whether there is one. -/
theorem show_errorLine (field : Field) :
    Line.Show (.element :: outer) [errorLine field] (.element :: outer)
      [.error field.name, .tag "p", .error field.name] := by
  have before := shows_of_textUses? (rfl : textUses? [.element] "\x7b" =
    some ([.code, .element], [])) outer
  have opened := reads_of_isRead (by decide : isRead [.code, .element]
    " && <p className=\"text-sm text-destructive\">" .idle [.element, .code, .element]
    [.mark '&', .mark '&', .opening "p", .word "className", .mark '=',
      .attribute "text-sm text-destructive", .mark '>'] = true) outer
  have brace := shows_of_textUses? (rfl : textUses? [.element] "\x7b" =
    some ([.code, .element], [])) (.code :: .element :: outer)
  have after := reads_of_isRead (rfl : isRead [.code, .element] "\x7d" .idle [.element]
    [.mark '\x7d'] = true) (.code :: .element :: outer)
  have closed := shows_of_textUses? (by decide : textUses? [.element, .code, .element]
    "</p>\x7d" = some ([.element], [])) outer
  have head := before.member (rfl : isName "errors" = true) field.name opened rfl rfl rfl
  have shown := brace.member (rfl : isName "errors" = true) field.name after rfl rfl rfl
  exact ((head.append shown).append closed).line (by simp; rfl) rfl (by decide) rfl

/-- The placeholder of a select control is an element. -/
theorem show_selectValue (field : Field) :
    Line.Show (.element :: outer) [.plain ("<SelectValue" ++ inlinePlaceholder field ++ " />")]
      (.element :: outer) [.tag "SelectValue"] := by
  have shown : Shows (.element :: outer) ("<SelectValue" ++ inlinePlaceholder field ++ " />")
      Pending.idle.endsAt (.element :: outer) [.tag "SelectValue"] := by
    refine ⟨_, reads_selectValue field, ?_, ?_⟩ <;> unfold placeholderAttributes <;>
      cases field.placeholder <;> rfl
  exact shown.line (by simp; rfl) rfl (by decide) rfl

/-- The control of a field uses it, with its label. -/
theorem show_controlLines (field : Field) :
    Line.Show (.element :: outer) (controlLines field) (.element :: outer) (controlUses field) := by
  unfold controlLines controlUses
  cases field.control with
  | checkbox =>
    have box : Line.Show (.element :: .element :: outer) [.plain _] (.element :: .element :: outer)
        _ :=
      (shows_checkbox field).line (by simp; rfl) rfl (by decide) rfl
    exact Line.show_element (by decide) (by decide)
      (box.append (show_labelLine field))
  | input =>
    exact (show_labelLine field).append (show_textControl
      [("id", field.id), ("name", field.name), ("type", inputType field.name)] field
      (by decide) (by simp only [List.all_cons, List.all_nil]; decide))
  | textarea =>
    exact (show_labelLine field).append (show_textControl
      [("id", field.id), ("name", field.name)] field (by decide)
      (by simp only [List.all_cons, List.all_nil]; decide))
  | select =>
    have opened : Line.Show (.element :: outer) [.opening _] (.element :: .element :: outer) _ :=
      (shows_select field).line (by simp; rfl) rfl (by decide) rfl
    have trigger : Line.Show (.element :: .element :: outer) [.opening _]
        (.element :: .element :: .element :: outer) _ :=
      (shows_attributedTag (by decide : isRead [.element] "<SelectTrigger " .idle [.tag, .element]
        [.opening "SelectTrigger"] = true) (rfl : isName "id" = true) field.id).line
        (by simp; rfl) rfl (by decide) rfl
    have closedTrigger := Line.show_of_linesUses? (by decide :
      Line.linesUses? [.element, .element] [.closing "</SelectTrigger>"] = some ([.element], []))
      (.element :: outer)
    have choices : Line.Show (.element :: .element :: outer)
        (Line.block "<SelectContent>" (field.choices.map choiceLine) "</SelectContent>")
        (.element :: .element :: outer)
        (.tag "SelectContent" :: field.choices.map fun _ => .tag "SelectItem") := by
      refine Line.show_element (by decide) (by decide) ?_
      rw [List.map_eq_flatMap, List.map_eq_flatMap]
      exact Line.show_flatMap field.choices show_choiceLine
    have closed := Line.show_of_linesUses? (by decide :
      Line.linesUses? [.element, .element] [.closing "</Select>"] = some ([.element], [])) outer
    have inside := (trigger.block (show_selectValue field) closedTrigger).append choices
    exact (show_labelLine field).append (opened.block inside closed)
  | datePicker =>
    exact (show_labelLine field).append
      ((shows_datePicker field).line (by simp; rfl) rfl (by decide) rfl)
  | fileUpload =>
    exact (show_labelLine field).append
      ((shows_fileUpload field).line (by simp; rfl) rfl (by decide) rfl)

/-! ## Fields and actions -/

/-- What an element with a text uses where it is left out if there is no text. -/
def optionalUses (tag : String) (text : Option String) : List Use :=
  (text.map fun _ => .tag tag).toList

/-- A text in an element with a given tag opens the element. -/
theorem show_textLine {front back tag : String}
    (opens : textUses? [.element] front = some ([.element, .element], [.tag tag]))
    (starts : front.toList.head?.any (fun c => !Json.isGap c) = true)
    (closes : textUses? [.element] back = some ([], []))
    (ends : back.toList.head?.any (Pending.child []).endsAt = true) (text : String) :
    Line.Show (.element :: outer) [.plain (front ++ textChild text ++ back)] (.element :: outer)
      [.tag tag] :=
  show_textElement (shows_of_textUses? opens outer) starts text closes ends

/-- A text in an element is left out if there is no text. -/
theorem show_optional {front back tag : String}
    (opens : textUses? [.element] front = some ([.element, .element], [.tag tag]))
    (starts : front.toList.head?.any (fun c => !Json.isGap c) = true)
    (closes : textUses? [.element] back = some ([], []))
    (ends : back.toList.head?.any (Pending.child []).endsAt = true) (text : Option String) :
    Line.Show (.element :: outer)
      (text.map fun text => .plain (front ++ textChild text ++ back)).toList (.element :: outer)
      (optionalUses tag text) := by
  cases text with
  | none => exact Line.show_nil _
  | some text => exact show_textLine opens starts closes ends text

/-- What the block of a field uses. -/
def fieldUses (field : Field) : List Use :=
  .tag "div" :: (controlUses field ++ optionalUses "p" field.helperText
    ++ [.error field.name, .tag "p", .error field.name])

/-- The block of a field uses its control, and the error of the field. -/
theorem show_fieldLines (field : Field) :
    Line.Show (.element :: outer) (fieldLines field) (.element :: outer) (fieldUses field) := by
  have helper : Line.Show (.element :: .element :: outer) (field.helperText.map helperLine).toList
      (.element :: .element :: outer) (optionalUses "p" field.helperText) :=
    show_optional (by decide) (by decide) (by decide) (by decide) _
  exact Line.show_element (by decide) (by decide)
    (((show_controlLines field).append helper).append (show_errorLine field))

/-- The elements of an action. -/
def actionUses (action : Action) : List Use :=
  match action.kind with
  | .submit | .button => [.tag "Button"]
  | .link => [.tag "Button", .tag "a"]

/-- A button is an element. -/
theorem show_buttonLine {type : String} (listed : type = "submit" ∨ type = "button")
    (action : Action) :
    Line.Show (.element :: outer) [buttonLine type action] (.element :: outer) [.tag "Button"] := by
  refine show_textElement ⟨_, reads_button listed action.variant, ?_, ?_⟩ (by simp; rfl)
    action.label (by decide) (by decide) <;> cases action.variant <;> rfl

/-- A link is an element. -/
theorem show_link (target label : String) :
    Line.Show (.element :: outer)
      [.plain ("<a " ++ literalAttribute "href" target ++ ">" ++ textChild label ++ "</a>")]
      (.element :: outer) [.tag "a"] :=
  show_textElement (shows_attributedTag (by decide) rfl target) (by simp; rfl) label
    (by decide) (by decide)

/-- The lines of an action open its elements. -/
theorem show_actionLines (action : Action) :
    Line.Show (.element :: outer) (actionLines action) (.element :: outer) (actionUses action) := by
  unfold actionLines actionUses
  cases action.kind with
  | submit => exact show_buttonLine (.inl rfl) action
  | button => exact show_buttonLine (.inr rfl) action
  | link => exact Line.show_element (by decide) (by decide) (show_link _ _)

/-- The blocks of the fields of a document use what each does. -/
theorem show_allFields (document : Document) :
    Line.Show (.element :: outer) (allFields document) (.element :: outer)
      (document.fields.flatMap fieldUses) :=
  Line.show_flatMap document.fields show_fieldLines

/-- What the buttons of a document use inside an element. -/
def actionBlockUses (tag : String) (document : Document) : List Use :=
  if document.actions.isEmpty then [] else .tag tag :: document.actions.flatMap actionUses

/-- The buttons of a document open their elements inside one for all of them. -/
theorem show_actionBlock {first last tag : String} (document : Document)
    (opens : Line.linesUses? [.element] [.opening first] =
      some ([.element, .element], [.tag tag]))
    (closes : Line.linesUses? [.element, .element] [.closing last] = some ([.element], [])) :
    Line.Show (.element :: outer) (actionBlock first last document) (.element :: outer)
      (actionBlockUses tag document) := by
  unfold actionBlock actionBlockUses
  split
  · exact Line.show_nil _
  · exact Line.show_element opens closes (Line.show_flatMap document.actions show_actionLines)

/-! ## Scaffolds -/

/-- What the heading of a card uses. -/
def cardHeaderUses (document : Document) : List Use :=
  .tag "CardHeader" :: .tag "CardTitle" :: optionalUses "CardDescription" document.description

/-- The heading of a card opens its elements. -/
theorem show_cardHeader (document : Document) :
    Line.Show (.element :: outer) (Line.block "<CardHeader>"
      (.plain ("<CardTitle>" ++ textChild document.title ++ "</CardTitle>")
        :: (document.description.map fun text => Line.plain
          ("<CardDescription>" ++ textChild text ++ "</CardDescription>")).toList)
      "</CardHeader>") (.element :: outer) (cardHeaderUses document) := by
  have title : Line.Show (.element :: .element :: outer)
      [.plain ("<CardTitle>" ++ textChild document.title ++ "</CardTitle>")]
      (.element :: .element :: outer) [.tag "CardTitle"] :=
    show_textLine (by decide) (by decide) (by decide) (by decide) _
  exact Line.show_element (by decide) (by decide) (title.append
    (show_optional (by decide) (by decide) (by decide) (by decide) _))

/-- What the card of a document uses. -/
def cardUses (document : Document) : List Use :=
  .tag "div" :: .tag "Card" :: .tag "form" ::
    ((.tag "CardHeader" :: .tag "CardTitle" :: optionalUses "CardDescription" document.description)
      ++ (.tag "CardContent" :: document.fields.flatMap fieldUses)
      ++ actionBlockUses "CardFooter" document)

/-- The card of a document opens its elements, and uses the fields and actions of the document. -/
theorem show_cardLines (document : Document) :
    Line.Show (.code :: outer) (cardLines document) (.code :: outer) (cardUses document) := by
  have content {outer : List Region} : Line.Show (.element :: outer)
      (Line.block "<CardContent className=\"space-y-4\">" (allFields document) "</CardContent>")
      (.element :: outer) (.tag "CardContent" :: document.fields.flatMap fieldUses) :=
    Line.show_element (by decide) (by decide) (show_allFields document)
  refine Line.show_element (by decide +kernel) (by decide) ?_
  refine Line.show_element (by decide) (by decide) ?_
  refine Line.show_element (by decide) (by decide)
    (((show_cardHeader document).append content).append ?_)
  exact show_actionBlock document (by decide) (by decide)

/-- What the fields of a document use on a page. -/
def pageFieldUses (style : PageStyle) (document : Document) : List Use :=
  match style.grid, document.fields.isEmpty with
  | some _, false => .tag "div" :: document.fields.flatMap fieldUses
  | _, _ => document.fields.flatMap fieldUses

/-- What the heading of a page uses. -/
def pageHeadingUses (style : PageStyle) (document : Document) : List Use :=
  .tag "h1" :: optionalUses "p" document.description
    ++ if style.separator then [.tag "Separator"] else []

/-- The heading of a page opens its elements. -/
theorem show_pageHeading (style : PageStyle) (document : Document) :
    Line.Show (.element :: outer)
      ([.plain ("<h1 className=\"text-2xl font-semibold tracking-tight\">"
          ++ textChild document.title ++ "</h1>")]
        ++ (document.description.map fun text => Line.plain
          ("<p className=\"text-muted-foreground\">" ++ textChild text ++ "</p>")).toList
        ++ (if style.separator then [.plain "<Separator className=\"my-6\" />"] else []))
      (.element :: outer) (pageHeadingUses style document) := by
  have title : Line.Show (.element :: outer)
      [.plain ("<h1 className=\"text-2xl font-semibold tracking-tight\">"
        ++ textChild document.title ++ "</h1>")] (.element :: outer) [.tag "h1"] :=
    show_textLine (by decide) (by decide) (by decide) (by decide) _
  have description : Line.Show (.element :: outer)
      (document.description.map fun text => Line.plain
        ("<p className=\"text-muted-foreground\">" ++ textChild text ++ "</p>")).toList
      (.element :: outer) (optionalUses "p" document.description) :=
    show_optional (by decide) (by decide) (by decide) (by decide) _
  have separator : Line.Show (.element :: outer)
      (if style.separator then [.plain "<Separator className=\"my-6\" />"] else [])
      (.element :: outer) (if style.separator then [.tag "Separator"] else []) := by
    split
    · exact Line.show_of_linesUses? (by decide : Line.linesUses? [.element]
        [.plain "<Separator className=\"my-6\" />"] = some ([.element], [.tag "Separator"])) outer
    · exact Line.show_nil _
  exact (title.append description).append separator

/-- What a page of a document uses. -/
def pageUses (style : PageStyle) (document : Document) : List Use :=
  .tag "div" :: (.tag "h1" :: optionalUses "p" document.description
    ++ (if style.separator then [.tag "Separator"] else [])
    ++ .tag "form" :: (pageFieldUses style document ++ actionBlockUses "div" document))

/-- A page of a document opens its elements, and uses the fields and actions of the document. -/
theorem show_pageLines (style : PageStyle) (document : Document)
    (wide : Line.linesUses? [.code] [.opening ("<div className=\"mx-auto " ++ style.width
      ++ " p-6\">")] = some ([.element, .code], [.tag "div"]))
    (arranged : ∀ classes ∈ style.grid, Line.linesUses? [.element] [.opening ("<div className=\""
      ++ classes ++ "\">")] = some ([.element, .element], [.tag "div"])) :
    Line.Show (.code :: outer) (pageLines style document) (.code :: outer)
      (pageUses style document) := by
  have fields {outer : List Region} : Line.Show (.element :: outer) (pageFields style document)
      (.element :: outer) (pageFieldUses style document) := by
    unfold pageFields pageFieldUses
    cases held : style.grid with
    | none => exact show_allFields document
    | some classes =>
      cases document.fields.isEmpty with
      | true => exact show_allFields document
      | false =>
        exact Line.show_element (arranged classes held) (by decide)
          (show_allFields document)
  refine Line.show_element wide (by decide) ((show_pageHeading style document).append ?_)
  refine Line.show_element (by decide +kernel) (by decide) (fields.append ?_)
  exact show_actionBlock document (by decide) (by decide)

/-- What the markup of a document uses. -/
def markupUses (document : Document) : List Use :=
  match document.scaffold with
  | some .formAuth => cardUses document
  | some .settingsPage => pageUses { width := "max-w-3xl", separator := true } document
  | some .dashboard =>
    pageUses { width := "max-w-6xl", grid := "grid gap-4 md:grid-cols-2 lg:grid-cols-3" } document
  | some .twoColumn =>
    pageUses { width := "max-w-4xl", grid := "grid gap-4 md:grid-cols-2" } document
  | none => pageUses { width := "max-w-2xl" } document

/-- The markup of a document opens its elements, and uses the fields and actions of the document. -/
theorem show_markupLines (document : Document) :
    Line.Show (.code :: outer) (markupLines document) (.code :: outer) (markupUses document) := by
  unfold markupLines markupUses
  cases document.scaffold with
  | none => exact show_pageLines _ document (by decide) nofun
  | some scaffold =>
    cases scaffold with
    | formAuth => exact show_cardLines document
    | settingsPage => exact show_pageLines _ document (by decide) nofun
    | dashboard | twoColumn =>
      exact show_pageLines _ document (by decide) (by rintro _ ⟨⟩; decide +kernel)

end Formwright.Code
