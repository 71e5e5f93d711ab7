import Formwright.Code.Generator
import Formwright.Proofs.Prompt.Identifier

/-!
# The constructs of generated code nest

A line that opens a construct tells by its text what closes the construct. A strict writer keeps the
list of the constructs that are open: it indents a line by two spaces for each of them, refuses a
line that does not close the innermost one, and refuses to end before all of them are closed. It
writes all generated code, and writes it as it is.
-/
namespace Formwright.Code

/-! ## Constructs -/

/-- What a line can open. -/
inductive Construct where
  /-- An element, by the name in its opening tag. -/
  | element (name : List Char)
  /-- A tag whose attributes stand on lines of their own, by its name. -/
  | tag (name : List Char)
  /-- Brackets that one line opens, the innermost first. -/
  | brackets (marks : List Char)
deriving DecidableEq, Repr

namespace Construct

/-- The bracket that closes an opening one. -/
def closingBracket? : Char → Option Char
  | '(' => some ')'
  | '[' => some ']'
  | '\x7b' => some '\x7d'
  | _ => none

/-- The construct that a line opens: the tag that the line starts with, which is left open where it
does not end with the line, or the brackets that the line ends in. -/
def ofText? (text : String) : Option Construct :=
  match text.toList with
  | '<' :: rest =>
    let name := rest.takeWhile Char.isAlphanum
    match name, rest.reverse with
    | [], _ => none
    | _, '>' :: '/' :: _ => none
    | _, '>' :: _ => some (.element name)
    | _, _ => some (.tag name)
  | chars =>
    match chars.reverse.takeWhile fun c => (closingBracket? c).isSome with
    | [] => none
    | marks => some (.brackets marks)

/-- Whether a line closes a construct: the closing tag of an element, the end of a tag, or the
brackets in reverse with a comma or a semicolon after them. -/
def isClosedBy (text : String) : Construct → Bool
  | .element name => text.toList == "</".toList ++ name ++ ['>']
  | .tag _ => text == "/>"
  | .brackets marks =>
    let closing := marks.filterMap closingBracket?
    closing.isPrefixOf text.toList && text.toList.drop closing.length ∈ [[], [','], [';']]

/-- Whether one line opens a construct that another one closes. -/
def matches? (first last : String) : Bool := (ofText? first).any (isClosedBy last)

/-- A tag that ends with its line opens an element, whatever attributes stand in it. -/
theorem ofText?_element {text : String} {name attributes : List Char} {last : Char}
    (spelled : text.toList = '<' :: (name ++ ' ' :: (attributes ++ [last, '>'])))
    (named : name ≠ []) (plain : name.all Char.isAlphanum = true) (unclosed : last ≠ '/') :
    ofText? text = some (.element name) := by
  have taken : (name ++ ' ' :: (attributes ++ [last, '>'])).takeWhile Char.isAlphanum = name := by
    simp [List.takeWhile_append_of_pos (List.all_eq_true.mp plain)]
  have ends : (name ++ ' ' :: (attributes ++ [last, '>'])).reverse =
      '>' :: last :: (name ++ ' ' :: attributes).reverse := by
    simp
  rw [ofText?, spelled]
  simp only [taken, ends]
  split
  · contradiction
  · next same => exact absurd (List.cons.inj (List.cons.inj same).2).1 unclosed
  · rfl
  · next other => simp at other

/-- A line that does not start with a tag opens the brackets that it ends in. -/
theorem ofText?_brackets {text : String} {front marks : List Char}
    (spelled : text.toList = front ++ ' ' :: marks)
    (untagged : text.toList.head? ≠ some '<') (marked : marks ≠ [])
    (opens : marks.all (fun c => (closingBracket? c).isSome) = true) :
    ofText? text = some (.brackets marks.reverse) := by
  have taken : (text.toList.reverse.takeWhile fun c => (closingBracket? c).isSome) =
      marks.reverse := by
    have opens : ∀ c ∈ marks.reverse, (closingBracket? c).isSome = true := by simpa using opens
    have apart : closingBracket? ' ' = none := rfl
    simp [spelled, List.takeWhile_append_of_pos opens, apart]
  unfold ofText?
  split
  · next start => exact absurd (by rw [start]; rfl) untagged
  · simp only [taken]
    split
    · next none => exact absurd (by simpa using none) marked
    · rfl

end Construct


/-! ## The strict writer -/

namespace Line

/-- The text of some lines inside some open constructs, the innermost first: none if a line opens no
construct or closes another one than the innermost, or if a construct stays open. -/
def strictly? : List Construct → List Line → Option String
  | [], [] => some ""
  | _ :: _, [] => none
  | around, .blank :: rest => (strictly? around rest).map ("\n" ++ ·)
  | around, .plain text :: rest => (strictly? around rest).map (indented around.length text ++ ·)
  | around, .opening text :: rest => do
    let construct ← Construct.ofText? text
    (strictly? (construct :: around) rest).map (indented around.length text ++ ·)
  | [], .closing _ :: _ => none
  | innermost :: around, .closing text :: rest =>
    if innermost.isClosedBy text then
      (strictly? around rest).map (indented around.length text ++ ·)
    else none

/-- Lines close what they open and nothing else: the strict writer writes them as they are rendered,
whatever is open around them and whatever follows, and they leave the depth as it is. -/
structure Nests (lines : List Line) : Prop where
  rendered : ∀ depth rest, renderAt depth (lines ++ rest) =
    renderAt depth lines ++ renderAt depth rest
  written : ∀ around rest, strictly? around (lines ++ rest) =
    (strictly? around rest).map (renderAt around.length lines ++ ·)

/-- No lines nest. -/
theorem nests_nil : Nests [] where
  rendered depth rest := by simp [renderAt]
  written around rest := by simp [renderAt]

/-- Lines that nest do so one after the other. -/
theorem Nests.append {first later : List Line} (front : Nests first) (back : Nests later) :
    Nests (first ++ later) where
  rendered depth rest := by
    rw [List.append_assoc, front.rendered, back.rendered, front.rendered, String.append_assoc]
  written around rest := by
    rw [List.append_assoc, front.written, back.written, Option.map_map, front.rendered]
    simp only [Function.comp_def, String.append_assoc]

/-- A line that neither opens nor closes anything. -/
def isFlat : Line → Bool
  | .blank | .plain _ => true
  | .opening _ | .closing _ => false

/-- Lines of which none opens or closes anything nest. -/
theorem nests_of_isFlat {lines : List Line} (flat : ∀ line ∈ lines, line.isFlat = true) :
    Nests lines := by
  induction lines with
  | nil => exact nests_nil
  | cons line later ih =>
    obtain ⟨here, below⟩ := List.forall_mem_cons.mp flat
    refine Nests.append (?_ : Nests [line]) (ih below)
    cases line with
    | blank => exact ⟨fun _ _ => by simp [renderAt], fun _ _ => by simp [strictly?, renderAt]⟩
    | plain text => exact ⟨fun _ _ => by simp [renderAt], fun _ _ => by simp [strictly?, renderAt]⟩
    | opening text => contradiction
    | closing text => contradiction

/-- Plain lines nest. -/
theorem nests_map_plain (texts : List String) : Nests (texts.map .plain) :=
  nests_of_isFlat (List.forall_mem_map.mpr fun _ _ => rfl)

/-- A plain line that is left out where there is no text for it nests. -/
theorem nests_optional (text : Option String) (spell : String → String) :
    Nests (text.map fun text => .plain (spell text)).toList := by
  cases text with
  | none => exact nests_nil
  | some text => exact nests_map_plain [spell text]

/-- Lines nest inside a construct whose last line closes what its first line opens. -/
theorem Nests.within {first last : String} {body : List Line} (inside : Nests body)
    (closes : Construct.matches? first last = true) : Nests (block first body last) := by
  have spelled (rest : List Line) : block first body last ++ rest =
      .opening first :: (body ++ .closing last :: rest) := by
    simp [block]
  have rendered (depth : Nat) : renderAt depth (block first body last) =
      indented depth first ++ renderAt (depth + 1) body ++ indented depth last := by
    have spelled := spelled []
    rw [List.append_nil] at spelled
    rw [spelled, renderAt, inside.rendered, renderAt]
    simp [renderAt, String.append_assoc]
  constructor
  · intro depth rest
    rw [spelled, renderAt, inside.rendered, renderAt, rendered]
    simp [String.append_assoc]
  · intro around rest
    rw [Construct.matches?] at closes
    cases opened : Construct.ofText? first with
    | none => simp [opened] at closes
    | some construct =>
      have closed : construct.isClosedBy last = true := by simpa [opened] using closes
      rw [spelled, strictly?, opened, Option.bind_eq_bind, Option.bind_some, inside.written,
        strictly?, if_pos closed, rendered, Option.map_map, Option.map_map]
      simp only [Function.comp_def, List.length_cons, String.append_assoc]

/-- Lines that are made of parts nest if each part does. -/
theorem nests_flatMap {α : Type} {parts : List α} {lines : α → List Line}
    (each : ∀ part ∈ parts, Nests (lines part)) : Nests (parts.flatMap lines) := by
  induction parts with
  | nil => exact nests_nil
  | cons part later ih =>
    obtain ⟨here, below⟩ := List.forall_mem_cons.mp each
    exact here.append (ih below)

end Line

open Line

/-! ## Before the component -/

/-- A key of an object literal does not start with an angle bracket. -/
theorem head?_objectKey_ne (name : String) (rest : List Char) :
    ((objectKey name).toList ++ rest).head? ≠ some '<' := by
  unfold objectKey
  split
  · next sound =>
    obtain ⟨first, later, spelled, starts, -⟩ := exists_of_isIdentifier sound
    rw [spelled]
    rintro same
    obtain rfl := Option.some.inj same
    contradiction
  · simp [stringLiteral, Json.quote, Json.quoteChars]

/-- The entry of a field in the rule table nests. -/
theorem nests_ruleEntry (field : Field) : Nests (ruleEntry field) := by
  refine (nests_of_isFlat (by simp [isFlat])).within ?_
  have spelled : (objectKey field.name ++ ": [").toList =
      ((objectKey field.name).toList ++ [':']) ++ ' ' :: ['['] := by
    simp
  have opened := Construct.ofText?_brackets spelled
    (by simpa using head?_objectKey_ne field.name [':', ' ', '[']) (by decide) (by decide)
  rw [Construct.matches?, opened]
  decide

/-- The rule table nests. -/
theorem nests_ruleTable (fields : List Field) : Nests (ruleTable fields) := by
  simp only [ruleTable]
  split
  · exact nests_of_isFlat (by simp [isFlat])
  · exact (nests_flatMap fun field _ => nests_ruleEntry field).within (by decide)

/-! ## The component -/

/-- The state of the component nests. -/
theorem nests_stateLines (fields : List Field) : Nests (stateLines fields) := by
  simp only [stateLines]
  refine Nests.append ?_ (nests_of_isFlat (by simp [isFlat]))
  split
  · exact nests_of_isFlat (by simp [isFlat])
  · exact (nests_of_isFlat (by simp [isFlat, stateEntry])).within (by decide)

/-- The handlers of the component nest. -/
theorem nests_handlerLines : Nests handlerLines := by
  have flat {lines : List Line} (all : lines.all isFlat = true) : Nests lines :=
    nests_of_isFlat (List.all_eq_true.mp all)
  rw [handlerLines]
  refine Nests.append (Nests.append ?change (flat rfl)) ?submit
  case change => exact (flat rfl).within (by decide)
  case submit =>
    refine Nests.within (Nests.append (Nests.append (flat rfl) ?loop) (flat rfl))
      (by decide)
    exact (flat rfl).within (by decide)

/-! ## The markup -/

/-- Lines inside an element nest, whatever attributes its opening tag has. -/
theorem nests_element (name attributes : List Char) (last : Char) {first finish : String}
    {body : List Line} (inside : Nests body)
    (opened : first.toList = '<' :: (name ++ ' ' :: (attributes ++ [last, '>'])))
    (closed : finish.toList = "</".toList ++ name ++ ['>'])
    (named : name ≠ []) (plain : name.all Char.isAlphanum = true) (unclosed : last ≠ '/') :
    Nests (block first body finish) := by
  apply inside.within
  rw [Construct.matches?, Construct.ofText?_element opened named plain unclosed]
  simp [Construct.isClosedBy, closed]

/-- A control for text nests. -/
theorem nests_textControl {component : String} (attributes : List String) (field : Field)
    (closes : Construct.matches? ("<" ++ component) "/>" = true) :
    Nests (textControl component attributes field) :=
  (nests_map_plain _).within closes

/-- The control of a field nests, with its label. -/
theorem nests_controlLines (field : Field) : Nests (controlLines field) := by
  have label : Nests [labelLine field] := nests_map_plain [_]
  unfold controlLines
  split
  case h_1 => exact (nests_map_plain [_, _]).within (by decide)
  case h_2 => exact label.append (nests_textControl _ field (by decide))
  case h_3 => exact label.append (nests_textControl _ field (by decide))
  case h_4 =>
    have trigger : Nests (block ("<SelectTrigger " ++ literalAttribute "id" field.id ++ ">")
        [.plain ("<SelectValue" ++ inlinePlaceholder field ++ " />")] "</SelectTrigger>") :=
      nests_element "SelectTrigger".toList ("id=\"".toList ++ (attributeText field.id).toList) '"'
        (nests_map_plain [_]) (by simp [literalAttribute]) rfl (by decide) (by decide) (by decide)
    have choices : Nests (block "<SelectContent>" (field.choices.map choiceLine)
        "</SelectContent>") :=
      (nests_of_isFlat (by simp [isFlat, choiceLine])).within (by decide)
    exact label.append (nests_element "Select".toList
      ("value=\x7bString(".toList ++ (valueMember field).toList
        ++ " ?? \"\")\x7d onValueChange=\x7b(value) => handleChange(".toList
        ++ (stringLiteral field.name).toList ++ ", value)".toList) '\x7d'
      (trigger.append choices) (by simp [changeHandler]) rfl (by decide) (by decide) (by decide))
  case h_5 => exact nests_map_plain [_, _]
  case h_6 => exact nests_map_plain [_, _]

/-- The block of a field nests. -/
theorem nests_fieldLines (field : Field) : Nests (fieldLines field) := by
  have helper : Nests (field.helperText.map helperLine).toList := nests_optional ..
  exact (((nests_controlLines field).append helper).append (nests_map_plain [_])).within
    (by decide)

/-- The blocks of the fields nest. -/
theorem nests_allFields (document : Document) : Nests (allFields document) :=
  nests_flatMap fun field _ => nests_fieldLines field

/-- The button of an action nests. -/
theorem nests_actionLines (action : Action) : Nests (actionLines action) := by
  unfold actionLines
  cases action.kind with
  | submit => exact nests_map_plain [_]
  | button => exact nests_map_plain [_]
  | link => exact (nests_map_plain [_]).within (by decide)

/-- The buttons of a document nest. -/
theorem nests_actionBlock {first last : String} (document : Document)
    (closes : Construct.matches? first last = true) :
    Nests (actionBlock first last document) := by
  unfold actionBlock
  split
  · exact nests_nil
  · exact (nests_flatMap fun action _ => nests_actionLines action).within closes

/-- The card of a document nests. -/
theorem nests_cardLines (document : Document) : Nests (cardLines document) := by
  have title := nests_map_plain ["<CardTitle>" ++ textChild document.title ++ "</CardTitle>"]
  have heading := title.append (nests_optional document.description
    fun text => "<CardDescription>" ++ textChild text ++ "</CardDescription>")
  refine ((((heading.within ?_).append ((nests_allFields document).within ?_)).append
    (nests_actionBlock document ?_)).within ?_ |>.within ?_).within ?_ <;> decide

/-- The fields of a document nest, in a grid or not. -/
theorem nests_pageFields (style : PageStyle) (document : Document) :
    Nests (pageFields style document) := by
  unfold pageFields
  split
  · next classes _ _ =>
    exact nests_element "div".toList ("className=\"".toList ++ classes.toList) '"'
      (nests_allFields document) (by simp) rfl (by decide) (by decide) (by decide)
  · exact nests_allFields document

/-- The page of a document nests. -/
theorem nests_pageLines (style : PageStyle) (document : Document) :
    Nests (pageLines style document) := by
  have title := nests_map_plain ["<h1 className=\"text-2xl font-semibold tracking-tight\">"
    ++ textChild document.title ++ "</h1>"]
  have description := nests_optional document.description
    fun text => "<p className=\"text-muted-foreground\">" ++ textChild text ++ "</p>"
  have separator : Nests (if style.separator then [.plain "<Separator className=\"my-6\" />"]
      else []) := by
    split
    · exact nests_map_plain [_]
    · exact nests_nil
  refine nests_element "div".toList ("className=\"mx-auto ".toList ++ style.width.toList
    ++ " p-6".toList) '"' (((title.append description).append separator).append
      (((nests_pageFields style document).append (nests_actionBlock document ?_)).within ?_))
    (by simp) rfl (by decide) (by decide) (by decide) <;> decide

/-- The markup of a document nests. -/
theorem nests_markupLines (document : Document) : Nests (markupLines document) := by
  unfold markupLines
  split
  · exact nests_cardLines document
  all_goals exact nests_pageLines _ document

/-! ## All code -/

/-- A blank line nests. -/
theorem nests_blank : Nests [.blank] := nests_of_isFlat (by decide)

/-- The first line of the component opens a brace. -/
theorem ofText?_componentHead (name : String) :
    Construct.ofText? (componentHead name) = some (.brackets ['\x7b']) := by
  let front := "export default function " ++ name
  let props := "(\x7b onSubmit \x7d: \x7b onSubmit?: (values: FormValues) => void \x7d)"
  have parts : componentHead name = front ++ (props ++ " \x7b") :=
    congrArg (front ++ ·) (by decide)
  have spelled : (componentHead name).toList = (front ++ props).toList ++ ' ' :: ['\x7b'] := by
    rw [parts, ← String.append_assoc, String.toList_append]
    rfl
  exact Construct.ofText?_brackets spelled (by simp [parts, front]) (by decide) (by decide)

/-- The component nests. -/
theorem nests_componentLines (document : Document) (options : Options) :
    Nests (componentLines document options) := by
  have markup : Nests (block "return (" (markupLines document) ");") :=
    (nests_markupLines document).within (by decide)
  refine Nests.within (((((nests_stateLines document.fields).append nests_blank).append
    nests_handlerLines).append nests_blank).append markup) ?_
  rw [Construct.matches?, ofText?_componentHead]
  decide

/-- The lines of the code for a document nest. -/
theorem nests_sourceLines (document : Document) (options : Options) :
    Nests (sourceLines document options) := by
  have directive : Nests (if options.clientDirective then [.plain "\"use client\";", .blank]
      else []) := by
    split
    · exact nests_of_isFlat (by decide)
    · exact nests_nil
  have imported : Nests ((imports document options).map Import.line) :=
    nests_of_isFlat (List.forall_mem_map.mpr fun _ _ => rfl)
  have types : Nests typeLines := nests_of_isFlat (List.all_eq_true.mp rfl)
  have checks : Nests checkLines := nests_of_isFlat (List.all_eq_true.mp rfl)
  rw [sourceLines]
  refine Nests.append (Nests.append (Nests.append (Nests.append (Nests.append ?_ nests_blank)
    (nests_ruleTable document.fields)) nests_blank) checks |>.append nests_blank)
    (nests_componentLines document options)
  exact (((directive.append (nests_map_plain [_])).append imported).append nests_blank).append types

/-- In the code for a document every line that closes a construct closes the innermost that is open,
all constructs are closed at the end, and a line is indented by two spaces for each construct that
is open around it. -/
theorem strictly?_sourceLines (document : Document) (options : Options) :
    strictly? [] (sourceLines document options) = some (generate document options) := by
  have written := (nests_sourceLines document options).written [] []
  rw [List.append_nil] at written
  rw [written]
  simp [strictly?, generate, render]

end Formwright.Code
