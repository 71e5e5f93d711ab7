import Formwright.Proofs.Code.Escape
import Formwright.Proofs.Code.Spelling
import Formwright.Proofs.Json.NumberText

/-!
# Line breaks in generated code

String literals, keys, printed values and text children hold no line breaks, whatever they are made
of. An attribute value holds the line breaks of its text. So the code for a document has as many
lines as the generator writes, which the shape of the document tells, and one more for every line
break in a text that stands in an attribute.
-/
namespace Formwright

/-- The number of line breaks in a text. -/
def lineBreaks (text : String) : Nat := text.toList.count '\n'

/-- The number of line breaks in some texts together. -/
def lineBreaksIn : List String → Nat
  | [] => 0
  | text :: later => lineBreaks text + lineBreaksIn later

/-- The line breaks of two texts are those of the text that they make. -/
@[simp]
theorem lineBreaks_append (left right : String) :
    lineBreaks (left ++ right) = lineBreaks left + lineBreaks right := by
  rw [lineBreaks, String.toList_append, List.count_append, lineBreaks, lineBreaks]

/-- A text without the character has no line breaks. -/
@[simp]
theorem lineBreaks_eq_zero {text : String} (plain : '\n' ∉ text.toList) : lineBreaks text = 0 :=
  List.count_eq_zero.mpr plain

/-- A text that is given by characters other than the line break has no line breaks. -/
theorem lineBreaks_ofList {chars : List Char} (plain : chars.all (· != '\n') = true) :
    lineBreaks (String.ofList chars) = 0 := by
  apply lineBreaks_eq_zero
  rw [String.toList_ofList]
  intro member
  exact absurd (List.all_eq_true.mp plain _ member) (by decide)

/-- A text whose characters all lie behind the control characters has no line breaks. -/
theorem lineBreaks_eq_zero_of_printable {text : String}
    (printable : ∀ c ∈ text.toList, 0x20 ≤ c.toNat) : lineBreaks text = 0 :=
  lineBreaks_eq_zero fun member => absurd (printable _ member) (by decide)

/-- No texts have no line breaks. -/
@[simp]
theorem lineBreaksIn_nil : lineBreaksIn [] = 0 := rfl

/-- The line breaks of texts are those of the first one and of the later ones. -/
@[simp]
theorem lineBreaksIn_cons (text : String) (later : List String) :
    lineBreaksIn (text :: later) = lineBreaks text + lineBreaksIn later := rfl

/-- The line breaks of two lists of texts are those of both. -/
@[simp]
theorem lineBreaksIn_append (front back : List String) :
    lineBreaksIn (front ++ back) = lineBreaksIn front + lineBreaksIn back := by
  induction front with
  | nil => rw [List.nil_append, lineBreaksIn_nil, Nat.zero_add]
  | cons text later ih =>
    rw [List.cons_append, lineBreaksIn_cons, lineBreaksIn_cons, ih, Nat.add_assoc]

/-- Texts that are listed part by part have as many line breaks as others if those of each part
do. -/
theorem lineBreaksIn_flatMap_congr {α : Type} (parts : List α) {left right : α → List String}
    (each : ∀ part ∈ parts, lineBreaksIn (left part) = lineBreaksIn (right part)) :
    lineBreaksIn (parts.flatMap left) = lineBreaksIn (parts.flatMap right) := by
  induction parts with
  | nil => rfl
  | cons part later ih =>
    rw [List.forall_mem_cons] at each
    rw [List.flatMap_cons, List.flatMap_cons, lineBreaksIn_append, lineBreaksIn_append, each.1,
      ih each.2]

/-! ## Escaped texts -/

namespace Code

/-- A string literal has no line breaks. -/
@[simp]
theorem lineBreaks_stringLiteral (text : String) : lineBreaks (stringLiteral text) = 0 :=
  lineBreaks_eq_zero_of_printable fun _ => le_toNat_of_mem_stringLiteral

/-- A text child has no line breaks. -/
@[simp]
theorem lineBreaks_textChild (text : String) : lineBreaks (textChild text) = 0 := by
  rcases textChild_cases text with braced | ⟨plain, clear, -⟩
  · simp [braced]
  · rw [plain]
    exact lineBreaks_eq_zero fun member => absurd (clear _ member) (by decide)

/-- An attribute value has the line breaks of its text. -/
@[simp]
theorem lineBreaks_attributeText (text : String) :
    lineBreaks (attributeText text) = lineBreaks text := by
  have single (c : Char) : (attributeChar c).count '\n' = [c].count '\n' := by
    rcases attributeChar_cases c with ⟨rfl, written⟩ | ⟨rfl, written⟩ | ⟨-, -, written⟩
    · rw [written]; rfl
    · rw [written]; rfl
    · rw [written]
  rw [lineBreaks, attributeText, String.toList_ofList, lineBreaks]
  induction text.toList with
  | nil => rfl
  | cons c later ih =>
    rw [List.flatMap_cons, List.count_append, single, ih, ← List.count_append,
      List.singleton_append]

/-- A name has no line breaks. -/
theorem lineBreaks_of_isName {text : String} (sound : isName text = true) :
    lineBreaks text = 0 := by
  obtain ⟨first, later, spelled, starts, goesOn⟩ := exists_of_isName sound
  apply lineBreaks_eq_zero
  rw [spelled, List.mem_cons, not_or]
  constructor
  · rintro rfl
    exact absurd starts (by decide)
  · intro member
    exact absurd (goesOn _ member) (by decide)

/-- An identifier has no line breaks. -/
theorem lineBreaks_of_isIdentifier {text : String} (sound : isIdentifier text = true) :
    lineBreaks text = 0 :=
  lineBreaks_of_isName (isName_of_isIdentifier sound)

/-- A key of an object has no line breaks. -/
@[simp]
theorem lineBreaks_objectKey (text : String) : lineBreaks (objectKey text) = 0 := by
  unfold objectKey
  split
  · next sound => exact lineBreaks_of_isIdentifier sound
  · exact lineBreaks_stringLiteral text

/-- Access to a member has the line breaks of the object. -/
@[simp]
theorem lineBreaks_member (object text : String) :
    lineBreaks (member object text) = lineBreaks object := by
  unfold member
  split
  · next sound => simp [lineBreaks_of_isIdentifier sound]
  · simp

/-! ## Printed values -/

/-- A text in the characters of numbers has no line breaks. -/
theorem lineBreaks_of_isNumeric {text : String} (numeric : Json.IsNumeric text) :
    lineBreaks text = 0 :=
  lineBreaks_eq_zero fun member => absurd (numeric _ member) (by decide)

mutual

/-- A value is printed without line breaks. -/
@[simp]
theorem lineBreaks_render : ∀ value : Json, lineBreaks value.render = 0
  | .null => rfl
  | .bool true => rfl
  | .bool false => rfl
  | .integer value => lineBreaks_of_isNumeric (Json.isNumeric_intText value)
  | .float value => lineBreaks_of_isNumeric (Json.isNumeric_floatText value)
  | .string value => lineBreaks_stringLiteral value
  | .array items => by
    simp [Json.render, lineBreaks_renderItems items]
  | .object members => by
    simp [Json.render, lineBreaks_renderMembers members]

/-- Items are printed without line breaks. -/
theorem lineBreaks_renderItems : ∀ items : List Json, lineBreaks (Json.renderItems items) = 0
  | [] => rfl
  | [item] => lineBreaks_render item
  | item :: next :: later => by
    simp [Json.renderItems, lineBreaks_render item, lineBreaks_renderItems (next :: later)]

/-- Members are printed without line breaks. -/
theorem lineBreaks_renderMembers : ∀ members : List (String × Json),
    lineBreaks (Json.renderMembers members) = 0
  | [] => rfl
  | [(key, value)] => by
    have quoted : lineBreaks (Json.quote key) = 0 := lineBreaks_stringLiteral key
    simp [Json.renderMembers, quoted, lineBreaks_render value]
  | (key, value) :: next :: later => by
    have quoted : lineBreaks (Json.quote key) = 0 := lineBreaks_stringLiteral key
    simp [Json.renderMembers, quoted, lineBreaks_render value,
      lineBreaks_renderMembers (next :: later)]

end

/-! ## Lines -/

namespace Line

/-- A blank line has no text. -/
@[simp]
theorem text_blank : blank.text = "" := rfl

/-- A plain line has the text that it was made of. -/
@[simp]
theorem text_plain (text : String) : (plain text).text = text := rfl

/-- A line that opens a construct has the text that it was made of. -/
@[simp]
theorem text_opening (text : String) : (opening text).text = text := rfl

/-- A line that closes a construct has the text that it was made of. -/
@[simp]
theorem text_closing (text : String) : (closing text).text = text := rfl

/-- The number of line breaks inside lines, beside those at their ends. -/
def innerBreaks (lines : List Line) : Nat := lineBreaksIn (lines.map text)

/-- No lines have no line breaks inside. -/
@[simp]
theorem innerBreaks_nil : innerBreaks [] = 0 := rfl

/-- The line breaks inside lines are those of the text of the first one and inside the later
ones. -/
@[simp]
theorem innerBreaks_cons (line : Line) (later : List Line) :
    innerBreaks (line :: later) = lineBreaks line.text + innerBreaks later := by
  rw [innerBreaks, List.map_cons, lineBreaksIn_cons, innerBreaks]

/-- The line breaks inside two lists of lines are those inside both. -/
@[simp]
theorem innerBreaks_append (front back : List Line) :
    innerBreaks (front ++ back) = innerBreaks front + innerBreaks back := by
  rw [innerBreaks, List.map_append, lineBreaksIn_append, innerBreaks, innerBreaks]

/-- The line breaks inside a construct are those of its two ends and inside its body. -/
@[simp]
theorem innerBreaks_block (first : String) (body : List Line) (last : String) :
    innerBreaks (block first body last) =
      lineBreaks first + innerBreaks body + lineBreaks last := by
  rw [block, innerBreaks_append, innerBreaks_append, innerBreaks_cons, innerBreaks_cons,
    innerBreaks_nil, Nat.add_zero, Nat.add_zero, text, text]

/-- A construct has two lines beside those inside it. -/
@[simp]
theorem length_block (first : String) (body : List Line) (last : String) :
    (block first body last).length = body.length + 2 := by
  simp [block]

/-- Lines of which none has a line break inside have none. -/
theorem innerBreaks_eq_zero {lines : List Line}
    (plain : ∀ line ∈ lines, lineBreaks line.text = 0) : innerBreaks lines = 0 := by
  induction lines with
  | nil => rfl
  | cons line later ih =>
    rw [List.forall_mem_cons] at plain
    rw [innerBreaks_cons, plain.1, ih plain.2]

/-- Lines that are written part by part have the line breaks of some texts inside them if those of
each part do. -/
theorem innerBreaks_flatMap {α : Type} (parts : List α) {lines : α → List Line}
    {texts : α → List String}
    (each : ∀ part, innerBreaks (lines part) = lineBreaksIn (texts part)) :
    innerBreaks (parts.flatMap lines) = lineBreaksIn (parts.flatMap texts) := by
  rw [innerBreaks, List.map_flatMap]
  exact lineBreaksIn_flatMap_congr parts fun part _ => each part

/-- A line that stands at some depth ends in its only line break beside those of its text. -/
theorem lineBreaks_indented (depth : Nat) (text : String) :
    lineBreaks (indented depth text) = 1 + lineBreaks text := by
  have blanks : lineBreaks (String.ofList (List.replicate (2 * depth) ' ')) = 0 := by
    apply lineBreaks_eq_zero
    rw [String.toList_ofList, List.mem_replicate]
    rintro ⟨-, same⟩
    exact absurd same (by decide)
  have ending : lineBreaks "\n" = 1 := rfl
  rw [indented, lineBreaks_append, lineBreaks_append, blanks, ending]
  omega

/-- Rendered lines have a line break for each line, and those inside the lines. -/
theorem lineBreaks_renderAt (depth : Nat) (lines : List Line) :
    lineBreaks (renderAt depth lines) = lines.length + innerBreaks lines := by
  have ending : lineBreaks "\n" = 1 := rfl
  have empty : lineBreaks "" = 0 := rfl
  induction lines generalizing depth with
  | nil => rfl
  | cons line later ih =>
    rw [innerBreaks_cons, List.length_cons]
    cases line with
    | blank =>
      rw [renderAt, lineBreaks_append, ending, ih, Line.text, empty]
      omega
    | plain | opening | closing =>
      rw [renderAt, lineBreaks_append, lineBreaks_indented, ih, Line.text]
      omega

end Line

end Code
end Formwright
