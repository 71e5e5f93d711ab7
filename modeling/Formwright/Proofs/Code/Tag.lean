import Formwright.Proofs.Code.Usage

/-!
# Tags in generated code

From the lexemes of code it can be told with which literal attributes an element is opened, and
which text stands right after the tag. Only the tags of controls and buttons are looked at, with
those that belong to them; whatever else stands between them does not matter.
-/
namespace Formwright.Code

/-! ## Tags from lexemes -/

/-- An opening tag with its literal attributes, and the text that follows it. -/
structure Tag where
  name : String
  attributes : List (String × String) := []
  text : String := ""
deriving DecidableEq, Repr

/-- The elements of controls and buttons, with the elements inside them that say something of
them. -/
def widgetElements : List String :=
  ["Input", "Textarea", "Select", "SelectValue", "SelectItem", "Checkbox", "DatePicker",
    "FileUpload", "Button", "a"]

/-- Whether a lexeme stands after an opening tag and the text that follows it: another tag does, and
so does the solidus that ends a tag without children. -/
def Lexeme.endsTag : Lexeme → Bool
  | .opening _ | .closing _ => true
  | .mark c => c == '/'
  | _ => false

/-- What stands in an opening tag, and before the next one. -/
def tagBody (tokens : List Lexeme) : List Lexeme := tokens.takeWhile fun token => !token.endsTag

/-- The literal attributes among some lexemes. -/
def attributesIn : List Lexeme → List (String × String)
  | .word name :: .mark '=' :: .attribute value :: rest => (name, value) :: attributesIn rest
  | _ :: rest => attributesIn rest
  | [] => []

/-- The first text child among some lexemes, as it is or as a string literal in braces. -/
def childIn : List Lexeme → String
  | .child text :: _ => text
  | .mark '\x7b' :: .literal text :: .mark '\x7d' :: _ => text
  | _ :: rest => childIn rest
  | [] => ""

/-- The tags of controls and buttons among some lexemes. -/
def tagsIn : List Lexeme → List Tag
  | [] => []
  | .opening name :: rest =>
    if name ∈ widgetElements then
      ⟨name, attributesIn (tagBody rest), childIn (tagBody rest)⟩ :: tagsIn rest
    else tagsIn rest
  | _ :: rest => tagsIn rest

/-- Whether no tag of a control or a button goes on after some lexemes. -/
def isShut : List Lexeme → Bool
  | [] => true
  | .opening name :: rest =>
    (name ∉ widgetElements || rest.any Lexeme.endsTag) && isShut rest
  | _ :: rest => isShut rest

/-- What stands in a tag does not depend on what follows its end. -/
theorem tagBody_append {tokens : List Lexeme} (ends : tokens.any Lexeme.endsTag = true)
    (rest : List Lexeme) : tagBody (tokens ++ rest) = tagBody tokens := by
  induction tokens with
  | nil => contradiction
  | cons token later ih =>
    rw [List.any_cons, Bool.or_eq_true] at ends
    rw [List.cons_append, tagBody, tagBody, List.takeWhile_cons, List.takeWhile_cons]
    by_cases stops : token.endsTag = true
    · simp only [stops, Bool.not_true, Bool.false_eq_true, ↓reduceIte]
    · have below := ih (ends.resolve_left stops)
      rw [tagBody, tagBody] at below
      rw [below]

/-- The tags among lexemes one after the other, if none of the first ones goes on. -/
theorem tagsIn_append {tokens : List Lexeme} (shut : isShut tokens = true) (rest : List Lexeme) :
    tagsIn (tokens ++ rest) = tagsIn tokens ++ tagsIn rest := by
  induction tokens with
  | nil => rfl
  | cons token later ih =>
    cases token with
    | opening name =>
      simp only [isShut, Bool.and_eq_true, Bool.or_eq_true, decide_eq_true_eq] at shut
      obtain ⟨ends, below⟩ := shut
      rw [List.cons_append, tagsIn, tagsIn, ih below]
      split
      · next listed =>
        rw [tagBody_append (ends.resolve_left (not_not.mpr listed)), List.cons_append]
      · rfl
    | _ => exact ih shut

/-- No tag goes on after lexemes one after the other if none goes on after either. -/
theorem isShut_append {tokens rest : List Lexeme} (front : isShut tokens = true)
    (back : isShut rest = true) : isShut (tokens ++ rest) = true := by
  induction tokens with
  | nil => exact back
  | cons token later ih =>
    cases token with
    | opening name =>
      simp only [isShut, Bool.and_eq_true, Bool.or_eq_true] at front
      simp only [List.cons_append, isShut, List.any_append, Bool.and_eq_true, Bool.or_eq_true]
      exact ⟨front.1.imp_right .inl, ih front.2⟩
    | _ => exact ih front

/-! ## Lexemes without tags of controls and buttons -/

/-- Whether something that code uses is an element of a control or a button. -/
def Use.isWidget : Use → Bool
  | .tag name => name ∈ widgetElements
  | _ => false

/-- Lexemes that use no control and no button have no tags of any. -/
theorem tagsIn_of_uses {tokens : List Lexeme}
    (other : (uses tokens).any Use.isWidget = false) :
    isShut tokens = true ∧ tagsIn tokens = [] := by
  induction tokens with
  | nil => exact ⟨rfl, rfl⟩
  | cons token later ih =>
    rw [uses, List.any_append, Bool.or_eq_false_iff] at other
    obtain ⟨shut, below⟩ := ih other.2
    cases token with
    | opening name =>
      have unlisted : name ∉ widgetElements := by simpa [use?, Use.isWidget] using other.1
      simp only [isShut, tagsIn, unlisted, shut, below, not_false_eq_true, decide_true,
        Bool.true_or, Bool.and_self, ↓reduceIte, and_self]
    | _ => exact ⟨shut, below⟩

/-! ## Lines -/

namespace Line

/-- Lines are read as lexemes with the given tags of controls and buttons, none of which goes on
after them. -/
def Tell (outer : List Region) (lines : List Line) (inner : List Region) (found : List Tag) :
    Prop :=
  ∃ tokens, AllRead outer lines inner tokens ∧ isShut tokens = true ∧ tagsIn tokens = found

section

variable {outer middle inner : List Region} {lines later : List Line} {found found' : List Tag}

/-- The tags of lines stand before those of lines after them. -/
theorem Tell.append (front : Tell outer lines middle found)
    (back : Tell middle later inner found') :
    Tell outer (lines ++ later) inner (found ++ found') := by
  obtain ⟨tokens, read, shut, rfl⟩ := front
  obtain ⟨tokens', read', shut', rfl⟩ := back
  exact ⟨tokens ++ tokens', read.append read', isShut_append shut shut', tagsIn_append shut tokens'⟩

/-- Lines that use no control and no button have no tags of any. -/
theorem Show.tell {used : List Use} (shown : Show outer lines inner used)
    (other : used.any Use.isWidget = false) : Tell outer lines inner [] := by
  obtain ⟨tokens, read, -, rfl⟩ := shown
  obtain ⟨shut, none⟩ := tagsIn_of_uses other
  exact ⟨tokens, read, shut, none⟩

/-- No lines have no tags. -/
theorem tell_nil (outer : List Region) : Tell outer [] outer [] := ⟨[], .nil outer, rfl, rfl⟩

/-- Lines that are made of parts have the tags of each part. -/
theorem tell_flatMap {α : Type} (parts : List α) {lines : α → List Line} {found : α → List Tag}
    (each : ∀ part, Tell outer (lines part) outer (found part)) :
    Tell outer (parts.flatMap lines) outer (parts.flatMap found) := by
  induction parts with
  | nil => exact tell_nil outer
  | cons part later ih => exact (each part).append ih

end
end Line
end Formwright.Code
