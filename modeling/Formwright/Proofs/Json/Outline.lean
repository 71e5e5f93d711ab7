import Formwright.Proofs.Json.Lookup
import Formwright.Proofs.Json.NumberText
import Formwright.Proofs.Json.Quoted

/-!
# What the text of a value tells

The compact text of a value tells all of the value but which of the numbers that are printed alike
it holds. What it tells is the outline of the value, in which a number is the text that it is
printed as. No outline is printed like another one, even with something after it, as long as that
does not go on with a number.
-/
namespace Formwright.Json

/-- The text that a number is printed as. -/
structure NumberText where
  text : String
  ne_empty : text ≠ ""
  isNumeric : IsNumeric text

/-- A value with its numbers as they are printed. -/
inductive Outline where
  | null
  | bool (value : Bool)
  | number (printed : NumberText)
  | string (value : String)
  | array (items : List Outline)
  | object (members : List (String × Outline))

mutual

/-- The outline of a value. -/
def outline : Json → Outline
  | .null => .null
  | .bool value => .bool value
  | .integer value => .number ⟨toString value, intText_ne_empty value, isNumeric_intText value⟩
  | .float value => .number ⟨floatText value, floatText_ne_empty value, isNumeric_floatText value⟩
  | .string value => .string value
  | .array items => .array (outlineItems items)
  | .object members => .object (outlineMembers members)

/-- The outlines of items. -/
def outlineItems : List Json → List Outline
  | [] => []
  | item :: later => item.outline :: outlineItems later

/-- The outlines of members under their keys. -/
def outlineMembers : List (String × Json) → List (String × Outline)
  | [] => []
  | (key, value) :: later => (key, value.outline) :: outlineMembers later

end

namespace Outline

/-- What stands before an element that is not the first one. -/
def separator (isFirst : Bool) : List Char := if isFirst then [] else [',']

mutual

/-- The characters that an outline is printed in. -/
def chars : Outline → List Char
  | .null => "null".toList
  | .bool value => if value then "true".toList else "false".toList
  | .number printed => printed.text.toList
  | .string value => quoteChars value.toList
  | .array items => '[' :: itemChars true items
  | .object members => '\x7b' :: memberChars true members

/-- The characters of items, each but the first after a comma, and of the closing bracket. -/
def itemChars : Bool → List Outline → List Char
  | _, [] => [']']
  | isFirst, item :: later => separator isFirst ++ (item.chars ++ itemChars false later)

/-- The characters of members, each but the first after a comma, and of the closing brace. -/
def memberChars : Bool → List (String × Outline) → List Char
  | _, [] => ['\x7d']
  | isFirst, (key, value) :: later =>
    separator isFirst ++ (quoteChars key.toList ++ ':' :: (value.chars ++ memberChars false later))

end

end Outline

mutual

/-- A value is printed as its outline is. -/
theorem toList_render : ∀ value : Json, value.render.toList = value.outline.chars
  | .null | .bool true | .bool false => rfl
  | .integer _ | .float _ => rfl
  | .string value => String.toList_ofList
  | .array items => by
    rw [render, outline, Outline.chars, ← toList_renderItems items]
    simp
  | .object members => by
    rw [render, outline, Outline.chars, ← toList_renderMembers members]
    simp

/-- Items are printed as their outlines are. -/
theorem toList_renderItems : ∀ items : List Json,
    (renderItems items).toList ++ [']'] = Outline.itemChars true (outlineItems items)
  | [] => rfl
  | [item] => by
    rw [renderItems, toList_render item]
    simp [outlineItems, Outline.itemChars, Outline.separator]
  | item :: next :: later => by
    have rest := toList_renderItems (next :: later)
    simp only [outlineItems, Outline.itemChars, Outline.separator, ↓reduceIte, List.nil_append,
      Bool.false_eq_true, List.singleton_append] at rest ⊢
    simp only [renderItems, String.toList_append, toList_render item, List.append_assoc]
    rw [rest]
    rfl

/-- Members are printed as their outlines are. -/
theorem toList_renderMembers : ∀ members : List (String × Json),
    (renderMembers members).toList ++ ['\x7d'] = Outline.memberChars true (outlineMembers members)
  | [] => rfl
  | [(key, value)] => by
    simp [renderMembers, toList_render value, quote, outlineMembers, Outline.memberChars,
      Outline.separator]
  | (key, value) :: next :: later => by
    have rest := toList_renderMembers (next :: later)
    obtain ⟨nextKey, nextValue⟩ := next
    simp only [outlineMembers, Outline.memberChars, Outline.separator, ↓reduceIte, List.nil_append,
      Bool.false_eq_true, List.singleton_append] at rest ⊢
    simp only [renderMembers, String.toList_append, toList_render value, quote,
      String.toList_ofList, List.append_assoc]
    rw [rest]
    rfl

end

namespace Outline

/-! ## How outlines start -/

/-- What an outline is, in one word. -/
def kindName : Outline → String
  | .null => "null"
  | .bool _ => "boolean"
  | .number _ => "number"
  | .string _ => "string"
  | .array _ => "array"
  | .object _ => "object"

/-- What starts with a character. -/
def nameOfLead (c : Char) : String :=
  if c == 'n' then "null"
  else if c == 't' || c == 'f' then "boolean"
  else if isNumberChar c then "number"
  else if c == '"' then "string"
  else if c == '[' then "array"
  else "object"

/-- The character that an outline starts with tells what it is; it closes no list. -/
theorem exists_lead (shape : Outline) : ∃ c more, shape.chars = c :: more ∧
    nameOfLead c = shape.kindName ∧ c ≠ ']' := by
  cases shape with
  | number printed =>
    obtain ⟨c, more, start⟩ := List.exists_cons_of_ne_nil
      (fun empty => printed.ne_empty (String.toList_eq_nil_iff.mp empty))
    have numeric : isNumberChar c = true := printed.isNumeric c (start ▸ List.mem_cons_self)
    have others : c ≠ 'n' ∧ c ≠ 't' ∧ c ≠ 'f' ∧ c ≠ ']' := by
      refine ⟨?_, ?_, ?_, ?_⟩ <;> rintro rfl <;> exact absurd numeric (by decide)
    exact ⟨c, more, start, by simp [nameOfLead, others, numeric, kindName], others.2.2.2⟩
  | null => exact ⟨_, _, rfl, by decide, by decide⟩
  | bool value => cases value <;> exact ⟨_, _, rfl, by decide, by decide⟩
  | _ => exact ⟨_, _, rfl, by simp [nameOfLead, isNumberChar, kindName], by decide⟩

/-- Outlines that are printed alike, with something after them, are of one kind. -/
theorem kindName_eq {left right : Outline} {rest rest' : List Char}
    (alike : left.chars ++ rest = right.chars ++ rest') : left.kindName = right.kindName := by
  obtain ⟨c, more, start, named, _⟩ := left.exists_lead
  obtain ⟨d, more', start', named', _⟩ := right.exists_lead
  rw [start, start', List.cons_append, List.cons_append, List.cons.injEq] at alike
  rw [← named, ← named', alike.1]

/-- The next item of a list starts with something else than the end of the list. -/
theorem exists_lead_itemChars (isFirst : Bool) (item : Outline) (later : List Outline) :
    ∃ c more, itemChars isFirst (item :: later) = c :: more ∧ c ≠ ']' := by
  obtain ⟨c, more, start, _, other⟩ := item.exists_lead
  cases isFirst with
  | true => exact ⟨c, _, by rw [itemChars, start]; rfl, other⟩
  | false => exact ⟨',', _, rfl, by decide⟩

/-- The next member of an object starts with something else than the end of the object. -/
theorem exists_lead_memberChars (isFirst : Bool) (member : String × Outline)
    (later : List (String × Outline)) :
    ∃ c more, memberChars isFirst (member :: later) = c :: more ∧ c ≠ '\x7d' := by
  cases isFirst with
  | true => exact ⟨'"', _, rfl, by decide⟩
  | false => exact ⟨',', _, rfl, by decide⟩

/-! ## Telling outlines apart -/

/-- A number does not go on with the text. -/
def Stops (rest : List Char) : Prop := ∀ c ∈ rest.head?, isNumberChar c = false

/-- A number does not go on with nothing. -/
theorem stops_nil : Stops [] := by simp [Stops]

/-- A number does not go on with what follows an item. -/
theorem stops_itemChars (items : List Outline) (rest : List Char) :
    Stops (itemChars false items ++ rest) := by
  cases items <;> simp [Stops, itemChars, separator] <;> decide

/-- A number does not go on with what follows the value of a member. -/
theorem stops_memberChars (members : List (String × Outline)) (rest : List Char) :
    Stops (memberChars false members ++ rest) := by
  cases members <;> simp [Stops, memberChars, separator] <;> decide

/-- The number at the start of a text is what there is in the characters of numbers. -/
theorem takeWhile_number (printed : NumberText) {rest : List Char} (stops : Stops rest) :
    (printed.text.toList ++ rest).takeWhile isNumberChar = printed.text.toList := by
  have done : rest.takeWhile isNumberChar = [] := by
    cases rest with
    | nil => rfl
    | cons c later => exact List.takeWhile_cons_of_neg (by simp [stops c rfl])
  rw [List.takeWhile_append_of_pos printed.isNumeric, done, List.append_nil]

/-- Numbers that are printed alike, with something after them that does not go on with a number, are
the same text. -/
theorem number_inj {left right : NumberText} {rest rest' : List Char} (stops : Stops rest)
    (stops' : Stops rest') (alike : left.text.toList ++ rest = right.text.toList ++ rest') :
    left = right ∧ rest = rest' := by
  have same : left.text.toList = right.text.toList := by
    rw [← takeWhile_number left stops, alike, takeWhile_number right stops']
  obtain ⟨text, _, _⟩ := left
  obtain ⟨text', _, _⟩ := right
  obtain rfl : text = text' := String.toList_inj.mp same
  exact ⟨rfl, List.append_cancel_left alike⟩

mutual

/-- Outlines that are printed alike, with something after them that does not go on with a number,
are the same, and so is what follows. -/
theorem chars_append_inj : ∀ {left right : Outline} {rest rest' : List Char}, Stops rest →
    Stops rest' → left.chars ++ rest = right.chars ++ rest' → left = right ∧ rest = rest'
  | .null, right, rest, rest', _, _, alike => by
    cases right with
    | null => exact ⟨rfl, List.append_cancel_left alike⟩
    | _ => exact absurd (kindName_eq alike) (by simp [kindName])
  | .bool value, right, rest, rest', _, _, alike => by
    cases right with
    | bool value' =>
      cases value <;> cases value' <;> simp [chars] at alike <;> exact ⟨rfl, alike⟩
    | _ => exact absurd (kindName_eq alike) (by simp [kindName])
  | .number printed, right, rest, rest', stops, stops', alike => by
    cases right with
    | number printed' =>
      obtain ⟨same, after⟩ := number_inj stops stops' alike
      exact ⟨congrArg number same, after⟩
    | _ => exact absurd (kindName_eq alike) (by simp [kindName])
  | .string value, right, rest, rest', _, _, alike => by
    cases right with
    | string value' =>
      obtain ⟨same, after⟩ := quoteChars_append_inj alike
      exact ⟨congrArg string same, after⟩
    | _ => exact absurd (kindName_eq alike) (by simp [kindName])
  | .array items, right, rest, rest', _, _, alike => by
    cases right with
    | array items' =>
      obtain ⟨same, after⟩ := itemChars_append_inj (List.cons.inj alike).2
      exact ⟨congrArg array same, after⟩
    | _ => exact absurd (kindName_eq alike) (by simp [kindName])
  | .object members, right, rest, rest', _, _, alike => by
    cases right with
    | object members' =>
      obtain ⟨same, after⟩ := memberChars_append_inj (List.cons.inj alike).2
      exact ⟨congrArg object same, after⟩
    | _ => exact absurd (kindName_eq alike) (by simp [kindName])

/-- Items that are printed alike, with something after them, are the same. -/
theorem itemChars_append_inj : ∀ {isFirst : Bool} {left right : List Outline}
    {rest rest' : List Char}, itemChars isFirst left ++ rest = itemChars isFirst right ++ rest' →
    left = right ∧ rest = rest'
  | isFirst, [], [], rest, rest', alike => ⟨rfl, List.append_cancel_left alike⟩
  | isFirst, [], item :: later, rest, rest', alike => by
    obtain ⟨c, more, start, other⟩ := exists_lead_itemChars isFirst item later
    rw [start] at alike
    exact absurd (List.cons.inj alike).1.symm other
  | isFirst, item :: later, [], rest, rest', alike => by
    obtain ⟨c, more, start, other⟩ := exists_lead_itemChars isFirst item later
    rw [start] at alike
    exact absurd (List.cons.inj alike).1 other
  | isFirst, item :: later, item' :: later', rest, rest', alike => by
    simp only [itemChars, List.append_assoc] at alike
    obtain ⟨sameItem, others⟩ := chars_append_inj (stops_itemChars later rest)
      (stops_itemChars later' rest') (List.append_cancel_left alike)
    obtain ⟨sameItems, after⟩ := itemChars_append_inj others
    exact ⟨by rw [sameItem, sameItems], after⟩

/-- Members that are printed alike, with something after them, are the same. -/
theorem memberChars_append_inj : ∀ {isFirst : Bool} {left right : List (String × Outline)}
    {rest rest' : List Char},
    memberChars isFirst left ++ rest = memberChars isFirst right ++ rest' →
    left = right ∧ rest = rest'
  | isFirst, [], [], rest, rest', alike => ⟨rfl, List.append_cancel_left alike⟩
  | isFirst, [], member :: later, rest, rest', alike => by
    obtain ⟨c, more, start, other⟩ := exists_lead_memberChars isFirst member later
    rw [start] at alike
    exact absurd (List.cons.inj alike).1.symm other
  | isFirst, member :: later, [], rest, rest', alike => by
    obtain ⟨c, more, start, other⟩ := exists_lead_memberChars isFirst member later
    rw [start] at alike
    exact absurd (List.cons.inj alike).1 other
  | isFirst, (key, value) :: later, (key', value') :: later', rest, rest', alike => by
    simp only [memberChars, List.append_assoc, List.cons_append] at alike
    obtain ⟨sameKey, fromColon⟩ := quoteChars_append_inj (List.append_cancel_left alike)
    obtain ⟨sameValue, others⟩ := chars_append_inj (stops_memberChars later rest)
      (stops_memberChars later' rest') (List.cons.inj fromColon).2
    obtain ⟨sameMembers, after⟩ := memberChars_append_inj others
    exact ⟨by rw [sameKey, sameValue, sameMembers], after⟩

end

/-- Outlines that are printed alike are the same. -/
theorem chars_injective : Function.Injective chars := by
  intro left right alike
  have alone : left.chars ++ [] = right.chars ++ [] := congrArg (· ++ []) alike
  exact (chars_append_inj stops_nil stops_nil alone).1

end Outline

/-! ## Outlines of parts -/

/-- The outlines of items are those of each. -/
theorem outlineItems_eq_map (items : List Json) : outlineItems items = items.map outline := by
  induction items with
  | nil => rfl
  | cons item later ih => rw [outlineItems, ih, List.map_cons]

/-- Under a key, the outlines of members show the outline of the value there. -/
theorem lookup_outlineMembers (members : Members) (key : String) :
    (outlineMembers members).lookup key = (members.lookup key).map outline := by
  induction members with
  | nil => rfl
  | cons member later ih =>
    obtain ⟨other, value⟩ := member
    rw [outlineMembers, lookup_cons_ite, lookup_cons_ite, ih]
    split <;> rfl

/-- Objects of one outline hold values of one outline under each key. -/
theorem lookup_outline_eq {left right : Members}
    (same : (object left).outline = (object right).outline) (key : String) :
    (left.lookup key).map outline = (right.lookup key).map outline := by
  rw [← lookup_outlineMembers, Outline.object.inj same, lookup_outlineMembers]

/-- Two texts are written with one outline only if they are the same. -/
theorem outline_string_injective : Function.Injective fun text => (string text).outline :=
  fun _ _ same => Outline.string.inj same

/-- Two natural numbers are written with one outline only if they are the same. -/
theorem outline_ofNat_injective : Function.Injective fun value => (ofNat value).outline := by
  intro left right same
  exact toString_injective (congrArg NumberText.text (Outline.number.inj same))

/-- Two values have one text exactly when they have one outline. -/
theorem render_eq_iff (left right : Json) :
    left.render = right.render ↔ left.outline = right.outline := by
  rw [← String.toList_inj, toList_render, toList_render, Outline.chars_injective.eq_iff]

end Formwright.Json
