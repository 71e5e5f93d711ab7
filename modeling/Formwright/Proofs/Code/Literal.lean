import Formwright.Proofs.Code.Spelling

/-!
# Literals in generated code

A literal of code is read from its lexemes: a text, a number, a pattern, a constant, or an array or
an object of literals, in which a comma may stand before the end. A JSON value in code is read as
itself.
-/
namespace Formwright.Code

/-! ## Reading literals -/

/-- What a literal stands for. -/
inductive Literal where
  | undefined
  | null
  | bool (value : Bool)
  /-- A number, as it is written. -/
  | number (text : String)
  | string (text : String)
  /-- A pattern, by its source text. -/
  | pattern (source : String)
  | array (items : List Literal)
  | object (members : List (String × Literal))

namespace Literal

/-- The constant that a word stands for. -/
def ofWord? (word : String) : Option Literal :=
  if word = "undefined" then some undefined
  else if word = "null" then some null
  else if word = "true" then some (bool true)
  else if word = "false" then some (bool false)
  else none

/-- The name that a key stands for. -/
def key? : Lexeme → Option String
  | .word name | .literal name => some name
  | _ => none

/-- The source text of a pattern, after the word that makes a new object. -/
def ofPattern? : List Lexeme → Option (Literal × List Lexeme)
  | .word name :: .mark '(' :: .literal source :: .mark ')' :: rest =>
    if name = "RegExp" then some (.pattern source, rest) else none
  | _ => none

mutual

/-- Reads a literal, with no more than the given number of parts inside one another. -/
def readWithin? : Nat → List Lexeme → Option (Literal × List Lexeme)
  | 0, _ => none
  | fuel + 1, tokens =>
    match tokens with
    | .literal text :: rest => some (.string text, rest)
    | .number text :: rest => some (.number text, rest)
    | .word word :: rest =>
      if word = "new" then ofPattern? rest else (ofWord? word).map (·, rest)
    | .mark '-' :: .number text :: rest => some (.number ("-" ++ text), rest)
    | .mark '[' :: rest => (readItems? fuel rest).map fun read => (.array read.1, read.2)
    | .mark '\x7b' :: rest => (readMembers? fuel rest).map fun read => (.object read.1, read.2)
    | _ => none

/-- Reads the items of an array, up to its closing bracket. -/
def readItems? : Nat → List Lexeme → Option (List Literal × List Lexeme)
  | 0, _ => none
  | _ + 1, .mark ']' :: rest => some ([], rest)
  | fuel + 1, tokens => do
    let (item, rest) ← readWithin? fuel tokens
    match rest with
    | .mark ',' :: rest => (readItems? fuel rest).map fun read => (item :: read.1, read.2)
    | .mark ']' :: rest => some ([item], rest)
    | _ => none

/-- Reads the members of an object, up to its closing brace. -/
def readMembers? : Nat → List Lexeme → Option (List (String × Literal) × List Lexeme)
  | 0, _ => none
  | _ + 1, .mark '\x7d' :: rest => some ([], rest)
  | fuel + 1, key :: .mark ':' :: tokens => do
    let name ← key? key
    let (value, rest) ← readWithin? fuel tokens
    match rest with
    | .mark ',' :: rest =>
      (readMembers? fuel rest).map fun read => ((name, value) :: read.1, read.2)
    | .mark '\x7d' :: rest => some ([(name, value)], rest)
    | _ => none
  | _ + 1, _ => none

end

/-- The literal at the start of some lexemes. -/
def read? (tokens : List Lexeme) : Option Literal :=
  (readWithin? tokens.length tokens).map Prod.fst

/-! ## Spelling literals -/

/-- The lexemes spell the literal: it is read from them, whatever follows. -/
def Spelled (literal : Literal) (tokens : List Lexeme) : Prop :=
  ∀ fuel rest, tokens.length ≤ fuel → readWithin? fuel (tokens ++ rest) = some (literal, rest)

/-- The lexemes spell the items of an array and its closing bracket. -/
def ItemsSpelled (items : List Literal) (tokens : List Lexeme) : Prop :=
  ∀ fuel rest, tokens.length ≤ fuel → readItems? fuel (tokens ++ rest) = some (items, rest)

/-- The lexemes spell the members of an object and its closing brace. -/
def MembersSpelled (members : List (String × Literal)) (tokens : List Lexeme) : Prop :=
  ∀ fuel rest, tokens.length ≤ fuel → readMembers? fuel (tokens ++ rest) = some (members, rest)

/-- A literal is read from its lexemes. -/
theorem Spelled.read? {literal : Literal} {tokens : List Lexeme} (spelled : Spelled literal tokens)
    (rest : List Lexeme) : Literal.read? (tokens ++ rest) = some literal := by
  rw [Literal.read?, spelled _ _ (by simp), Option.map_some]

/-- A string literal spells its text. -/
theorem spelled_string (text : String) : Spelled (.string text) [.literal text] := by
  rintro (_ | fuel) rest enough
  · contradiction
  · simp [readWithin?]

/-- A pattern is spelled by the expression for it. -/
theorem spelled_pattern (source : String) : Spelled (.pattern source)
    [.word "new", .word "RegExp", .mark '(', .literal source, .mark ')'] := by
  rintro (_ | fuel) rest enough
  · contradiction
  · simp [readWithin?, ofPattern?]

/-- A literal does not start with the end of an array. -/
theorem Spelled.head?_ne {literal : Literal} {tokens : List Lexeme}
    (spelled : Spelled literal tokens) (rest : List Lexeme) :
    (tokens ++ rest).head? ≠ some (.mark ']') := by
  cases tokens with
  | nil => simpa [readWithin?] using spelled 0 rest (Nat.le_refl _)
  | cons token later =>
    intro closing
    obtain rfl := Option.some.inj closing
    simpa [readWithin?] using spelled _ rest (Nat.le_refl _)

/-- The closing bracket ends an array. -/
theorem itemsSpelled_nil : ItemsSpelled [] [.mark ']'] := by
  rintro (_ | fuel) rest enough
  · contradiction
  · simp [readItems?]

/-- The next item of an array is read, and then what follows it. -/
theorem readItems?_succ {item : Literal} {tokens : List Lexeme} (spelled : Spelled item tokens)
    {fuel : Nat} (enough : tokens.length ≤ fuel) (rest : List Lexeme) :
    readItems? (fuel + 1) (tokens ++ rest) =
      match rest with
      | .mark ',' :: rest => (readItems? fuel rest).map fun read => (item :: read.1, read.2)
      | .mark ']' :: rest => some ([item], rest)
      | _ => none := by
  rw [readItems?]
  · simp [spelled fuel rest enough]
  · intro more same
    exact spelled.head?_ne rest (by rw [same]; rfl)

/-- An item stands before others after a comma. -/
theorem Spelled.cons {item : Literal} {items : List Literal} {tokens later : List Lexeme}
    (spelled : Spelled item tokens) (below : ItemsSpelled items later) :
    ItemsSpelled (item :: items) (tokens ++ .mark ',' :: later) := by
  rintro (_ | fuel) rest enough
  · simp at enough
  · simp only [List.length_append, List.length_cons] at enough
    rw [List.append_assoc, readItems?_succ spelled (by omega)]
    simp [below fuel rest (by omega)]

/-- The last item needs no comma. -/
theorem Spelled.last {item : Literal} {tokens : List Lexeme} (spelled : Spelled item tokens) :
    ItemsSpelled [item] (tokens ++ [.mark ']']) := by
  rintro (_ | fuel) rest enough
  · simp at enough
  · simp only [List.length_append, List.length_singleton] at enough
    rw [List.append_assoc, readItems?_succ spelled (by omega)]
    rfl

/-- Items that are made of parts may all have a comma after them. -/
theorem itemsSpelled_flatMap {α : Type} (parts : List α) {item : α → Literal}
    {tokens : α → List Lexeme} (each : ∀ part, Spelled (item part) (tokens part)) :
    ItemsSpelled (parts.map item)
      (parts.flatMap (fun part => tokens part ++ [.mark ',']) ++ [.mark ']']) := by
  induction parts with
  | nil => exact itemsSpelled_nil
  | cons part later ih => simpa using (each part).cons ih

/-- An array is spelled by its items in brackets. -/
theorem ItemsSpelled.array {items : List Literal} {tokens : List Lexeme}
    (spelled : ItemsSpelled items tokens) : Spelled (.array items) (.mark '[' :: tokens) := by
  rintro (_ | fuel) rest enough
  · contradiction
  · simp [readWithin?, spelled fuel rest (by simpa using enough)]

/-- The closing brace ends an object. -/
theorem membersSpelled_nil : MembersSpelled [] [.mark '\x7d'] := by
  rintro (_ | fuel) rest enough
  · contradiction
  · simp [readMembers?]

/-- The next member of an object is read, and then what follows it. -/
theorem readMembers?_succ {key : Lexeme} {name : String} (named : key? key = some name)
    {value : Literal} {tokens : List Lexeme} (spelled : Spelled value tokens) {fuel : Nat}
    (enough : tokens.length ≤ fuel) (rest : List Lexeme) :
    readMembers? (fuel + 1) (key :: .mark ':' :: (tokens ++ rest)) =
      match rest with
      | .mark ',' :: rest =>
        (readMembers? fuel rest).map fun read => ((name, value) :: read.1, read.2)
      | .mark '\x7d' :: rest => some ([(name, value)], rest)
      | _ => none := by
  rw [readMembers?]
  · simp [named, spelled fuel rest enough]
  · rintro rfl
    contradiction

/-- A member stands before others after a comma. -/
theorem MembersSpelled.cons {key : Lexeme} {name : String} (named : key? key = some name)
    {value : Literal} {members : List (String × Literal)} {tokens later : List Lexeme}
    (spelled : Spelled value tokens) (below : MembersSpelled members later) :
    MembersSpelled ((name, value) :: members)
      (key :: .mark ':' :: (tokens ++ .mark ',' :: later)) := by
  rintro (_ | fuel) rest enough
  · simp at enough
  · simp only [List.length_append, List.length_cons] at enough
    rw [List.cons_append, List.cons_append, List.append_assoc,
      readMembers?_succ named spelled (by omega)]
    simp [below fuel rest (by omega)]

/-- The last member needs no comma. -/
theorem Spelled.lastMember {key : Lexeme} {name : String} (named : key? key = some name)
    {value : Literal} {tokens : List Lexeme} (spelled : Spelled value tokens) :
    MembersSpelled [(name, value)] (key :: .mark ':' :: (tokens ++ [.mark '\x7d'])) := by
  rintro (_ | fuel) rest enough
  · simp at enough
  · simp only [List.length_append, List.length_cons, List.length_nil] at enough
    rw [List.cons_append, List.cons_append, List.append_assoc,
      readMembers?_succ named spelled (by omega)]
    rfl

/-- Members that are made of parts may all have a comma after them. -/
theorem membersSpelled_flatMap {α : Type} (parts : List α) {key : α → Lexeme} {name : α → String}
    (named : ∀ part, key? (key part) = some (name part)) {value : α → Literal}
    {tokens : α → List Lexeme} (each : ∀ part, Spelled (value part) (tokens part)) :
    MembersSpelled (parts.map fun part => (name part, value part))
      (parts.flatMap (fun part => key part :: .mark ':' :: (tokens part ++ [.mark ',']))
        ++ [.mark '\x7d']) := by
  induction parts with
  | nil => exact membersSpelled_nil
  | cons part later ih => simpa using MembersSpelled.cons (named part) (each part) ih

/-- An object is spelled by its members in braces. -/
theorem MembersSpelled.object {members : List (String × Literal)} {tokens : List Lexeme}
    (spelled : MembersSpelled members tokens) :
    Spelled (.object members) (.mark '\x7b' :: tokens) := by
  rintro (_ | fuel) rest enough
  · contradiction
  · simp [readWithin?, spelled fuel rest (by simpa using enough)]

end Literal

/-! ## JSON values in code -/

/-- Whether a character ends a value inside an array or an object. -/
def endsValue (c : Char) : Bool := c == ',' || c == ']' || c == '\x7d'

/-- The lexemes of a number. -/
def numberTokens (text : String) : List Lexeme :=
  match text.toList with
  | '-' :: digits => [.mark '-', .number (String.ofList digits)]
  | _ => [.number text]

mutual

/-- The lexemes of a value. -/
def jsonTokens : Json → List Lexeme
  | .null => [.word "null"]
  | .bool value => [.word (if value then "true" else "false")]
  | .integer value => numberTokens (toString value)
  | .float value => numberTokens (Json.floatText value)
  | .string value => [.literal value]
  | .array items => .mark '[' :: itemTokens items
  | .object members => .mark '\x7b' :: memberEntryTokens members

/-- The lexemes of the items of an array and of its closing bracket. -/
def itemTokens : List Json → List Lexeme
  | [] => [.mark ']']
  | [item] => jsonTokens item ++ [.mark ']']
  | item :: later => jsonTokens item ++ .mark ',' :: itemTokens later

/-- The lexemes of the members of an object and of its closing brace. -/
def memberEntryTokens : List (String × Json) → List Lexeme
  | [] => [.mark '\x7d']
  | [(key, value)] => .literal key :: .mark ':' :: (jsonTokens value ++ [.mark '\x7d'])
  | (key, value) :: later =>
    .literal key :: .mark ':' :: (jsonTokens value ++ .mark ',' :: memberEntryTokens later)

end

mutual

/-- The literal that a value is. -/
def Literal.ofJson : Json → Literal
  | .null => .null
  | .bool value => .bool value
  | .integer value => .number (toString value)
  | .float value => .number (Json.floatText value)
  | .string value => .string value
  | .array items => .array (ofItems items)
  | .object members => .object (ofMembers members)

/-- The literals that items are. -/
def Literal.ofItems : List Json → List Literal
  | [] => []
  | item :: later => ofJson item :: ofItems later

/-- The literals that members are. -/
def Literal.ofMembers : List (String × Json) → List (String × Literal)
  | [] => []
  | (key, value) :: later => (key, ofJson value) :: ofMembers later

end

namespace Literal

/-- A number is spelled by its sign and its digits. -/
theorem spelled_number (text : String) : Spelled (.number text) (numberTokens text) := by
  unfold numberTokens
  split
  · next digits signed =>
    have whole : "-" ++ String.ofList digits = text := by
      rw [← String.toList_inj]
      simp [signed]
    rintro (_ | fuel) rest enough
    · contradiction
    · simp [readWithin?, whole]
  · rintro (_ | fuel) rest enough
    · contradiction
    · simp [readWithin?]

/-- A constant is spelled by its word. -/
theorem spelled_word {word : String} {literal : Literal}
    (constant : ofWord? word = some literal) : Spelled literal [.word word] := by
  have other : word ≠ "new" := by
    rintro rfl
    contradiction
  rintro (_ | fuel) rest enough
  · contradiction
  · simp [readWithin?, other, constant]

mutual

/-- A value is spelled by its lexemes. -/
theorem spelled_json : ∀ value : Json, Spelled (ofJson value) (jsonTokens value)
  | .null => by rw [ofJson, jsonTokens]; exact spelled_word rfl
  | .bool true | .bool false => by rw [ofJson, jsonTokens]; exact spelled_word rfl
  | .integer _ | .float _ => by rw [ofJson, jsonTokens]; exact spelled_number _
  | .string _ => by rw [ofJson, jsonTokens]; exact spelled_string _
  | .array items => by rw [ofJson, jsonTokens]; exact (spelled_items items).array
  | .object members => by rw [ofJson, jsonTokens]; exact (spelled_members members).object

/-- Items are spelled by their lexemes. -/
theorem spelled_items : ∀ items : List Json, ItemsSpelled (ofItems items) (itemTokens items)
  | [] => by rw [ofItems, itemTokens]; exact itemsSpelled_nil
  | [item] => by rw [ofItems, ofItems, itemTokens]; exact (spelled_json item).last
  | item :: next :: later => by
    rw [ofItems, itemTokens]
    · exact (spelled_json item).cons (spelled_items (next :: later))
    · nofun

/-- Members are spelled by their lexemes. -/
theorem spelled_members : ∀ members : List (String × Json),
    MembersSpelled (ofMembers members) (memberEntryTokens members)
  | [] => by rw [ofMembers, memberEntryTokens]; exact membersSpelled_nil
  | [(key, value)] => by
    rw [ofMembers, ofMembers, memberEntryTokens]
    exact (spelled_json value).lastMember rfl
  | (key, value) :: next :: later => by
    rw [ofMembers, memberEntryTokens]
    · exact .cons rfl (spelled_json value) (spelled_members (next :: later))
    · nofun

end

end Literal

section

variable {outer : List Region}

/-- Digits and what follows them in a number are read as one number. -/
theorem scan_number {later : List Char} (numeric : ∀ c ∈ later, Json.isNumberChar c = true)
    (read rest : List Char) :
    Reading.scan ⟨outer, .number read⟩ (later ++ rest) =
      Reading.scan ⟨outer, .number (later.reverse ++ read)⟩ rest := by
  induction later generalizing read with
  | nil => rfl
  | cons c later ih =>
    obtain ⟨here, below⟩ := List.forall_mem_cons.mp numeric
    rw [List.cons_append, Reading.scan]
    simp only [Reading.step, here, ↓reduceIte, Reading.emit_nil]
    rw [ih below]
    simp

/-- A number without a sign is read as one lexeme. -/
theorem reads_magnitude {text : String} (starts : Json.StartsInDigit text)
    (numeric : Json.IsNumeric text) :
    Reads (.code :: outer) text (Pending.number []).endsAt (.code :: outer) [.number text] := by
  intro c rest follows
  obtain ⟨first, later, spelled, digit⟩ := starts
  have whole : textOf (later.reverse ++ [first]) = text := by simp [textOf, ← spelled]
  have ends : (Pending.number (later.reverse ++ [first])).endsAt c = true := follows
  have goesOn : ∀ c ∈ later, Json.isNumberChar c = true := fun c member =>
    numeric c (spelled ▸ List.mem_cons_of_mem first member)
  have begun : Reading.start (.code :: outer) first = (⟨.code :: outer, .number [first]⟩, []) := by
    have other : ∀ mark ∈ [' ', '\n', '\t', '\r', '"', '<', '\x7b', '\x7d'], first ≠ mark :=
      ne_of_all (by decide) digit
    simp only [List.forall_mem_cons, ne_eq, List.not_mem_nil] at other
    simp [Reading.start, Json.isGap, digit, other]
  rw [spelled, List.cons_append, Reading.scan]
  simp only [Reading.step, begun, Reading.emit_nil]
  rw [scan_number goesOn, Reading.scan_ended ends, Pending.ended, whole]

/-- A character that ends a value ends a number. -/
theorem endsAt_number_of_endsValue {c : Char} (ends : endsValue c = true) :
    (Pending.number []).endsAt c = true := by
  simp only [endsValue, Bool.or_eq_true, beq_iff_eq] at ends
  rcases ends with (rfl | rfl) | rfl <;> rfl

/-- A character that ends a value ends a word. -/
theorem endsAt_word_of_endsValue {c : Char} (ends : endsValue c = true) :
    (Pending.word []).endsAt c = true := by
  simp only [endsValue, Bool.or_eq_true, beq_iff_eq] at ends
  rcases ends with (rfl | rfl) | rfl <;> rfl

/-- A number in code is read as its sign and its digits. -/
theorem reads_number {text magnitude : String} (starts : Json.StartsInDigit magnitude)
    (numeric : Json.IsNumeric text) (signed : text = magnitude ∨ text = "-" ++ magnitude) :
    Reads (.code :: outer) text endsValue (.code :: outer) (numberTokens text) := by
  rcases signed with rfl | rfl
  · have unsigned : numberTokens text = [.number text] := by
      obtain ⟨first, later, spelled, digit⟩ := starts
      unfold numberTokens
      split
      · next digits minus =>
        obtain ⟨rfl, -⟩ := List.cons.inj (spelled.symm.trans minus)
        contradiction
      · rfl
    rw [unsigned]
    exact (reads_magnitude starts numeric).mono fun _ => endsAt_number_of_endsValue
  · have minus : numberTokens ("-" ++ magnitude) = [.mark '-', .number magnitude] := by
      simp [numberTokens]
    have sign := reads_of_isRead (rfl : isRead [.code] "-" .idle [.code] [.mark '-'] = true) outer
    rw [minus]
    exact (sign.append (reads_magnitude starts ((Json.isNumeric_append _ _).mp numeric).2)).mono
      fun _ => endsAt_number_of_endsValue

mutual

/-- A value in code is read as its lexemes. -/
theorem reads_json : ∀ (value : Json) (outer : List Region),
    Reads (.code :: outer) value.render endsValue (.code :: outer) (jsonTokens value)
  | .null, outer => by
    rw [Json.render, jsonTokens]
    exact (reads_word rfl).mono fun _ => endsAt_word_of_endsValue
  | .bool true, outer | .bool false, outer => by
    rw [Json.render, jsonTokens]
    exact (reads_word rfl).mono fun _ => endsAt_word_of_endsValue
  | .integer value, outer => by
    obtain ⟨magnitude, starts, signed⟩ := Json.exists_startsInDigit_intText value
    rw [Json.render, jsonTokens]
    exact reads_number starts (Json.isNumeric_intText value) signed
  | .float value, outer => by
    obtain ⟨magnitude, starts, signed⟩ := Json.exists_startsInDigit_floatText value
    rw [Json.render, jsonTokens]
    exact reads_number starts (Json.isNumeric_floatText value) signed
  | .string text, outer => by
    rw [Json.render, jsonTokens]
    exact (reads_stringLiteral text).mono fun _ _ => rfl
  | .array items, outer => by
    have opened := reads_of_isRead (rfl : isRead [.code] "[" .idle [.code] [.mark '['] = true) outer
    rw [Json.render, jsonTokens, String.append_assoc]
    exact (opened.append (reads_items items outer)).mono fun _ _ => rfl
  | .object members, outer => by
    have opened := reads_of_isRead
      (rfl : isRead [.code] "\x7b" .idle [.code, .code] [.mark '\x7b'] = true) outer
    rw [Json.render, jsonTokens, String.append_assoc]
    exact (opened.append (reads_members members outer)).mono fun _ _ => rfl

/-- The items of an array in code are read as their lexemes, up to the closing bracket. -/
theorem reads_items : ∀ (items : List Json) (outer : List Region),
    Reads (.code :: outer) (Json.renderItems items ++ "]") Pending.idle.endsAt (.code :: outer)
      (itemTokens items)
  | [], outer => by
    rw [Json.renderItems, itemTokens]
    exact reads_of_isRead (rfl : isRead [.code] ("" ++ "]") .idle [.code] [.mark ']'] = true) outer
  | [item], outer => by
    have closed := reads_of_isRead (rfl : isRead [.code] "]" .idle [.code] [.mark ']'] = true) outer
    rw [Json.renderItems, itemTokens]
    exact (reads_json item outer).before closed rfl
  | item :: next :: later, outer => by
    have comma := reads_comma outer
    rw [Json.renderItems, itemTokens, String.append_assoc]
    · have whole := ((reads_json item outer).before comma rfl).append
        (reads_items (next :: later) outer)
      rwa [List.append_assoc] at whole
    all_goals nofun

/-- The members of an object in code are read as their lexemes, up to the closing brace. -/
theorem reads_members : ∀ (members : List (String × Json)) (outer : List Region),
    Reads (.code :: .code :: outer) (Json.renderMembers members ++ "\x7d") Pending.idle.endsAt
      (.code :: outer) (memberEntryTokens members)
  | [], outer => by
    rw [Json.renderMembers, memberEntryTokens]
    exact reads_of_isRead
      (rfl : isRead [.code, .code] ("" ++ "\x7d") .idle [.code] [.mark '\x7d'] = true) outer
  | [(key, value)], outer => by
    have colon := reads_colon (.code :: outer)
    have closed := reads_of_isRead
      (rfl : isRead [.code, .code] "\x7d" .idle [.code] [.mark '\x7d'] = true) outer
    rw [Json.renderMembers, memberEntryTokens]
    exact (((reads_stringLiteral key).append colon).append (reads_json value _)).before closed rfl
  | (key, value) :: next :: later, outer => by
    have colon := reads_colon (.code :: outer)
    have comma := reads_comma (.code :: outer)
    rw [Json.renderMembers, memberEntryTokens, String.append_assoc]
    · have whole := ((((reads_stringLiteral key).append colon).append
        (reads_json value _)).before comma rfl).append (reads_members (next :: later) outer)
      rwa [List.append_assoc, List.append_assoc] at whole
    all_goals nofun

end

end

end Formwright.Code
