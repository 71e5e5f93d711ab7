import Formwright.Proofs.Code.Reading
import Formwright.Proofs.Prompt.Identifier

/-!
# Texts of a document in generated code

Every text of a document is read, where it stands in generated code, as one lexeme that stands for
the text, or as that lexeme inside braces: a string literal, an attribute value, a text child, a key
of an object or a member of one.
-/
namespace Formwright.Code

variable {outer : List Region}

/-! ## String literals -/

/-- A character between quotes is read as itself. -/
theorem scan_quoteChar (c : Char) (read rest : List Char) :
    Reading.scan ⟨outer, .literal read⟩ (Json.quoteChar c ++ rest) =
      Reading.scan ⟨outer, .literal (c :: read)⟩ rest := by
  by_cases named : c ∈ Json.namedEscapes
  · simp only [Json.namedEscapes, List.mem_cons, List.not_mem_nil, or_false] at named
    rcases named with rfl | rfl | rfl | rfl | rfl | rfl | rfl <;> rfl
  · simp only [Json.namedEscapes, List.mem_cons, List.not_mem_nil, or_false, not_or] at named
    by_cases control : c.toNat < 0x20
    · have high := (Json.hexValue_hexDigit ⟨c.toNat / 16, by omega⟩).2
      have low := (Json.hexValue_hexDigit ⟨c.toNat % 16, by omega⟩).2
      have zero : Json.hexValue '0' = some 0 := by decide
      have whole : c.toNat / 16 * 16 + c.toNat % 16 = c.toNat := Nat.div_add_mod' _ _
      have written : Json.quoteChar c = ['\\', 'u', '0', '0', Json.hexDigit (c.toNat / 16),
          Json.hexDigit (c.toNat % 16)] := by
        simp [Json.quoteChar, named, control]
      simp [written, Reading.scan, Reading.step, zero, high, low, whole]
    · have written : Json.quoteChar c = [c] := by simp [Json.quoteChar, named, control]
      simp [written, Reading.scan, Reading.step, named]

/-- A text between quotes is read as itself, up to its closing quote. -/
theorem scan_quoted (outer : List Region) (text read rest : List Char) :
    Reading.scan ⟨outer, .literal read⟩ (text.flatMap Json.quoteChar ++ '"' :: rest) =
      Reading.emit [.literal (String.ofList (read.reverse ++ text))]
        (Reading.scan ⟨outer, .idle⟩ rest) := by
  induction text generalizing read with
  | nil => simp [Reading.scan, Reading.step, textOf]
  | cons c later ih => rw [List.flatMap_cons, List.append_assoc, scan_quoteChar, ih]; simp

/-- A string literal is read as its text. -/
theorem reads_stringLiteral (text : String) :
    Reads (.code :: outer) (stringLiteral text) Pending.idle.endsAt (.code :: outer)
      [.literal text] := by
  intro c rest _
  have quoted := scan_quoted (.code :: outer) text.toList [] (c :: rest)
  rw [List.reverse_nil, List.nil_append, String.ofList_toList] at quoted
  rw [← quoted, stringLiteral, Json.quote, String.toList_ofList, Json.quoteChars, List.append_assoc]
  rfl

/-! ## Names -/

/-- Whether a text starts and goes on like an identifier. -/
def isName (text : String) : Bool :=
  match text.toList with
  | [] => false
  | first :: later => startsIdentifier first && later.all continuesIdentifier

/-- An identifier starts and goes on like one. -/
theorem isName_of_isIdentifier {text : String} (sound : isIdentifier text = true) :
    isName text = true := by
  obtain ⟨first, later, spelled, starts, goesOn⟩ := exists_of_isIdentifier sound
  simp only [isName, spelled, starts, goesOn, Bool.and_self]

/-- A name starts with a character that an identifier may start with. -/
theorem exists_of_isName {text : String} (sound : isName text = true) :
    ∃ first later, text.toList = first :: later ∧ startsIdentifier first = true ∧
      ∀ c ∈ later, continuesIdentifier c = true := by
  unfold isName at sound
  split at sound
  · contradiction
  · next first later spelled =>
    rw [Bool.and_eq_true, List.all_eq_true] at sound
    exact ⟨first, later, spelled, sound⟩

/-- No identifier starts with a digit. -/
theorem startsIdentifier_of_isDigit {c : Char} (digit : c.isDigit = true) :
    startsIdentifier c = false := by
  have ascii := Text.toNat_lt_of_isAlphanum (Bool.or_eq_true_iff.mpr (.inr digit))
  revert digit
  exact @Text.forall_ascii (fun c => c.isDigit = true → startsIdentifier c = false)
    (by decide +kernel) c ascii

/-- A character of a kind is none of those that are not of the kind. -/
theorem ne_of_all {kind : Char → Bool} {marks : List Char}
    (other : marks.all (fun mark => !kind mark) = true) {c : Char} (held : kind c = true) :
    ∀ mark ∈ marks, c ≠ mark := by
  rintro mark listed rfl
  have lacks := List.all_eq_true.mp other c listed
  simp [held] at lacks

/-- A character that an identifier may start with is none of those that start anything else. -/
theorem ne_of_startsIdentifier {c : Char} (starts : startsIdentifier c = true) :
    ∀ mark ∈ [' ', '\n', '\t', '\r', '"', '<', '>', '/', '\x7b', '\x7d'], c ≠ mark :=
  ne_of_all (by decide) starts

/-- A character that an identifier may start with is no blank. -/
theorem isGap_of_startsIdentifier {c : Char} (starts : startsIdentifier c = true) :
    Json.isGap c = false := by
  have other := ne_of_startsIdentifier starts
  simp only [List.forall_mem_cons, ne_eq, List.not_mem_nil] at other
  simp [Json.isGap, other]

/-- A character that an identifier may start with starts a word. -/
theorem start_identifier {region : Region} (named : region = .code ∨ region = .tag) {c : Char}
    (starts : startsIdentifier c = true) :
    Reading.start (region :: outer) c = (⟨region :: outer, .word [c]⟩, []) := by
  have other := ne_of_startsIdentifier starts
  have gap := isGap_of_startsIdentifier starts
  have notDigit : c.isDigit = false := by
    cases digit : c.isDigit with
    | false => rfl
    | true => exact absurd starts (by simp [startsIdentifier_of_isDigit digit])
  simp only [List.forall_mem_cons, ne_eq, List.not_mem_nil] at other
  rcases named with rfl | rfl <;> simp [Reading.start, starts, gap, notDigit, other]

/-- A word goes on with the characters that an identifier may go on with. -/
theorem scan_word {later : List Char} (goesOn : ∀ c ∈ later, continuesIdentifier c = true)
    (read rest : List Char) :
    Reading.scan ⟨outer, .word read⟩ (later ++ rest) =
      Reading.scan ⟨outer, .word (later.reverse ++ read)⟩ rest := by
  induction later generalizing read with
  | nil => rfl
  | cons c later ih =>
    obtain ⟨here, below⟩ := List.forall_mem_cons.mp goesOn
    rw [List.cons_append, Reading.scan]
    simp only [Reading.step, here, ↓reduceIte, Reading.emit_nil]
    rw [ih below]
    simp

/-- A name is read as a word. -/
theorem reads_name {region : Region} (named : region = .code ∨ region = .tag) {text : String}
    (sound : isName text = true) :
    Reads (region :: outer) text (Pending.word []).endsAt (region :: outer) [.word text] := by
  intro c rest follows
  obtain ⟨first, later, spelled, starts, goesOn⟩ := exists_of_isName sound
  have whole : textOf (later.reverse ++ [first]) = text := by simp [textOf, ← spelled]
  have ends : (Pending.word (later.reverse ++ [first])).endsAt c = true := follows
  rw [spelled, List.cons_append, Reading.scan]
  simp only [Reading.step, start_identifier named starts, Reading.emit_nil]
  rw [scan_word goesOn, Reading.scan_ended ends, Pending.ended, whole]

/-- A name in code is read as a word. -/
theorem reads_word {text : String} (sound : isName text = true) :
    Reads (.code :: outer) text (Pending.word []).endsAt (.code :: outer) [.word text] :=
  reads_name (.inl rfl) sound

/-! ## Attributes -/

/-- The value of an attribute is read up to its closing quote. -/
theorem scan_attribute (outer : List Region) {value : List Char} (quoteless : '"' ∉ value)
    (read rest : List Char) :
    Reading.scan ⟨outer, .attribute read⟩ (value ++ '"' :: rest) =
      Reading.emit [.attribute (String.ofList (decodeEntities (read.reverse ++ value)))]
        (Reading.scan ⟨outer, .idle⟩ rest) := by
  induction value generalizing read with
  | nil => simp [Reading.scan, Reading.step]
  | cons c later ih =>
    obtain ⟨other, below⟩ := List.ne_and_not_mem_of_not_mem_cons quoteless
    rw [List.cons_append, Reading.scan]
    simp only [Reading.step, Ne.symm other, ↓reduceIte, Reading.emit_nil]
    rw [ih below]
    simp

/-- An attribute with a literal value is read as its name and the text of its value. -/
theorem reads_literalAttribute {name : String} (sound : isName name = true) (value : String) :
    Reads (.tag :: outer) (literalAttribute name value) Pending.idle.endsAt (.tag :: outer)
      [.word name, .mark '=', .attribute value] := by
  have quoted : Reads (.tag :: outer) ("=\"" ++ attributeText value ++ "\"") Pending.idle.endsAt
      (.tag :: outer) [.mark '=', .attribute value] := by
    intro c rest _
    have held := scan_attribute (.tag :: outer) (quote_notMem_attributeText value) [] (c :: rest)
    rw [List.reverse_nil, List.nil_append, decodeEntities_attributeText,
      String.ofList_toList] at held
    have spelled : ("=\"" ++ attributeText value ++ "\"").toList ++ c :: rest =
        '=' :: '"' :: ((attributeText value).toList ++ '"' :: c :: rest) := by
      simp
    have opened (more : List Char) : Reading.scan ⟨.tag :: outer, .idle⟩ ('=' :: '"' :: more) =
        Reading.emit [.mark '='] (Reading.scan ⟨.tag :: outer, .attribute []⟩ more) := rfl
    rw [spelled, opened, held, Reading.emit_emit]
    rfl
  have whole := (reads_name (.inr rfl) sound).before quoted (by simp; rfl)
  simpa [literalAttribute, String.append_assoc] using whole

/-! ## Text children -/

/-- The lexemes of a text child. -/
def childTokens (text : String) : List Lexeme :=
  if text.toList.any isMarkup || Text.trim text.toList != text.toList then
    [.mark '\x7b', .literal text, .mark '\x7d']
  else if text.isEmpty then [] else [.child text]

/-- A text between tags goes on up to the next tag. -/
theorem scan_child {later : List Char} (clear : ∀ c ∈ later, isMarkup c = false)
    (read rest : List Char) :
    Reading.scan ⟨outer, .child read⟩ (later ++ rest) =
      Reading.scan ⟨outer, .child (later.reverse ++ read)⟩ rest := by
  induction later generalizing read with
  | nil => rfl
  | cons c later ih =>
    obtain ⟨here, below⟩ := List.forall_mem_cons.mp clear
    have plain : ¬(c = '<' ∨ c = '\x7b' ∨ c = '\n') := by
      rintro (rfl | rfl | rfl) <;> exact absurd here (by decide)
    rw [List.cons_append, Reading.scan]
    simp only [Reading.step, plain, ↓reduceIte, Reading.emit_nil]
    rw [ih below]
    simp

/-- A text in braces is read as a string literal inside braces. -/
theorem reads_bracedLiteral (text : String) :
    Reads (.element :: outer) ("\x7b" ++ stringLiteral text ++ "\x7d") Pending.idle.endsAt
      (.element :: outer) [.mark '\x7b', .literal text, .mark '\x7d'] := by
  have opened := reads_of_isRead
    (rfl : isRead [.element] "\x7b" .idle [.code, .element] [.mark '\x7b'] = true) outer
  have closed := reads_of_isRead
    (rfl : isRead [.code, .element] "\x7d" .idle [.element] [.mark '\x7d'] = true) outer
  exact (opened.append (reads_stringLiteral text)).append closed

/-- A text that nothing in markup would interpret is read as it is. -/
theorem reads_plainChild {text : String} (clear : ∀ c ∈ text.toList, isMarkup c = false) :
    Reads (.element :: outer) text (Pending.child []).endsAt (.element :: outer)
      (if text.isEmpty then [] else [.child text]) := by
  intro c rest follows
  cases spelled : text.toList with
  | nil =>
    obtain rfl := String.toList_eq_nil_iff.mp spelled
    rfl
  | cons first later =>
    have some : text.isEmpty = false := by
      rw [String.isEmpty_eq_false_iff]
      rintro rfl
      exact absurd spelled (by simp)
    rw [spelled] at clear
    obtain ⟨here, below⟩ := List.forall_mem_cons.mp clear
    have plain : first ≠ '\n' ∧ first ≠ '<' ∧ first ≠ '\x7b' := by
      refine ⟨?_, ?_, ?_⟩ <;> rintro rfl <;> exact absurd here (by decide)
    have whole : textOf (later.reverse ++ [first]) = text := by simp [textOf, ← spelled]
    have ends : (Pending.child (later.reverse ++ [first])).endsAt c = true := follows
    rw [List.cons_append, Reading.scan]
    simp only [Reading.step, Reading.start, plain, ↓reduceIte, Reading.emit_nil]
    rw [scan_child below, Reading.scan_ended ends, Pending.ended, whole, some]
    rfl

/-- A text child is read as its text. -/
theorem reads_textChild (text : String) :
    Reads (.element :: outer) (textChild text) (Pending.child []).endsAt (.element :: outer)
      (childTokens text) := by
  unfold textChild childTokens
  split
  · exact (reads_bracedLiteral text).mono fun _ _ => rfl
  · next plain =>
    simp only [Bool.or_eq_true, List.any_eq_true, not_or, not_exists, not_and,
      Bool.not_eq_true] at plain
    exact reads_plainChild plain.1

/-! ## Keys and members -/

/-- The lexeme of a key. -/
def keyToken (name : String) : Lexeme := if isIdentifier name then .word name else .literal name

/-- The key of an object is read as a word or as a string literal, and so as its text. -/
theorem reads_objectKey (name : String) :
    Reads (.code :: outer) (objectKey name) (Pending.word []).endsAt (.code :: outer)
      [keyToken name] := by
  unfold objectKey keyToken
  split
  · next sound => exact reads_word (isName_of_isIdentifier sound)
  · exact (reads_stringLiteral name).mono fun _ _ => rfl

/-- The lexemes of a member of an object. -/
def memberTokens (object name : String) : List Lexeme :=
  if isIdentifier name then [.word object, .mark '.', .word name]
  else [.word object, .mark '[', .literal name, .mark ']']

/-- A member of an object is read as the object and the name of the member. -/
theorem reads_member {object : String} (sound : isName object = true) (name : String) :
    Reads (.code :: outer) (member object name) (Pending.word []).endsAt (.code :: outer)
      (memberTokens object name) := by
  have held : Reads (.code :: outer) object (Pending.word []).endsAt (.code :: outer)
      [.word object] := reads_word sound
  unfold member memberTokens
  split
  · next named =>
    have dot := reads_of_isRead (rfl : isRead [.code] "." .idle [.code] [.mark '.'] = true) outer
    exact (held.before dot rfl).append (reads_word (isName_of_isIdentifier named))
  · have opened := reads_of_isRead (rfl : isRead [.code] "[" .idle [.code] [.mark '['] = true) outer
    have closed := reads_of_isRead (rfl : isRead [.code] "]" .idle [.code] [.mark ']'] = true) outer
    exact (((held.before opened rfl).append (reads_stringLiteral name)).append closed).mono
      fun _ _ => rfl

end Formwright.Code
