import Formwright.Code.Generator
import Formwright.Proofs.Code.Escape
import Formwright.Proofs.Json.NumberText
import Mathlib.Tactic.SplitIfs

/-!
# Lexemes of generated code

Code with markup in it is read character by character, from the left to the right. Which lexemes a
character can start depends on the region that it stands in: statements and expressions, the
children of an element, the attributes of a tag, or the end of a closing tag. Regions stand inside
one another, and a character only ever looks at the innermost of them.
-/
namespace Formwright.Code

/-! ## Reading -/

/-- What code with markup is made of. -/
inductive Lexeme where
  /-- A character that stands for itself, such as a bracket or a part of an operator. -/
  | mark (c : Char)
  /-- A name or a keyword. -/
  | word (text : String)
  /-- A number without a sign. -/
  | number (text : String)
  /-- A string literal, as the text that it stands for. -/
  | literal (text : String)
  /-- The start of an opening tag. -/
  | opening (name : String)
  /-- The start of a closing tag. -/
  | closing (name : String)
  /-- The literal value of an attribute, as the text that it stands for. -/
  | attribute (text : String)
  /-- Text between tags. -/
  | child (text : String)
deriving DecidableEq, Repr

/-- What a character can stand in. -/
inductive Region where
  /-- Statements and expressions. -/
  | code
  /-- What an element holds. -/
  | element
  /-- An opening tag. -/
  | tag
  /-- A closing tag. -/
  | endTag
deriving DecidableEq, Repr

/-- A lexeme that is not read to its end, with the characters read of it, the last one first. -/
inductive Pending where
  /-- Nothing is read of the line but blanks. -/
  | fresh
  /-- No lexeme is begun. -/
  | idle
  | word (read : List Char)
  | number (read : List Char)
  | literal (read : List Char)
  /-- A string literal after a reverse solidus. -/
  | escape (read : List Char)
  /-- A string literal before the last digits of an escape, with how many are left after the next
  and the value of those before. -/
  | digits (read : List Char) (left value : Nat)
  | attribute (read : List Char)
  | child (read : List Char)
  /-- An angle bracket that may start a tag. -/
  | angle
  | opening (read : List Char)
  | closing (read : List Char)
  /-- A solidus that may end a tag. -/
  | slash
deriving DecidableEq, Repr

/-- How far code is read: the regions around the next character, the innermost first, and the lexeme
that is begun. -/
structure Reading where
  regions : List Region
  pending : Pending
deriving DecidableEq, Repr

/-- Characters that were read, the last one first, as a text. -/
def textOf (read : List Char) : String := String.ofList read.reverse

namespace Reading

/-- Puts lexemes in front of what was made of a text. -/
def emit (tokens : List Lexeme) (made : Reading × List Lexeme) : Reading × List Lexeme :=
  (made.1, tokens ++ made.2)

/-- Reads a character where no lexeme is begun. After the end of the outermost region nothing is
read any more. -/
def start : List Region → Char → Reading × List Lexeme
  | [], _ => (⟨[], .idle⟩, [])
  | .code :: outer, c =>
    if c = '\n' then (⟨.code :: outer, .fresh⟩, [])
    else if Json.isGap c then (⟨.code :: outer, .idle⟩, [])
    else if c = '"' then (⟨.code :: outer, .literal []⟩, [])
    else if c = '<' then (⟨.code :: outer, .angle⟩, [])
    else if c = '\x7b' then (⟨.code :: .code :: outer, .idle⟩, [.mark c])
    else if c = '\x7d' then (⟨outer, .idle⟩, [.mark c])
    else if c.isDigit then (⟨.code :: outer, .number [c]⟩, [])
    else if startsIdentifier c then (⟨.code :: outer, .word [c]⟩, [])
    else (⟨.code :: outer, .idle⟩, [.mark c])
  | .element :: outer, c =>
    if c = '\n' then (⟨.element :: outer, .fresh⟩, [])
    else if c = '<' then (⟨.element :: outer, .angle⟩, [])
    else if c = '\x7b' then (⟨.code :: .element :: outer, .idle⟩, [.mark c])
    else (⟨.element :: outer, .child [c]⟩, [])
  | .tag :: outer, c =>
    if c = '\n' then (⟨.tag :: outer, .fresh⟩, [])
    else if Json.isGap c then (⟨.tag :: outer, .idle⟩, [])
    else if c = '"' then (⟨.tag :: outer, .attribute []⟩, [])
    else if c = '\x7b' then (⟨.code :: .tag :: outer, .idle⟩, [.mark c])
    else if c = '/' then (⟨.tag :: outer, .slash⟩, [])
    else if c = '>' then (⟨.element :: outer, .idle⟩, [.mark c])
    else if startsIdentifier c then (⟨.tag :: outer, .word [c]⟩, [])
    else (⟨.tag :: outer, .idle⟩, [.mark c])
  | .endTag :: outer, c =>
    if c = '>' then (⟨outer, .idle⟩, [.mark c])
    else (⟨.endTag :: outer, .idle⟩, [.mark c])

/-- Reads a character. -/
def step (reading : Reading) (c : Char) : Reading × List Lexeme :=
  let regions := reading.regions
  match reading.pending with
  | .fresh => if Json.isGap c then (⟨regions, .fresh⟩, []) else start regions c
  | .idle => start regions c
  | .word read =>
    if continuesIdentifier c then (⟨regions, .word (c :: read)⟩, [])
    -- Right after a name an angle bracket opens a list of types.
    else if c = '<' then (⟨regions, .idle⟩, [.word (textOf read), .mark c])
    else emit [.word (textOf read)] (start regions c)
  | .number read =>
    if Json.isNumberChar c then (⟨regions, .number (c :: read)⟩, [])
    else emit [.number (textOf read)] (start regions c)
  | .literal read =>
    if c = '"' then (⟨regions, .idle⟩, [.literal (textOf read)])
    else if c = '\\' then (⟨regions, .escape read⟩, [])
    else (⟨regions, .literal (c :: read)⟩, [])
  | .escape read =>
    if c = 'u' then (⟨regions, .digits read 3 0⟩, [])
    else (⟨regions, .literal ((Json.plainEscape? c).getD c :: read)⟩, [])
  | .digits read 0 value =>
    (⟨regions, .literal (Char.ofNat (value * 16 + (Json.hexValue c).getD 0) :: read)⟩, [])
  | .digits read (left + 1) value =>
    (⟨regions, .digits read left (value * 16 + (Json.hexValue c).getD 0)⟩, [])
  | .attribute read =>
    if c = '"' then
      (⟨regions, .idle⟩, [.attribute (String.ofList (decodeEntities read.reverse))])
    else (⟨regions, .attribute (c :: read)⟩, [])
  | .child read =>
    if c = '<' ∨ c = '\x7b' ∨ c = '\n' then emit [.child (textOf read)] (start regions c)
    else (⟨regions, .child (c :: read)⟩, [])
  | .angle =>
    if c = '/' then (⟨regions, .closing []⟩, [])
    else if startsIdentifier c then (⟨regions, .opening [c]⟩, [])
    else emit [.mark '<'] (start regions c)
  | .opening read =>
    if continuesIdentifier c then (⟨regions, .opening (c :: read)⟩, [])
    else emit [.opening (textOf read)] (start (.tag :: regions) c)
  | .closing read =>
    if continuesIdentifier c then (⟨regions, .closing (c :: read)⟩, [])
    else emit [.closing (textOf read)] (start (.endTag :: regions.tail) c)
  | .slash =>
    if c = '>' then (⟨regions.tail, .idle⟩, [.mark '/', .mark c])
    else emit [.mark '/'] (start regions c)

/-- Reads some characters. -/
def scan : Reading → List Char → Reading × List Lexeme
  | reading, [] => (reading, [])
  | reading, c :: rest => emit (reading.step c).2 (scan (reading.step c).1 rest)

/-- Where the reading of a source starts and ends. -/
def outermost : Reading := ⟨[.code], .fresh⟩

end Reading

/-- The lexemes of a source: none if some lexeme or some region is not read to its end, or ends
where there is none. -/
def tokenize? (source : String) : Option (List Lexeme) :=
  let made := Reading.outermost.scan source.toList
  if made.1 = Reading.outermost then some made.2 else none

namespace Reading

/-! ## Reading one text after another -/

/-- Lexemes are put in front one list after the other. -/
@[simp]
theorem emit_emit (first later : List Lexeme) (made : Reading × List Lexeme) :
    emit first (emit later made) = emit (first ++ later) made := by
  simp [emit]

/-- Putting no lexemes in front changes nothing. -/
@[simp]
theorem emit_nil (made : Reading × List Lexeme) : emit [] made = made := rfl

/-- Characters are read one list after the other. -/
theorem scan_append (reading : Reading) (first later : List Char) :
    reading.scan (first ++ later) =
      emit (reading.scan first).2 ((reading.scan first).1.scan later) := by
  induction first generalizing reading with
  | nil => rfl
  | cons c rest ih => simp only [List.cons_append, scan, ih, emit_emit]; rfl

/-! ## What stands around -/

/-- A reading with more regions around it. -/
def within (reading : Reading) (outer : List Region) : Reading :=
  ⟨reading.regions ++ outer, reading.pending⟩

/-- Where no lexeme is begun, what a character becomes in a region does not depend on the regions
around it. -/
theorem start_append {regions : List Region} (inside : regions ≠ []) (outer : List Region)
    (c : Char) : start (regions ++ outer) c =
      ((start regions c).1.within outer, (start regions c).2) := by
  obtain ⟨region, around, rfl⟩ := List.exists_cons_of_ne_nil inside
  cases region <;> simp only [List.cons_append, start] <;> split_ifs <;> rfl

/-- What a character becomes in a region does not depend on the regions around it. -/
theorem step_within {reading : Reading} (inside : reading.regions ≠ []) (outer : List Region)
    (c : Char) :
    (reading.within outer).step c = ((reading.step c).1.within outer, (reading.step c).2) := by
  obtain ⟨regions, pending⟩ := reading
  have started := start_append inside outer c
  have tagged := start_append (List.cons_ne_nil .tag regions) outer c
  have ended := start_append (List.cons_ne_nil .endTag regions.tail) outer c
  have below : (regions ++ outer).tail = regions.tail ++ outer := List.tail_append_of_ne_nil inside
  simp only [List.cons_append] at tagged ended
  unfold step
  cases pending with
  | digits read left value => cases left <;> rfl
  | _ => simp only [within, started, tagged, ended, below] <;> split_ifs <;> rfl

/-- Whether every character stands in some region. -/
def staysInside : Reading → List Char → Bool
  | _, [] => true
  | reading, c :: rest => !reading.regions.isEmpty && staysInside (reading.step c).1 rest

/-- What characters become in some regions does not depend on the regions around them. -/
theorem scan_within {reading : Reading} {text : List Char}
    (inside : staysInside reading text = true) (outer : List Region) :
    (reading.within outer).scan text =
      ((reading.scan text).1.within outer, (reading.scan text).2) := by
  induction text generalizing reading with
  | nil => rfl
  | cons c rest ih =>
    rw [staysInside, Bool.and_eq_true] at inside
    have here : reading.regions ≠ [] := by simpa using inside.1
    rw [scan, step_within here, ih inside.2]
    rfl

end Reading

/-! ## Lexemes that the next character ends -/

namespace Pending

/-- Whether a character ends what is begun, and is not a part of it. -/
def endsAt : Pending → Char → Bool
  | .idle, _ => true
  | .word _, c => !continuesIdentifier c && c != '<'
  | .number _, c => !Json.isNumberChar c
  | .child _, c => c == '<' || c == '\x7b' || c == '\n'
  | _, _ => false

/-- The lexeme that is begun, where a character can end it. -/
def ended : Pending → List Lexeme
  | .word read => [.word (textOf read)]
  | .number read => [.number (textOf read)]
  | .child read => [.child (textOf read)]
  | _ => []

end Pending

namespace Reading

/-- A character that ends the lexeme that is begun is read as if none were. -/
theorem scan_ended {pending : Pending} {c : Char} (ends : pending.endsAt c = true)
    (regions : List Region) (rest : List Char) :
    scan ⟨regions, pending⟩ (c :: rest) =
      emit pending.ended (scan ⟨regions, .idle⟩ (c :: rest)) := by
  have stepped : step ⟨regions, pending⟩ c = emit pending.ended (step ⟨regions, .idle⟩ c) := by
    cases pending <;> simp_all [Pending.endsAt, Pending.ended, step, or_assoc]
  rw [scan, stepped, scan, emit_emit]
  rfl

end Reading

end Formwright.Code
