import Formwright.Text.Folding
import Formwright.Text.Letter

/-!
# Patterns

A pattern describes parts of a text. Where a pattern can match in several ways from one place, the
ways are ordered: a choice prefers its first alternative, a greedy repetition prefers to go on and a
reluctant one to stop. The match from a place is the first in this order after which everything that
follows in the pattern matches too.
-/
namespace Formwright

/-- A pattern. -/
inductive Pattern where
  /-- Matches nothing at all, everywhere. -/
  | empty
  /-- Matches one character that a predicate accepts. -/
  | one (accepts : Char → Bool)
  /-- Matches two patterns in a row. -/
  | sequence (first second : Pattern)
  /-- Matches one of two patterns, preferably the first. -/
  | choice (first second : Pattern)
  /-- Matches a pattern any number of times in a row, as often as possible if it is greedy and as
  seldom as possible if it is not. -/
  | repetition (greedy : Bool) (body : Pattern)
  /-- Matches a pattern and keeps what it matched. -/
  | capture (body : Pattern)
  /-- Matches nothing between a word character and something else, or the other way round. -/
  | wordEdge
  /-- Matches nothing at the start of the text. -/
  | textStart
  /-- Matches nothing at the start of a line. -/
  | lineStart
  /-- Matches nothing at the end of the text. -/
  | textEnd

/-- A place in a text. -/
structure Place where
  /-- The character before the place. -/
  before : Option Char
  /-- The text after the place. -/
  rest : List Char
  /-- The number of characters before the place. -/
  index : Nat

namespace Place

/-- The start of a text. -/
def start (text : List Char) : Place := ⟨none, text, 0⟩

/-- The place after the next character, of which the text after it is given. -/
def advance (place : Place) (c : Char) (rest : List Char) : Place :=
  ⟨some c, rest, place.index + 1⟩

/-- A place, of which the text after it is given, and the places after it, in order. -/
def onward : List Char → Place → List Place
  | [], place => [place]
  | c :: rest, place => place :: onward rest (place.advance c rest)

/-- The places of a text, in order. -/
def all (text : List Char) : List Place := onward text (start text)

/-- The text between a place and a later one. -/
def between (place later : Place) : List Char := place.rest.take (later.index - place.index)

/-- Whether a word starts or ends at a place. -/
def isWordEdge (place : Place) : Bool :=
  place.before.any Text.isWord != place.rest.head?.any Text.isWord

/-- Whether a line starts at a place. -/
def isLineStart (place : Place) : Bool := place.before.all (· == '\n')

end Place

/-- A place that a match has come to. -/
structure Point extends Place where
  /-- What was kept of the text before. -/
  captured : Option (List Char)

namespace Pattern

/-- How a match goes on from a place: where it ends, if it can be completed. -/
abbrev Continuation := Point → Option Point

/-- Repeats the matching of a body. A round that matches nothing ends the repetition, so there are
at most as many rounds as there are characters after the first place, which `rounds` holds. -/
def repeatBody (body : Point → Continuation → Option Point) (greedy : Bool) :
    (rounds : List Char) → Point → Continuation → Option Point
  | [], point, next => next point
  | _ :: rounds, point, next =>
    let again (_ : Unit) := body point fun later =>
      if later.index = point.index then none else repeatBody body greedy rounds later next
    if greedy then
      match again () with
      | some stop => some stop
      | none => next point
    else
      match next point with
      | some stop => some stop
      | none => again ()

/-- Where the match of a pattern from a place ends, given how the match goes on after it. -/
def run : Pattern → Point → Continuation → Option Point
  | .empty, point, next => next point
  | .one accepts, point, next =>
    match point.rest with
    | [] => none
    | c :: rest =>
      if accepts c then next ⟨point.advance c rest, point.captured⟩ else none
  | .sequence first second, point, next => first.run point fun middle => second.run middle next
  | .choice first second, point, next =>
    match first.run point next with
    | some stop => some stop
    | none => second.run point next
  | .repetition greedy body, point, next =>
    repeatBody body.run greedy point.rest point next
  | .capture body, point, next =>
    body.run point fun stop => next ⟨stop.toPlace, some (point.between stop.toPlace)⟩
  | .wordEdge, point, next => if point.isWordEdge then next point else none
  | .textStart, point, next => if point.before.isNone then next point else none
  | .lineStart, point, next => if point.isLineStart then next point else none
  | .textEnd, point, next => if point.rest.isEmpty then next point else none

/-- Where the match of a whole pattern from a place ends. -/
def matchAt (pattern : Pattern) (place : Place) : Option Point := pattern.run ⟨place, none⟩ some

/-! ## Combinations -/

instance : Append Pattern := ⟨.sequence⟩

/-- One of some patterns, the earlier ones preferred. -/
def anyOf : List Pattern → Pattern
  | [] => .one fun _ => false
  | [pattern] => pattern
  | pattern :: later => .choice pattern (anyOf later)

/-- Some patterns in a row. -/
def all : List Pattern → Pattern
  | [] => .empty
  | [pattern] => pattern
  | pattern :: later => .sequence pattern (all later)

/-- A pattern or nothing. -/
def maybe (pattern : Pattern) : Pattern := .choice pattern .empty

/-- A pattern any number of times. -/
def many (pattern : Pattern) : Pattern := .repetition true pattern

/-- A pattern any number of times, as seldom as possible. -/
def reluctantMany (pattern : Pattern) : Pattern := .repetition false pattern

/-- A pattern at least once. -/
def oneOrMore (pattern : Pattern) : Pattern := .sequence pattern (many pattern)

/-- A pattern at most a number of times, as often as possible. -/
def upTo : Nat → Pattern → Pattern
  | 0, _ => .empty
  | most + 1, pattern => .choice (.sequence pattern (upTo most pattern)) .empty

/-- A pattern at most a number of times, as seldom as possible. -/
def reluctantUpTo : Nat → Pattern → Pattern
  | 0, _ => .empty
  | most + 1, pattern => .choice .empty (.sequence pattern (reluctantUpTo most pattern))

/-- A pattern exactly a number of times. -/
def times (count : Nat) (pattern : Pattern) : Pattern := all (List.replicate count pattern)

/-- A pattern between two numbers of times, as often as possible. -/
def ranging (least most : Nat) (pattern : Pattern) : Pattern :=
  .sequence (times least pattern) (upTo (most - least) pattern)

/-- A pattern between two numbers of times, as seldom as possible. -/
def reluctantRanging (least most : Nat) (pattern : Pattern) : Pattern :=
  .sequence (times least pattern) (reluctantUpTo (most - least) pattern)

/-- A character as it is. -/
def exactly (c : Char) : Pattern := .one (· == c)

/-- A character in either case. -/
def letter (c : Char) : Pattern :=
  let folded := Text.foldCase c
  .one fun other => Text.foldCase other == folded

/-- A text in any mixture of cases. -/
def text (wanted : String) : Pattern := all (wanted.toList.map letter)

/-- A text as it is. -/
def exactText (wanted : String) : Pattern := all (wanted.toList.map exactly)

instance : Coe String Pattern := ⟨text⟩

/-- One of the characters of a text, in either case. -/
def oneOf (wanted : String) : Pattern :=
  let folded := wanted.toList.map Text.foldCase
  .one fun other => Text.foldCase other ∈ folded

/-- One character that is not in a text. -/
def noneOf (unwanted : String) : Pattern := .one fun other => other ∉ unwanted.toList

/-- White space, if any. -/
def gap : Pattern := many (.one Text.isBlank)

/-- White space. -/
def space : Pattern := oneOrMore (.one Text.isBlank)

/-- The rest of a word, if any. -/
def wordRest : Pattern := many (.one Text.isWord)

/-- The words that start with a text, in any mixture of cases. -/
def stem (wanted : String) : Pattern := text wanted ++ wordRest

/-- A text with or without an `s` after it. -/
def plural (wanted : String) : Pattern := text wanted ++ maybe "s"

/-- A pattern that starts and ends where words start or end. -/
def standing (pattern : Pattern) : Pattern := wordEdge ++ pattern ++ wordEdge

/-- Whether a character is a letter, or the case folding of it is. -/
def isCaselessLetter (c : Char) : Bool := Text.isLetter c || Text.isLetter (Text.foldCase c)

end Pattern
end Formwright
