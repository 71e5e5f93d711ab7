import Formwright.Pattern.Scan

/-!
# Searching texts

A search finds the first match of a pattern in a text. A text is cut at all matches from left to
right, which do not overlap; a match of nothing cuts nothing.
-/
namespace Formwright.Pattern

/-- A match in a text. -/
structure Match where
  /-- The text before the match. -/
  before : List Char
  /-- The text that is matched. -/
  matched : List Char
  /-- What the pattern kept. -/
  captured : Option (List Char)

/-- The first match in a text. -/
def search (pattern : Pattern) (text : List Char) : Option Match := do
  let place ← (pattern.places text).head?
  let stop ← pattern.matchAt place
  some ⟨text.take place.index, place.between stop.toPlace, stop.captured⟩

/-- Whether a pattern matches anywhere in a text. -/
def matchesIn (pattern : Pattern) (text : List Char) : Bool := !(pattern.places text).isEmpty

/-- What the first match in a text kept. -/
def capturedIn (pattern : Pattern) (text : List Char) : Option (List Char) :=
  (pattern.search text).bind (·.captured)

/-- A text cut at the matches of a pattern. -/
structure Cut where
  /-- Each match, after the text between the match before it and this one. -/
  found : List (List Char × List Char)
  /-- The text after the last match. -/
  last : List Char

/-- The text from a place on, cut at the matches of a pattern from some places; those before the
place do not count. -/
def cutFrom (pattern : Pattern) : List Place → Place → Cut
  | [], start => ⟨[], start.rest⟩
  | place :: later, start =>
    if place.index < start.index then cutFrom pattern later start
    else match pattern.matchAt place with
      | none => cutFrom pattern later start
      | some stop =>
        if stop.index = place.index then cutFrom pattern later start
        else
          let onward := cutFrom pattern later stop.toPlace
          ⟨(start.between place, place.between stop.toPlace) :: onward.found, onward.last⟩

/-- A text cut at the matches of a pattern. -/
def cut (pattern : Pattern) (text : List Char) : Cut :=
  cutFrom pattern (pattern.places text) (.start text)

/-- The pieces of a text between the matches of a pattern. -/
def split (pattern : Pattern) (text : List Char) : List (List Char) :=
  let pieces := pattern.cut text
  pieces.found.map Prod.fst ++ [pieces.last]

/-- A text with a replacement for every match of a pattern. -/
def replaceAll (pattern : Pattern) (replacement text : List Char) : List Char :=
  let pieces := pattern.cut text
  pieces.found.flatMap (fun piece => piece.1 ++ replacement) ++ pieces.last

end Formwright.Pattern
