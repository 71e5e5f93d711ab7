import Formwright.Pattern.Basic

/-!
# Scans

A scan goes through a text from its end to its start and tells at which places a pattern matches. At
each place it looks at every part of the pattern once or a few times, so the time that it takes
grows with the length of the text and not with the number of ways in which the pattern may be tried.
-/
namespace Formwright.Pattern

/-- What a scan keeps of a pattern at a place for the place before it: for each single character of
the pattern, whether what follows the character matches from here. -/
def Outlook : Pattern → Type
  | .one _ => Bool
  | .sequence first second | .choice first second => first.Outlook × second.Outlook
  | .repetition _ body | .capture body => body.Outlook
  | .empty | .wordEdge | .textStart | .lineStart | .textEnd => Unit

/-- The outlook from the end of a text, where nothing follows. -/
def blank : (pattern : Pattern) → pattern.Outlook
  | .one _ => false
  | .sequence first second | .choice first second => (first.blank, second.blank)
  | .repetition _ body | .capture body => body.blank
  | .empty | .wordEdge | .textStart | .lineStart | .textEnd => ()

/-- Whether a pattern and what follows it match from a place, and the outlook from that place, given
the outlook from the next place and whether what follows matches from this place. A repetition goes
on here only with a round that leads to a later place. -/
def look : (pattern : Pattern) → pattern.Outlook → Place → Bool → Bool × pattern.Outlook
  | .one accepts, later, place, follows => (later && place.rest.head?.any accepts, follows)
  | .sequence first second, (before, after), place, follows =>
    let (middle, after) := second.look after place follows
    let (found, before) := first.look before place middle
    (found, before, after)
  | .choice first second, (left, right), place, follows =>
    let (found, left) := first.look left place follows
    let (foundOther, right) := second.look right place follows
    (found || foundOther, left, right)
  | .repetition _ body, outlook, place, follows =>
    let found := follows || (body.look outlook place false).1
    (found, (body.look outlook place found).2)
  | .capture body, outlook, place, follows => body.look outlook place follows
  | .empty, outlook, _, follows => (follows, outlook)
  | .wordEdge, outlook, place, follows => (place.isWordEdge && follows, outlook)
  | .textStart, outlook, place, follows => (place.before.isNone && follows, outlook)
  | .lineStart, outlook, place, follows => (place.isLineStart && follows, outlook)
  | .textEnd, outlook, place, follows => (place.rest.isEmpty && follows, outlook)

/-- The places among some last places of a text where a pattern matches, and the outlook from the
first of them. -/
def scan (pattern : Pattern) (places : List Place) : List Place × pattern.Outlook :=
  places.foldr
    (fun place (found, outlook) =>
      let (matched, outlook) := pattern.look outlook place true
      (if matched then place :: found else found, outlook))
    ([], pattern.blank)

/-- The places of a text where a pattern matches, in order. -/
def places (pattern : Pattern) (text : List Char) : List Place :=
  (pattern.scan (Place.all text)).1

end Formwright.Pattern
