import Formwright.Pattern.Search

/-!
# Qualifiers

A prompt may say of all fields at once that they are required, or limit the length of what is
entered.
-/
namespace Formwright
open Pattern

/-- A length in characters between 1 and `digits` digits long, with the unit after it. -/
def characterCount (digits : Nat) : Pattern :=
  capture (ranging 1 digits (.one Text.isDecimal)) ++ gap
    ++ anyOf [stem "char", "letters", stem "znak"]

/-- The words "length" and "of" that may follow the name of a limit. -/
def limitFiller : Pattern :=
  maybe (exactly '.') ++ gap ++ maybe ("length" ++ gap) ++ maybe ("of" ++ gap)

/-- A mention that values are required. -/
def requiredMention : Pattern :=
  standing (anyOf [
    "required", "mandatory", stem "wymagan", stem "obowiązkow", stem "obowiazkow"])

/-- A mention of the least length of values. -/
def minLengthMention : Pattern :=
  anyOf [
    wordEdge ++ "min" ++ maybe "imum" ++ limitFiller, wordEdge ++ "at least" ++ space,
    wordEdge ++ "co najmniej" ++ space, wordEdge ++ "minimum" ++ space]
  ++ characterCount 4

/-- A mention of the greatest length of values. -/
def maxLengthMention : Pattern :=
  anyOf [
    wordEdge ++ "max" ++ maybe "imum" ++ limitFiller, wordEdge ++ "at most" ++ space,
    wordEdge ++ "up to" ++ space, wordEdge ++ "maksymalnie" ++ space,
    wordEdge ++ "najwyżej" ++ space, wordEdge ++ "najwyzej" ++ space]
  ++ characterCount 5

/-- The number that a mention of a length gives, if it is written in ASCII digits. -/
def lengthIn (mention : Pattern) (text : List Char) : Option UInt32 :=
  match mention.capturedIn text with
  | none => none
  | some digits =>
    if digits.all Char.isDigit then some (UInt32.ofNat (Nat.ofDigitChars 10 digits 0)) else none

/-- What a text says about all fields at once. -/
structure Qualifiers where
  required : Bool
  minLength : Option UInt32
  maxLength : Option UInt32
deriving DecidableEq, Repr

namespace Qualifiers

/-- The qualifiers of a text. -/
def ofText (text : List Char) : Qualifiers where
  required := requiredMention.matchesIn text
  minLength := lengthIn minLengthMention text
  maxLength := lengthIn maxLengthMention text

/-- The names of the qualifiers that are present. -/
def names (qualifiers : Qualifiers) : List String :=
  (if qualifiers.required then ["required"] else [])
    ++ (qualifiers.minLength.map fun least => "minLength:" ++ toString least.toNat).toList
    ++ (qualifiers.maxLength.map fun most => "maxLength:" ++ toString most.toNat).toList

end Qualifiers
end Formwright
