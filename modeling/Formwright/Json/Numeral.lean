import Formwright.Json.Scan

/-!
# Scanning numbers

A number has a whole part, and may have a fraction and an exponent. Its digits are gathered in a
significand as long as that fits in 64 bits; further digits of the whole part count as zeros and
further digits of the fraction are dropped.
-/
namespace Formwright.Json

/-- The largest significand. -/
def maxSignificand : Nat := 0xFFFFFFFFFFFFFFFF

/-- The largest magnitude of a negative whole number. -/
def maxNegative : Nat := 0x8000000000000000

/-- The largest exponent that a number may be written with, in magnitude. -/
def maxExponent : Nat := 0x7FFFFFFF

/-- The leading decimal digits of a text and what follows them. -/
def spanDigits : List Char → List Nat × List Char
  | [] => ([], [])
  | c :: rest =>
    if c.isDigit then
      let (digits, after) := spanDigits rest
      ((c.toNat - '0'.toNat) :: digits, after)
    else ([], c :: rest)

/-- A significand with as many digits appended as fit, and the number of those that do not. -/
def gather : Nat → List Nat → Nat × Nat
  | significand, [] => (significand, 0)
  | significand, digit :: digits =>
    if maxSignificand < significand * 10 + digit then (significand, digits.length + 1)
    else gather (significand * 10 + digit) digits

/-- A scanned number before its rounding. -/
structure Numeral where
  negative : Bool
  significand : Nat
  exponent : Int
  /-- Whether the number has neither fraction nor exponent nor more digits than fit. -/
  isWhole : Bool

/-- The value of a number, unless it is out of range. A whole number that fits in 64 bits stays
whole, and zero with a sign does not. -/
def Numeral.value? (numeral : Numeral) : Option Json :=
  if numeral.isWhole && !numeral.negative then some (.integer numeral.significand)
  else if numeral.isWhole && 0 < numeral.significand && numeral.significand ≤ maxNegative then
    some (.integer (-numeral.significand))
  else (Binary64.ofDecimal? numeral.negative numeral.significand numeral.exponent).map .float

/-- Scans the digits of an exponent: the exponent, or `none` once it is too large, and the text
after the digits or after the digit that made it so. -/
def exponentDigits : Nat → List Char → Option Nat × List Char
  | exponent, [] => (some exponent, [])
  | exponent, c :: rest =>
    if c.isDigit then
      let next := exponent * 10 + (c.toNat - '0'.toNat)
      if maxExponent < next then (none, rest) else exponentDigits next rest
    else (some exponent, c :: rest)

/-- Scans an exponent after its letter and completes the number. -/
def exponentPart (numeral : Numeral) (text : List Char) : Except Fault (Numeral × List Char) :=
  let negative := text.head? == some '-'
  let text := if negative || text.head? == some '+' then text.drop 1 else text
  match text with
  | [] => Fault.here .endInValue []
  | c :: rest =>
    if !c.isDigit then Fault.beyond .invalidNumber (c :: rest) 1
    else match exponentDigits 0 (c :: rest) with
      | (some exponent, rest) =>
        let shift : Int := if negative then -exponent else exponent
        .ok ({ numeral with exponent := numeral.exponent + shift, isWhole := false }, rest)
      | (none, rest) =>
        if numeral.significand ≠ 0 ∧ !negative then Fault.here .numberOutOfRange rest
        else .ok ({ numeral with significand := 0, exponent := 0, isWhole := false },
          rest.dropWhile Char.isDigit)

/-- Scans an exponent where there is one. -/
def exponentOrEnd (numeral : Numeral) : List Char → Except Fault (Numeral × List Char)
  | 'e' :: rest => exponentPart numeral rest
  | 'E' :: rest => exponentPart numeral rest
  | text => .ok (numeral, text)

/-- Scans a fraction, where there is one, and what follows it. -/
def fractionOrEnd (numeral : Numeral) : List Char → Except Fault (Numeral × List Char)
  | '.' :: rest =>
    let (digits, after) := spanDigits rest
    if digits.isEmpty then
      if after.isEmpty then Fault.here .endInValue [] else Fault.atNext .invalidNumber after
    else
      let (significand, dropped) := gather numeral.significand digits
      let kept : Int := digits.length - dropped
      exponentOrEnd
        { numeral with significand, exponent := numeral.exponent - kept, isWhole := false } after
  | text => exponentOrEnd numeral text

/-- Scans a number after its sign. -/
def unsigned (negative : Bool) : List Char → Except Fault (Numeral × List Char)
  | [] => Fault.here .endInValue []
  | c :: rest =>
    if c = '0' then
      match rest with
      | next :: _ =>
        if next.isDigit then Fault.atNext .invalidNumber rest
        else fractionOrEnd ⟨negative, 0, 0, true⟩ rest
      | [] => .ok (⟨negative, 0, 0, true⟩, [])
    else if c.isDigit then
      let (digits, after) := spanDigits (c :: rest)
      let (significand, dropped) := gather 0 digits
      fractionOrEnd ⟨negative, significand, dropped, dropped == 0⟩ after
    else Fault.beyond .invalidNumber (c :: rest) 1

/-- Scans a number. -/
def number (negative : Bool) (text : List Char) : Except Fault (Json × List Char) := do
  let (numeral, rest) ← unsigned negative text
  match numeral.value? with
  | some value => .ok (value, rest)
  | none => Fault.here .numberOutOfRange rest

end Formwright.Json
