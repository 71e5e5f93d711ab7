/-!
# Finite binary floating-point numbers of 64 bits

A number is a sign, a mantissa below `2 ^ 53` and a scale: its magnitude is
`mantissa * 2 ^ (scale - 1074)`. The scale is zero or the mantissa has its top bit set, so every
magnitude is written in one way. Arithmetic is exact on natural numbers and rounded once at the
end, to the nearest number and to the even mantissa on a tie.
-/
namespace Formwright

/-- A finite binary floating-point number of 64 bits. -/
structure Binary64 where
  /-- Whether the sign is minus; zero has both signs. -/
  negative : Bool
  /-- The significant bits. -/
  mantissa : Nat
  /-- The power of two, counted from the smallest one. -/
  scale : Nat
deriving DecidableEq, Repr

namespace Binary64

/-- A power of two. -/
def twoTo (exponent : Nat) : Nat := Nat.pow 2 exponent

/-- A power of ten. -/
def tenTo (exponent : Nat) : Nat := Nat.pow 10 exponent

/-- The magnitude of the smallest positive number is `1 / 2 ^ smallest`. -/
def smallest : Nat := 1074

/-- The largest scale. -/
def maxScale : Nat := 2045

/-- The quotient of two natural numbers, rounded to the nearest and to even on a tie. -/
def roundQuotient (numerator denominator : Nat) : Nat :=
  let quotient := numerator / denominator
  let twice := 2 * (numerator % denominator)
  if twice < denominator then quotient
  else if denominator < twice then quotient + 1
  else quotient + quotient % 2

/-- The non-negative number nearest to a quotient of natural numbers, unless it is too large. -/
def ofQuotient? (numerator denominator : Nat) : Option Binary64 :=
  let units := numerator * twoTo smallest
  let scale := (units / denominator).log2 - 52
  let mantissa := roundQuotient units (denominator * twoTo scale)
  let carries := mantissa == twoTo 53
  let scale := if carries then scale + 1 else scale
  let mantissa := if carries then twoTo 52 else mantissa
  if maxScale < scale then none else some ⟨false, mantissa, scale⟩

/-- Whether the number is zero, of either sign. -/
def isZero (value : Binary64) : Bool := value.mantissa == 0

/-- Zero with the sign plus. -/
def zero : Binary64 := ⟨false, 0, 0⟩

/-- The same magnitude with the given sign. -/
def withSign (value : Binary64) (negative : Bool) : Binary64 := { value with negative }

/-- The product of two magnitudes, unless it is too large. -/
def mul? (left right : Binary64) : Option Binary64 :=
  ofQuotient? (left.mantissa * right.mantissa * twoTo (left.scale + right.scale))
    (twoTo (2 * smallest))

/-- The quotient of two magnitudes, unless it is too large. -/
def div? (left right : Binary64) : Option Binary64 :=
  ofQuotient? (left.mantissa * twoTo left.scale) (right.mantissa * twoTo right.scale)

/-- The largest power of ten that a decimal is scaled by in one step. -/
def maxStep : Nat := 308

/-- The power of ten nearest to `10 ^ exponent`, for exponents up to `maxStep`. -/
def powerOfTen (exponent : Nat) : Binary64 := (ofQuotient? (tenTo exponent) 1).getD zero

/-- A magnitude divided by a power of ten, in steps of at most `maxStep` decimal places; a
magnitude that has become zero stays zero. -/
def shrink : Nat → Binary64 → Nat → Option Binary64
  | 0, value, _ => some value
  | rounds + 1, value, places =>
    if places ≤ maxStep then value.div? (powerOfTen places)
    else if value.isZero then some value
    else do shrink rounds (← value.div? (powerOfTen maxStep)) (places - maxStep)

/-- The number written `significand * 10 ^ exponent`, with the significand rounded first and the
power of ten applied to the rounded significand; too large a result gives `none`. -/
def ofDecimal? (negative : Bool) (significand : Nat) (exponent : Int) : Option Binary64 := do
  let value ← ofQuotient? significand 1
  let scaled ←
    match exponent with
    | .ofNat places =>
      if places ≤ maxStep then value.mul? (powerOfTen places)
      else if value.isZero then some value
      else none
    | .negSucc places => shrink 4 value (places + 1)
  some (scaled.withSign negative)

/-! ## Shortest decimal digits -/

/-- A positive decimal `0.d₁d₂…dₙ * 10 ^ point` by its digits and the place of its point. -/
structure Digits where
  /-- The digits, of which the first and the last are not zero. -/
  digits : List Nat
  /-- The number of digits before the point; it may be negative or exceed their number. -/
  point : Int

/-- The decimal digits of a natural number, the most significant first. -/
def digitsOf (value : Nat) : List Nat := (Nat.toDigits 10 value).map fun c => c.toNat - '0'.toNat

/-- A number of quarter steps of a magnitude as a quotient `numerator / denominator`. -/
def quarters (value : Binary64) (count : Nat) : Nat × Nat :=
  (count * twoTo value.scale, twoTo (smallest + 2))

/-- One less than the number of tenfold steps that lift a numerator, already lifted `count` times,
to the denominator, negated; `fuel` bounds the further steps. -/
def pointBelowOne (denominator : Nat) : Nat → Nat → Nat → Int
  | 0, _, count => -count
  | fuel + 1, scaled, count =>
    if denominator ≤ scaled then 1 - count
    else pointBelowOne denominator fuel (scaled * 10) (count + 1)

/-- The point of the decimal form of a positive quotient: the least `point` such that the quotient
is below `10 ^ point`. -/
def pointOf (numerator denominator : Nat) : Int :=
  if denominator ≤ numerator then (digitsOf (numerator / denominator)).length
  else pointBelowOne denominator 400 numerator 0

/-- The decimal with `count` digits nearest to a positive magnitude among those that round to it,
if there is one. -/
def candidate? (value : Binary64) (point : Int) (count : Nat) : Option Nat :=
  let up := (count - point).toNat
  let down := (point - count).toNat
  let scaled (steps : Nat) : Nat := (value.quarters steps).1 * tenTo up
  let unit := (value.quarters 0).2 * tenTo down
  let exact := scaled (4 * value.mantissa)
  let below := if value.mantissa == twoTo 52 && 0 < value.scale then 1 else 2
  let lowest := scaled (4 * value.mantissa - below)
  let highest := scaled (4 * value.mantissa + 2)
  let closed := value.mantissa % 2 == 0
  let roundsBack (decimal : Nat) : Bool :=
    if closed then lowest ≤ decimal * unit && decimal * unit ≤ highest
    else lowest < decimal * unit && decimal * unit < highest
  let below := exact / unit
  let above := below + 1
  match roundsBack below, roundsBack above with
  | true, false => some below
  | false, true => some above
  | false, false => none
  | true, true =>
    let nearer := compare (2 * (exact - below * unit)) unit
    some (match nearer with
      | .lt => below
      | .gt => above
      | .eq => if below % 2 == 0 then below else above)

/-- The first number of digits, from `count` on, with which a decimal rounds to the magnitude. -/
def shortestFrom (value : Binary64) (point : Int) : Nat → Nat → Nat × Nat
  | 0, count => (value.mantissa, count)
  | rounds + 1, count =>
    match value.candidate? point count with
    | some decimal => (decimal, count)
    | none => shortestFrom value point rounds (count + 1)

/-- The fewest digits that round to a positive magnitude, and of those the nearest to it. -/
def shortest (value : Binary64) : Digits :=
  let (numerator, denominator) := value.quarters (4 * value.mantissa)
  let point := pointOf numerator denominator
  let (decimal, count) := value.shortestFrom point 17 1
  let digits := digitsOf decimal
  ⟨(digits.reverse.dropWhile (· == 0)).reverse, point + (digits.length - count : Int)⟩

end Binary64
end Formwright
