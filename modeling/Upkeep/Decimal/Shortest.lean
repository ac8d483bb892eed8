/-
Upkeep.Decimal.Shortest — the fewest decimal digits that read back.

The numbers that round to a given one form an interval, its ends included
exactly if the significand is even. For one digit, two digits and so on,
`shortest?` looks at the two neighbours of the value on the grid of
decimals with that many digits; the first grid with a neighbour inside the
interval wins, and of two such neighbours the nearer one, or the even one
if they are equally near. If any point of a grid lies inside, so does one
of the two neighbours.
-/
import Upkeep.Decimal.Binary64

namespace Upkeep.Decimal

/-- A decimal number `digits · 10 ^ exponent`. -/
structure Scaled where
  digits : Nat
  exponent : Int
  deriving DecidableEq, Repr

/-- A positive number with the interval that rounds to it, as numerators
over one denominator. -/
structure Interval where
  low : Nat
  value : Nat
  high : Nat
  denominator : Nat
  closed : Bool

/-- The interval of a canonical finite number other than zero. Below a
power of two the numbers lie twice as close. -/
def Interval.of (significand : Nat) (exponent : Int) : Interval :=
  let up := power 2 exponent
  let below := if significand == power 2 52 && exponent > Binary64.minExponent then 1 else 2
  { low := (4 * significand - below) * up
    value := 4 * significand * up
    high := (4 * significand + 2) * up
    denominator := 4 * power 2 (-exponent)
    closed := significand % 2 == 0 }

namespace Interval

/-- `digits · 10 ^ exponent` over the interval's denominator, as a fraction
with the returned second part. -/
def scale (i : Interval) (d : Scaled) : Nat × Nat :=
  (d.digits * power 10 d.exponent * i.denominator, power 10 (-d.exponent))

/-- The decimal rounds to the value. -/
def contains (i : Interval) (d : Scaled) : Bool :=
  let (n, t) := i.scale d
  if i.closed then i.low * t ≤ n && n ≤ i.high * t else i.low * t < n && n < i.high * t

/-- How far the decimal is from the value, for comparison with another of
the same exponent. -/
def distance (i : Interval) (d : Scaled) : Nat :=
  let (n, t) := i.scale d
  (n - i.value * t) + (i.value * t - n)

/-- The number of digits before the point: the least `m` with
`value < 10 ^ m`. The guess is off by at most one. -/
def pointPosition (i : Interval) : Int :=
  let guess : Int := (Binary64.digitCount i.value : Int) - Binary64.digitCount i.denominator
  if i.value * power 10 (-guess) < i.denominator * power 10 guess then guess else guess + 1

/-- The better of the two decimals with `count` digits next to the value,
if it rounds to the value. -/
def neighbour? (i : Interval) (count : Nat) : Option Scaled :=
  let exponent := i.pointPosition - count
  let below : Scaled :=
    ⟨i.value * power 10 (-exponent) / (i.denominator * power 10 exponent), exponent⟩
  let above : Scaled := ⟨below.digits + 1, exponent⟩
  match i.contains below, i.contains above with
  | true, true =>
    if i.distance below < i.distance above then some below
    else if i.distance above < i.distance below then some above
    else if below.digits % 2 == 0 then some below else some above
  | true, false => some below
  | false, true => some above
  | false, false => none

/-- The first neighbour that rounds to the value, with `count` digits or
up to `more` further ones. -/
def search (i : Interval) : (more count : Nat) → Option Scaled
  | 0, count => i.neighbour? count
  | more + 1, count =>
    match i.neighbour? count with
    | some d => some d
    | none => search i more (count + 1)

end Interval

/-- The shortest decimal for a canonical finite number other than zero.
Seventeen digits always suffice. -/
def shortest? (significand : Nat) (exponent : Int) : Option Scaled :=
  (Interval.of significand exponent).search 16 1

end Upkeep.Decimal
