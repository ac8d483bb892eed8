/-
Upkeep.Decimal.Binary64 — double-precision numbers as exact values.

A number is not a number at all, an infinity, or a sign with
significand · 2 ^ exponent. The functions below yield the canonical form
of a finite number: the significand is below 2 ^ 53, and below 2 ^ 52 only
if the exponent is the smallest one, -1074. Nothing here computes with
rounded numbers: `nearest` rounds one exact quotient, a half going to the
even neighbour.
-/
namespace Upkeep.Decimal

/-- A power with a whole exponent; it is one if the exponent is below zero. -/
def power (base : Nat) (e : Int) : Nat := base.pow e.toNat

/-- A double-precision number. -/
inductive Binary64
  | nan
  | infinite (negative : Bool)
  | finite (negative : Bool) (significand : Nat) (exponent : Int)
  deriving DecidableEq, Repr

namespace Binary64

/-! ## 1. Rounding -/

/-- The quotient rounded to the nearest whole number, a half to the even
neighbour. -/
def roundDiv (numerator denominator : Nat) : Nat :=
  let whole := numerator / denominator
  let twice := 2 * (numerator % denominator)
  if twice < denominator then whole
  else if denominator < twice then whole + 1
  else whole + whole % 2

/-- The smallest exponent. -/
def minExponent : Int := -1074

/-- The largest exponent. -/
def maxExponent : Int := 971

/-- The largest `l` with `2 ^ l ≤ numerator / denominator`, for a positive
quotient. -/
def floorLog2 (numerator denominator : Nat) : Int :=
  let l : Int := (numerator.log2 : Int) - denominator.log2
  if denominator * power 2 l ≤ numerator * power 2 (-l) then l else l - 1

/-- The number nearest to a quotient. -/
def nearest (negative : Bool) (numerator denominator : Nat) : Binary64 :=
  if numerator = 0 then .finite negative 0 minExponent
  else
    let e := max (floorLog2 numerator denominator - 52) minExponent
    let s := roundDiv (numerator * power 2 (-e)) (denominator * power 2 e)
    let carried := s == power 2 53
    let significand := if carried then power 2 52 else s
    let exponent := if carried then e + 1 else e
    if exponent > maxExponent then .infinite negative
    else .finite negative significand exponent

/-- How many decimal digits a number has. -/
def digitCount (n : Nat) : Nat := (Nat.toDigits 10 n).length

/-- The number nearest to `digits · 10 ^ exponent`. The magnitude is looked
at first, so that no power far outside the range is ever computed. -/
def ofDecimal (negative : Bool) (digits : Nat) (exponent : Int) : Binary64 :=
  if digits = 0 then .finite negative 0 minExponent
  else
    let magnitude : Int := digitCount digits + exponent
    if magnitude > 400 then .infinite negative
    else if magnitude < -400 then .finite negative 0 minExponent
    else nearest negative (digits * power 10 exponent) (power 10 (-exponent))

/-! ## 2. Comparison with zero -/

/-- The number is below zero. Not a number is neither below, above nor
equal to it. -/
def isNegative : Binary64 → Bool
  | .finite negative s _ => negative && s != 0
  | .infinite negative => negative
  | .nan => false

/-- The number is above zero. -/
def isPositive : Binary64 → Bool
  | .finite negative s _ => !negative && s != 0
  | .infinite negative => !negative
  | .nan => false

/-- The number is zero, of either sign. -/
def isZero : Binary64 → Bool
  | .finite _ s _ => s == 0
  | _ => false

/-! ## 3. Whole part and encoding -/

/-- Why a number has no whole part. -/
inductive NoWhole
  | notANumber
  | infinity
  deriving DecidableEq, Repr

/-- The whole part, toward zero. -/
def whole : Binary64 → Except NoWhole Int
  | .nan => .error .notANumber
  | .infinite _ => .error .infinity
  | .finite negative s e =>
    let magnitude : Nat := s * power 2 e / power 2 (-e)
    .ok (if negative then -(magnitude : Int) else magnitude)

/-- The interchange encoding in 64 bits; there is one encoding of not a
number. -/
def bits : Binary64 → Nat
  | .nan => 0x7FF8000000000000
  | .infinite negative => (if negative then power 2 63 else 0) + 0x7FF0000000000000
  | .finite negative s e =>
    (if negative then power 2 63 else 0) +
      (if s < power 2 52 then s else (e + 1075).toNat * power 2 52 + (s - power 2 52))

/-- A whole number, exactly if it has at most 53 bits. -/
def ofNat (n : Nat) : Binary64 := nearest false n 1

end Binary64

end Upkeep.Decimal
