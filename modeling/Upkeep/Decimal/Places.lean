/-
Upkeep.Decimal.Places — doubles with a chosen number of digits.

`fixedText` puts a number of digits after the point, `scientificText` one
digit before the point and an exponent behind, and `generalText` takes a
number of significant digits and the one of the two forms that suits the
magnitude. Each rounds the exact value once, a half going to the even
neighbour. No double has more than `fractionDigits` digits after the point
or more than `significantLimit` significant ones, so beyond them only
zeros follow.
-/
import Upkeep.Decimal.Notation

namespace Upkeep.Decimal

/-! ## 1. Digits -/

/-- The most digits after the point that a double has. -/
def fractionDigits : Nat := 1074

/-- A double has fewer significant digits than this. -/
def significantLimit : Nat := 800

/-- Digits with zeros in front up to a length. -/
def padDigits (length : Nat) (digits : List Char) : List Char :=
  List.replicate (length - digits.length) '0' ++ digits

/-- Digits before the point and digits after it; a point that nothing
follows is kept only if that is wanted. -/
def withPoint (keepPoint : Bool) (before after : List Char) : List Char :=
  if after.isEmpty && !keepPoint then before else before ++ '.' :: after

/-- The first `count` significant digits of `significand · 2 ^ exponent`,
rounded, for a `count` of at least one, and the exponent of ten at the
first of them. -/
def significantDigits (count significand : Nat) (exponent : Int) : List Char × Int :=
  if significand = 0 then (List.replicate count '0', 0)
  else
    let known := min count significantLimit
    let i := Interval.of significand exponent
    let shift := known - i.pointPosition
    let n := Binary64.roundDiv (i.value * power 10 shift) (i.denominator * power 10 (-shift))
    let zeros := List.replicate (count - known) '0'
    if n = power 10 known then ('1' :: List.replicate (known - 1) '0' ++ zeros, i.pointPosition)
    else (Nat.toDigits 10 n ++ zeros, i.pointPosition - 1)

/-! ## 2. Forms -/

/-- The text with `places` digits after the point. -/
def fixedText (keepPoint : Bool) (places significand : Nat) (exponent : Int) : List Char :=
  let known := min places fractionDigits
  let n := Binary64.roundDiv (significand * power 2 exponent * power 10 known)
    (power 2 (-exponent))
  let digits := padDigits (known + 1) (Nat.toDigits 10 n)
  let split := digits.length - known
  withPoint keepPoint (digits.take split)
    (digits.drop split ++ List.replicate (places - known) '0')

/-- Digits, the first of which stands at an exponent of ten, with that
exponent behind them. -/
def exponentForm (keepPoint : Bool) (digits : List Char) (exponent : Int) : List Char :=
  withPoint keepPoint (digits.take 1) (digits.drop 1) ++ 'e' :: exponentText exponent

/-- Digits, the first of which stands at an exponent of ten, without an
exponent. -/
def plainForm (keepPoint : Bool) (digits : List Char) (exponent : Int) : List Char :=
  if exponent < 0 then
    withPoint keepPoint ['0'] (List.replicate (-exponent - 1).toNat '0' ++ digits)
  else
    let count := exponent.toNat + 1
    withPoint keepPoint (digits.take count ++ List.replicate (count - digits.length) '0')
      (digits.drop count)

/-- The text with `places` digits after the point and an exponent. -/
def scientificText (keepPoint : Bool) (places significand : Nat) (exponent : Int) : List Char :=
  let (digits, first) := significantDigits (places + 1) significand exponent
  exponentForm keepPoint digits first

/-- The text with `count` significant digits, or one if `count` is zero. It
has an exponent if the first digit stands below 10 ^ -4, or so high that
not all digits before the point are significant. Zeros at the end are kept
only together with the point. -/
def generalText (keepPoint : Bool) (count significand : Nat) (exponent : Int) : List Char :=
  let count := max count 1
  let wanted := if keepPoint then count else min count significantLimit
  let (digits, first) := significantDigits wanted significand exponent
  let digits := if keepPoint then digits else dropTrailingZeros digits
  if -4 ≤ first ∧ first < count then plainForm keepPoint digits first
  else exponentForm keepPoint digits first

end Upkeep.Decimal
