/-
Upkeep.Decimal.Notation — how numbers are written.

A double is written with the fewest digits that read back. It is written
positionally, with at least one digit after the point, if its first digit
stands between 10 ^ -4 and 10 ^ 15, and with an exponent of at least two
digits otherwise.
-/
import Upkeep.Decimal.Shortest

namespace Upkeep.Decimal

/-- Digits without the zeros at their end; the exponent makes up for them. -/
def dropTrailingZeros : List Char → List Char := fun digits =>
  match (digits.reverse.dropWhile (· == '0')).reverse with
  | [] => ['0']
  | kept => kept

/-- Digits `d…` that mean `0.d… · 10 ^ point`, positionally. -/
def positional (digits : List Char) (point : Int) : List Char :=
  if point ≤ 0 then ['0', '.'] ++ List.replicate (-point).toNat '0' ++ digits
  else if digits.length ≤ point.toNat then
    digits ++ List.replicate (point.toNat - digits.length) '0' ++ ['.', '0']
  else digits.take point.toNat ++ '.' :: digits.drop point.toNat

/-- An exponent: its sign and at least two digits. -/
def exponentText (e : Int) : List Char :=
  let digits := Nat.toDigits 10 e.natAbs
  (if e < 0 then '-' else '+') :: (if digits.length < 2 then '0' :: digits else digits)

/-- Digits `d…` that mean `0.d… · 10 ^ point`, with an exponent. -/
def scientific (digits : List Char) (point : Int) : List Char :=
  match digits with
  | [] => []
  | [d] => d :: 'e' :: exponentText (point - 1)
  | d :: rest => d :: '.' :: rest ++ 'e' :: exponentText (point - 1)

/-- The text of a finite number without its sign. -/
def magnitudeText (significand : Nat) (exponent : Int) : List Char :=
  if significand = 0 then ['0', '.', '0']
  else match shortest? significand exponent with
    | none => []
    | some d =>
      let written := Nat.toDigits 10 d.digits
      let point : Int := written.length + d.exponent
      let digits := dropTrailingZeros written
      if -4 < point ∧ point ≤ 16 then positional digits point else scientific digits point

/-- The text of a double. -/
def Binary64.text : Binary64 → String
  | .nan => "nan"
  | .infinite negative => if negative then "-inf" else "inf"
  | .finite negative s e =>
    String.ofList ((if negative then ['-'] else []) ++ magnitudeText s e)

/-- A number as somebody wrote it: whole, or a double. -/
inductive Number
  | whole (n : Int)
  | double (x : Binary64)
  deriving DecidableEq, Repr

/-- The text of a number. -/
def Number.text : Number → String
  | .whole n => toString n
  | .double x => x.text

/-- The number is at most zero. -/
def Number.isAtMostZero : Number → Bool
  | .whole n => n ≤ 0
  | .double x => x.isNegative || x.isZero

end Upkeep.Decimal
