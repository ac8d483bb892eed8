/-
Upkeep.Decimal.Reading — reading numbers from text.

White space around a number is passed over (the ASCII separators `1C`–`1F`
are not white space here), digits may be of any script, and a single
underscore may stand between two digits. A whole number may not have more
than `digitLimit` digits.
-/
import Upkeep.Decimal.Binary64
import Upkeep.Text.Blank
import Upkeep.Text.Digit

namespace Upkeep.Decimal

open Upkeep.Text

/-! ## 1. Digits -/

/-- White space that may surround a number. -/
def isMargin (c : Char) : Bool := isBlank c && !(0x1C ≤ c.toNat && c.toNat ≤ 0x1F)

/-- A text without the white space around it. -/
def trimMargin (s : List Char) : List Char := dropEndWhile isMargin (s.dropWhile isMargin)

/-- The values of digits that may have single underscores between them;
there is at least one digit. -/
def digitRun? : List Char → Option (List Nat)
  | [] => none
  | [c] => (digitValue? c).map ([·])
  | c :: '_' :: rest => do
    let d ← digitValue? c
    let ds ← digitRun? rest
    return d :: ds
  | c :: rest => do
    let d ← digitValue? c
    let ds ← digitRun? rest
    return d :: ds

/-- The number with the given digits. -/
def ofDigits (digits : List Nat) : Nat := digits.foldl (fun n d => n * 10 + d) 0

/-- The sign in front of a number, and the rest. -/
def splitSign : List Char → Bool × List Char
  | '-' :: rest => (true, rest)
  | '+' :: rest => (false, rest)
  | s => (false, s)

/-! ## 2. Whole numbers -/

/-- The most digits that a whole number may have. -/
def digitLimit : Nat := 4300

/-- The whole number that a text writes. -/
def readInt? (s : String) : Option Int := do
  let (negative, rest) := splitSign (trimMargin s.toList)
  let digits ← digitRun? rest
  if digits.length > digitLimit then none
  let n : Int := ofDigits digits
  return if negative then -n else n

/-! ## 3. Doubles -/

/-- A character of a run of digits. -/
def isRunChar (c : Char) : Bool := isDecimalDigit c || c == '_'

/-- The run of digits at the head of a text, which may be empty, and the
rest; nothing if underscores are out of place. -/
def splitRun? (s : List Char) : Option (List Nat × List Char) :=
  match s.takeWhile isRunChar with
  | [] => some ([], s)
  | run => (digitRun? run).map (·, s.dropWhile isRunChar)

/-- The digits after the point, if there is one, and the rest. -/
def splitFraction? : List Char → Option (List Nat × List Char)
  | '.' :: rest => splitRun? rest
  | s => some ([], s)

/-- The exponent at the end of a number, zero if there is none. -/
def readExponent? : List Char → Option Int
  | [] => some 0
  | c :: rest =>
    if c == 'e' || c == 'E' then do
      let (negative, run) := splitSign rest
      let digits ← digitRun? run
      let e : Int := ofDigits digits
      return if negative then -e else e
    else none

/-- A text without sign that names no finite number. -/
def readSpecial? (negative : Bool) (s : List Char) : Option Binary64 :=
  let name := String.ofList (s.map Char.toLower)
  if name == "inf" || name == "infinity" then some (.infinite negative)
  else if name == "nan" then some .nan
  else none

/-- The double nearest to what a text writes. -/
def readDouble? (s : String) : Option Binary64 :=
  let (negative, unsigned) := splitSign (trimMargin s.toList)
  match readSpecial? negative unsigned with
  | some x => some x
  | none => do
    let (wholeDigits, afterWhole) ← splitRun? unsigned
    let (fraction, afterFraction) ← splitFraction? afterWhole
    let exponent ← readExponent? afterFraction
    if wholeDigits.isEmpty && fraction.isEmpty then none
    return Binary64.ofDecimal negative (ofDigits (wholeDigits ++ fraction))
      (exponent - fraction.length)

end Upkeep.Decimal
