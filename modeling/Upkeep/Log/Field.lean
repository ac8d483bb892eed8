/-
Upkeep.Log.Field — a value in a field of a message.

A field has a kind, which says what it takes and in which form, a least
width, perhaps a precision, and five options. A value is first put into
its parts (`Field.parts`): a sign, a mark of the base, and a body. The
parts are then laid out (`Field.layOut`): a number may be filled up with
zeros behind its sign and mark, anything else with blanks on either side.
-/
import Upkeep.Decimal.Places
import Upkeep.Port

namespace Upkeep.Log

open Upkeep.Decimal (Binary64)

/-! ## 1. Fields -/

/-- What a field takes, and in which form. -/
inductive FieldKind
  /-- Any value, taken as a text. -/
  | plain
  /-- Any value, as it is shown. -/
  | shown
  /-- Any value as it is shown, in ASCII. -/
  | shownInAscii
  | character
  | decimal
  | octal
  | hexadecimal
  | fixed
  | scientific
  | general
  deriving DecidableEq, Repr

/-- The kind that a letter names; some letters have a form in capitals. -/
def FieldKind.ofLetter? (letter : Char) : Option FieldKind :=
  match letter with
  | 's' => some .plain
  | 'r' => some .shown
  | 'a' => some .shownInAscii
  | 'c' => some .character
  | 'd' | 'i' | 'u' => some .decimal
  | 'o' => some .octal
  | 'x' | 'X' => some .hexadecimal
  | 'f' | 'F' => some .fixed
  | 'e' | 'E' => some .scientific
  | 'g' | 'G' => some .general
  | _ => none

/-- A field of a message. -/
structure Field where
  /-- The value stands at the left end. -/
  left : Bool := false
  /-- A number that is not negative has a plus. -/
  plus : Bool := false
  /-- A number that is not negative has a blank. -/
  blank : Bool := false
  /-- A base has its mark, a point and zeros at the end are kept. -/
  full : Bool := false
  /-- A number is filled up with zeros. -/
  zeros : Bool := false
  width : Nat := 0
  precision : Option Nat := none
  letter : Char
  deriving DecidableEq, Repr

/-- A value in parts. -/
structure Parts where
  sign : List Char := []
  mark : List Char := []
  body : List Char
  isNumber : Bool := false
  deriving DecidableEq, Repr

namespace Field

/-- The most characters that a field may have. -/
def lengthLimit : Nat := 1000000000

/-- The largest precision of a whole number. -/
def digitLimit : Nat := 2147483644

/-- The letter is a capital, so letters in the value are capitals too. -/
def isCapital (f : Field) : Bool := 0x41 ≤ f.letter.toNat && f.letter.toNat ≤ 0x5A

/-- Characters in the case of the letter. -/
def cased (f : Field) (s : List Char) : List Char := if f.isCapital then s.map Char.toUpper else s

/-- A number from its sign and what follows it. -/
def number (f : Field) (negative : Bool) (mark body : List Char) : Parts :=
  let sign := if negative then ['-'] else if f.plus then ['+'] else if f.blank then [' '] else []
  { sign, mark := f.cased mark, body := f.cased body, isNumber := true }

/-! ## 2. Texts -/

/-- A text, cut off at the precision. -/
def cut (f : Field) (s : List Char) : Parts :=
  { body := match f.precision with | none => s | some p => s.take p }

/-- A character, given by itself or by its code point. -/
def characterParts (value : Json) : Except Fault Parts :=
  let ofCode (n : Int) : Except Fault Parts :=
    if 0 ≤ n ∧ n < 0x110000 then .ok { body := [Text.charOf n.toNat] }
    else .error ⟨.overflow, "%c arg not in range(0x110000)"⟩
  match value with
  | .bool b => ofCode (if b then 1 else 0)
  | .number (.whole n) => ofCode n
  | .text s => match s.toList with
    | [c] => .ok { body := [c] }
    | _ => .error ⟨.wrongType, "%c requires int or char"⟩
  | _ => .error ⟨.wrongType, "%c requires int or char"⟩

/-! ## 3. Whole numbers -/

/-- The report about a value that is no number of the kind that is
wanted. -/
def notWhole (f : Field) (wanted : String) (value : Json) : Fault :=
  ⟨.wrongType, s!"%{f.letter} format: {wanted} is required, not {value.kindWord}"⟩

/-- The whole number in a field. A field in decimal digits takes any number
and drops a fraction. -/
def wholeOf (f : Field) (kind : FieldKind) (value : Json) : Except Fault Int :=
  match value with
  | .bool b => .ok (if b then 1 else 0)
  | .number (.whole n) => .ok n
  | .number (.double x) =>
    if kind = .decimal then Port.wholeNumber (.number (.double x))
    else .error (f.notWhole "an integer" value)
  | _ => .error (f.notWhole (if kind = .decimal then "a real number" else "an integer") value)

/-- The base of a kind and its mark. -/
def base : FieldKind → Nat × List Char
  | .octal => (8, ['0', 'o'])
  | .hexadecimal => (16, ['0', 'x'])
  | _ => (10, [])

/-- A whole number with at least as many digits as the precision says. -/
def wholeParts (f : Field) (kind : FieldKind) (n : Int) : Except Fault Parts :=
  let least := f.precision.getD 0
  if least > digitLimit then .error ⟨.overflow, "precision too large"⟩
  else if least > lengthLimit then .error ⟨.outOfMemory, ""⟩
  else
    let (base, mark) := base kind
    .ok (f.number (n < 0) (if f.full then mark else [])
      (Decimal.padDigits least (Nat.toDigits base n.natAbs)))

/-! ## 4. Real numbers -/

/-- The double in a field. -/
def realOf (value : Json) : Except Fault Binary64 :=
  let ofWhole (n : Int) : Except Fault Binary64 :=
    match Binary64.nearest (n < 0) n.natAbs 1 with
    | .infinite _ => .error ⟨.overflow, "int too large to convert to float"⟩
    | x => .ok x
  match value with
  | .bool b => ofWhole (if b then 1 else 0)
  | .number (.whole n) => ofWhole n
  | .number (.double x) => .ok x
  | j => .error ⟨.wrongType, s!"must be real number, not {j.kindWord}"⟩

/-- The text of a finite number without its sign. -/
def magnitude (f : Field) (kind : FieldKind) (significand : Nat) (exponent : Int) : List Char :=
  let precision := f.precision.getD 6
  match kind with
  | .scientific => Decimal.scientificText f.full precision significand exponent
  | .general => Decimal.generalText f.full precision significand exponent
  | _ => Decimal.fixedText f.full precision significand exponent

/-- A real number in parts. -/
def realParts (f : Field) (kind : FieldKind) (x : Binary64) : Except Fault Parts :=
  match x with
  | .nan => .ok (f.number false [] ['n', 'a', 'n'])
  | .infinite negative => .ok (f.number negative [] ['i', 'n', 'f'])
  | .finite negative significand exponent =>
    if f.precision.getD 6 > lengthLimit then .error ⟨.outOfMemory, ""⟩
    else .ok (f.number negative [] (f.magnitude kind significand exponent))

/-! ## 5. Layout -/

/-- A value in parts, for a field of a kind. -/
def parts (f : Field) (kind : FieldKind) (value : Json) : Except Fault Parts :=
  match kind with
  | .plain => .ok (f.cut value.asText.toList)
  | .shown => .ok (f.cut value.display.toList)
  | .shownInAscii => .ok (f.cut (Text.escapeNonAscii value.display.toList))
  | .character => characterParts value
  | .decimal | .octal | .hexadecimal => do f.wholeParts kind (← f.wholeOf kind value)
  | .fixed | .scientific | .general => do f.realParts kind (← realOf value)

/-- Parts in the width of a field. -/
def layOut (f : Field) (p : Parts) : List Char :=
  let head := p.sign ++ p.mark
  let gap := f.width - (head.length + p.body.length)
  if f.left then head ++ p.body ++ List.replicate gap ' '
  else if f.zeros && p.isNumber then head ++ List.replicate gap '0' ++ p.body
  else List.replicate gap ' ' ++ head ++ p.body

/-- A value in a field of a kind. -/
def fill (f : Field) (kind : FieldKind) (value : Json) : Except Fault (List Char) := do
  let p ← f.parts kind value
  if f.width > lengthLimit then throw ⟨.outOfMemory, ""⟩
  return f.layOut p

end Field

end Upkeep.Log
