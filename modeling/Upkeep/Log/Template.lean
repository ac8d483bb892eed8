/-
Upkeep.Log.Template — messages with fields for values.

A field starts with a percent sign and ends with the letter of its kind;
in between stand options, a width, a point with a precision, and a letter
for a size that means nothing. A width or precision may be a star, which
takes a value of its own. Two percent signs side by side are one. How a
field is written (`Written.read`) does not depend on the values; what it
stands for (`Written.field`) does.
-/
import Upkeep.Log.Field

namespace Upkeep.Log.Template

/-! ## 1. Fields as they are written -/

/-- A width or precision as it is written. -/
inductive Amount
  | digits (run : List Char)
  | star
  deriving DecidableEq, Repr

namespace Amount

/-- The amount at the head of a text; it may have no digits at all. -/
def read : List Char → Amount
  | '*' :: _ => .star
  | s => .digits (s.takeWhile Text.isAsciiDigit)

/-- How many characters the amount takes. -/
def size : Amount → Nat
  | .digits run => run.length
  | .star => 1

end Amount

/-- A field as it is written, after its percent sign. -/
structure Written where
  options : List Char
  width : Amount
  precision : Option Amount
  /-- The letter of the kind, if the message does not end before it. -/
  letter : Option Char
  /-- How many characters the field takes. -/
  size : Nat
  deriving DecidableEq, Repr

/-- A character that is an option. -/
def isOption (c : Char) : Bool := ['-', '+', ' ', '#', '0'].contains c

/-- A letter for the size of a number, which means nothing. -/
def isSizeLetter (c : Char) : Bool := ['h', 'l', 'L'].contains c

/-- The precision at the head of a text, if there is one. -/
def readPrecision? : List Char → Option Amount
  | '.' :: rest => some (.read rest)
  | _ => none

/-- How many characters a precision takes, with its point. -/
def precisionSize : Option Amount → Nat
  | none => 0
  | some amount => amount.size + 1

/-- How many size letters stand at the head of a text, at most one. -/
def sizeLetters : List Char → Nat
  | c :: _ => if isSizeLetter c then 1 else 0
  | [] => 0

/-- The field at the head of a text. -/
def Written.read (s : List Char) : Written :=
  let options := s.takeWhile isOption
  let afterOptions := s.drop options.length
  let width := Amount.read afterOptions
  let afterWidth := afterOptions.drop width.size
  let precision := readPrecision? afterWidth
  let afterPrecision := afterWidth.drop (precisionSize precision)
  let letters := sizeLetters afterPrecision
  { options, width, precision
    letter := (afterPrecision.drop letters).head?
    size := options.length + width.size + precisionSize precision + letters + 1 }

/-! ## 2. What fields stand for -/

/-- The report that there are too few values. -/
def tooFew : Fault := ⟨.wrongType, "not enough arguments for format string"⟩

/-- The report that there are too many values. -/
def tooMany : Fault := ⟨.wrongType, "not all arguments converted during string formatting"⟩

/-- The bounds of an amount: the largest one, the report about more digits,
and the word for numbers of that size. -/
structure Bounds where
  largest : Nat
  report : String
  word : String

/-- The bounds of a width. -/
def widthBounds : Bounds := ⟨9223372036854775807, "width too big", "ssize_t"⟩

/-- The bounds of a precision. -/
def precisionBounds : Bounds := ⟨2147483647, "precision too big", "int"⟩

/-- The whole number that stands for a star. -/
def starValue (bounds : Bounds) (value : Json) : Except Fault Int := do
  let n : Int ← match value with
    | .bool b => .ok (if b then 1 else 0)
    | .number (.whole n) => .ok n
    | _ => .error ⟨.wrongType, "* wants int"⟩
  if n < -bounds.largest - 1 || bounds.largest < n then
    throw ⟨.overflow, s!"Python int too large to convert to C {bounds.word}"⟩
  return n

/-- An amount and the values that are left; no digits are zero. -/
def Amount.take (bounds : Bounds) (amount : Amount) (values : List Json) :
    Except Fault (Int × List Json) :=
  match amount with
  | .digits run =>
    let n := Decimal.ofDigits (run.map fun d => d.toNat - 0x30)
    if n > bounds.largest then .error ⟨.value, bounds.report⟩ else .ok (n, values)
  | .star =>
    match values with
    | [] => .error tooFew
    | value :: rest => do return (← starValue bounds value, rest)

/-- A precision and the values that are left; one below zero is zero. -/
def takePrecision (amount : Option Amount) (values : List Json) :
    Except Fault (Option Nat × List Json) :=
  match amount with
  | none => .ok (none, values)
  | some amount => do
    let (n, rest) ← amount.take precisionBounds values
    return (some n.toNat, rest)

/-- The field that is written, and the values that are left. A width below
zero puts the value at the left end; the least width has no opposite and
is none. -/
def Written.field (w : Written) (values : List Json) : Except Fault (Field × List Json) := do
  let (width, values) ← w.width.take widthBounds values
  let (precision, values) ← takePrecision w.precision values
  match w.letter with
  | none => throw ⟨.value, "incomplete format"⟩
  | some letter =>
    let field : Field :=
      { left := w.options.contains '-' || width < 0
        plus := w.options.contains '+'
        blank := w.options.contains ' '
        full := w.options.contains '#'
        zeros := w.options.contains '0'
        width := if width < -widthBounds.largest then 0 else width.natAbs
        precision, letter }
    return (field, values)

/-- The report about a letter that names no kind, by its place in the
message; a character beyond ASCII or a control is not shown. -/
def unknownKind (letter : Char) (position : Nat) : Fault :=
  let code := String.ofList (Nat.toDigits 16 (Text.codePoint letter))
  let shown := if 31 ≤ letter.toNat ∧ letter.toNat ≤ 126 then letter else '?'
  ⟨.value, s!"unsupported format character '{shown}' (0x{code}) at index {position}"⟩

/-- A field with its value, the first of those left, and the other values;
`position` is the place of the letter. -/
def fillField (position : Nat) (f : Field) (values : List Json) :
    Except Fault (List Char × List Json) :=
  match values with
  | [] => .error tooFew
  | value :: rest =>
    match FieldKind.ofLetter? f.letter with
    | none => .error (unknownKind f.letter position)
    | some kind => do return (← f.fill kind value, rest)

/-! ## 3. Messages -/

/-- The message with its fields filled, from the left; `position` counts
the characters before. -/
def fillChars (position : Nat) (message : List Char) (values : List Json) :
    Except Fault (List Char) :=
  match message with
  | [] => if values.isEmpty then .ok [] else .error tooMany
  | '%' :: '%' :: rest => do return '%' :: (← fillChars (position + 2) rest values)
  | '%' :: '(' :: _ => .error ⟨.wrongType, "format requires a mapping"⟩
  | '%' :: rest => do
    let written := Written.read rest
    let (field, others) ← written.field values
    let (text, others) ← fillField (position + written.size) field others
    let filled ← fillChars (position + written.size + 1) (rest.drop written.size) others
    return text ++ filled
  | c :: rest => do return c :: (← fillChars (position + 1) rest values)
termination_by message.length
decreasing_by
  · simp only [List.length_cons]; omega
  · simp only [List.length_drop, List.length_cons]; omega
  · simp only [List.length_cons]; omega

/-- The message with its fields filled. Without values the message is taken
as it is. -/
def fill (message : String) (values : List Json) : Except Fault String :=
  if values.isEmpty then .ok message
  else (fillChars 0 message.toList values).map String.ofList

end Upkeep.Log.Template
