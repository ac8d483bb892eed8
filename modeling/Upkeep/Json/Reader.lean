/-
Upkeep.Json.Reader — reading JSON, with the place of the first flaw.

Beyond the standard, `NaN`, `Infinity` and `-Infinity` are numbers. Blanks
are the space, the tab, the line feed and the carriage return only. A
surrogate without its partner is kept (`Text.charOf`). A whole number may
have `Decimal.digitLimit` digits, and lists and objects may be nested as deep as
the stack allows (`Depths`). The flaw that is reported is the first that a
reader from left to right meets; its position counts characters.
-/
import Upkeep.Decimal.Reading
import Upkeep.Encoding.Utf16
import Upkeep.Json.Value

namespace Upkeep.Json

/-! ## 1. Flaws -/

/-- What is wrong at a place of a document. -/
inductive Expectation
  | value
  | extraData
  | propertyName
  | colon
  | comma
  | unterminatedText
  | controlCharacter
  | badEscape
  | badUnicodeEscape
  | unexpectedMark
  deriving DecidableEq, Repr

/-- The wording of what is wrong. -/
def Expectation.message : Expectation → String
  | .value => "Expecting value"
  | .extraData => "Extra data"
  | .propertyName => "Expecting property name enclosed in double quotes"
  | .colon => "Expecting ':' delimiter"
  | .comma => "Expecting ',' delimiter"
  | .unterminatedText => "Unterminated string starting at"
  | .controlCharacter => "Invalid control character at"
  | .badEscape => "Invalid \\escape"
  | .badUnicodeEscape => "Invalid \\uXXXX escape"
  | .unexpectedMark => "Unexpected UTF-8 BOM (decode using utf-8-sig)"

/-- What a document can be nested in. -/
inductive Container
  | list
  | object
  deriving DecidableEq, Repr

/-- The word for a container in messages. -/
def Container.word : Container → String
  | .list => "array"
  | .object => "object"

/-- How deep lists and objects may be nested: where a document is read, where
one is taken as a text, and where one is shown inside a message. This hangs on
the stack of the program that reads, and on how much of it is in use at each of
the three places. What was read can be shown at the two others. -/
structure Depths where
  reader : Nat
  text : Nat
  message : Nat
  positive : 0 < reader
  reader_le_text : reader ≤ text
  reader_le_message : reader ≤ message

/-- The depths that a stack of the usual size leaves. -/
def Depths.usual : Depths where
  reader := 985
  text := 989
  message := 985
  positive := by decide
  reader_le_text := by decide
  reader_le_message := by decide

/-- Why a text is no document. -/
inductive Flaw
  | malformed (what : Expectation) (position : Nat)
  | tooManyDigits (count : Nat)
  | tooDeep (container : Container)
  deriving DecidableEq, Repr

/-- The line and the column of a position, both counted from one. -/
def lineAndColumn (s : List Char) (position : Nat) : Nat × Nat :=
  let before := s.take position
  (before.count '\n' + 1, (before.reverse.takeWhile (· != '\n')).length + 1)

/-- The report about a flaw of a text. -/
def Flaw.message (s : List Char) : Flaw → String
  | .malformed what position =>
    let (line, column) := lineAndColumn s position
    s!"{what.message}: line {line} column {column} (char {position})"
  | .tooManyDigits count =>
    s!"Exceeds the limit ({Decimal.digitLimit} digits) for integer string conversion: value has {count} digits; use sys.set_int_max_str_digits() to increase the limit"
  | .tooDeep container =>
    s!"maximum recursion depth exceeded while decoding a JSON {container.word} from a unicode string"

/-! ## 2. Places in a text -/

/-- What is left of a text, and how many characters came before it. -/
structure Cursor where
  position : Nat
  rest : List Char

/-- The cursor some characters further on. -/
def Cursor.advance (c : Cursor) (n : Nat) : Cursor := ⟨c.position + n, c.rest.drop n⟩

/-- A blank between tokens. -/
def isGap (c : Char) : Bool := c == ' ' || c == '\t' || c == '\n' || c == '\r'

/-- The cursor after the blanks. -/
def Cursor.skipGap (c : Cursor) : Cursor := c.advance (c.rest.takeWhile isGap).length

/-! ## 3. Texts -/

/-- The character that a one-letter escape means. -/
def escapeMeaning? (c : Char) : Option Char :=
  if c == '"' || c == '\\' || c == '/' then some c
  else if c == 'b' then some '\x08'
  else if c == 'f' then some '\x0c'
  else if c == 'n' then some '\n'
  else if c == 'r' then some '\r'
  else if c == 't' then some '\t'
  else none

/-- The number that four hexadecimal digits write. -/
def fourHex? (a b c d : Char) : Option Nat := do
  let w ← Text.hexValue? a
  let x ← Text.hexValue? b
  let y ← Text.hexValue? c
  let z ← Text.hexValue? d
  return ((w * 16 + x) * 16 + y) * 16 + z

/-- Read a text from inside it; `start` is the place of its opening quote
and `passed` what was read so far, in reverse. -/
def readText (start : Nat) :
    (position : Nat) → (passed : List Char) → List Char → Except Flaw (String × Cursor)
  | _, _, [] => .error (.malformed .unterminatedText start)
  | position, passed, c :: rest =>
    if c == '"' then .ok (String.ofList passed.reverse, ⟨position + 1, rest⟩)
    else if c == '\\' then
      match rest with
      | [] => .error (.malformed .unterminatedText start)
      | e :: afterLetter =>
        if e == 'u' then
          match afterLetter with
          | h₁ :: h₂ :: h₃ :: h₄ :: afterHex =>
            if afterHex.isEmpty then .error (.malformed .badUnicodeEscape (position + 1))
            else match fourHex? h₁ h₂ h₃ h₄ with
              | none => .error (.malformed .badUnicodeEscape (position + 1))
              | some n =>
                match afterHex with
                | b :: u :: g₁ :: g₂ :: g₃ :: g₄ :: afterPair =>
                  if Encoding.Utf16.isHigh n && b == '\\' && u == 'u' && !afterPair.isEmpty then
                    match fourHex? g₁ g₂ g₃ g₄ with
                    | none => .error (.malformed .badUnicodeEscape (position + 7))
                    | some m =>
                      if Encoding.Utf16.isLow m then
                        readText start (position + 12)
                          (Char.ofNat (Encoding.Utf16.joinPair n m) :: passed) afterPair
                      else
                        readText start (position + 6) (Text.charOf n :: passed)
                          (b :: u :: g₁ :: g₂ :: g₃ :: g₄ :: afterPair)
                  else
                    readText start (position + 6) (Text.charOf n :: passed)
                      (b :: u :: g₁ :: g₂ :: g₃ :: g₄ :: afterPair)
                | short =>
                  readText start (position + 6) (Text.charOf n :: passed) short
          | _ => .error (.malformed .badUnicodeEscape (position + 1))
        else match escapeMeaning? e with
          | some meant => readText start (position + 2) (meant :: passed) afterLetter
          | none => .error (.malformed .badEscape position)
    else if c.toNat < 0x20 then .error (.malformed .controlCharacter position)
    else readText start (position + 1) (c :: passed) rest

/-! ## 4. Numbers -/

/-- The digits of the whole part: a zero alone, or digits not starting with
zero. -/
def wholeRun : List Char → List Char
  | [] => []
  | c :: rest =>
    if c == '0' then ['0']
    else if Text.isAsciiDigit c then c :: rest.takeWhile Text.isAsciiDigit
    else []

/-- The digits after a point, if there are any, and the rest. -/
def fractionRun (s : List Char) : List Char × List Char :=
  match s with
  | '.' :: rest =>
    match rest.takeWhile Text.isAsciiDigit with
    | [] => ([], s)
    | run => (run, rest.drop run.length)
  | _ => ([], s)

/-- The exponent, if there is one, and the rest. -/
def exponentPart (s : List Char) : Option Int × List Char :=
  match s with
  | [] => (none, s)
  | c :: rest =>
    if c == 'e' || c == 'E' then
      let (negative, digits) := Decimal.splitSign rest
      match digits.takeWhile Text.isAsciiDigit with
      | [] => (none, s)
      | run =>
        let e : Int := Decimal.ofDigits (run.map fun d => d.toNat - 0x30)
        (some (if negative then -e else e), digits.drop run.length)
    else (none, s)

/-- The number at the head of a text with what follows it; nothing if
there is no number. -/
def readNumber? (s : List Char) : Option (Except Flaw (Decimal.Number × List Char)) :=
  let (negative, unsigned) : Bool × List Char :=
    match s with
    | '-' :: rest => (true, rest)
    | _ => (false, s)
  match wholeRun unsigned with
  | [] => none
  | run =>
    let (fraction, afterFraction) := fractionRun (unsigned.drop run.length)
    let (exponent, rest) := exponentPart afterFraction
    let digits := Decimal.ofDigits ((run ++ fraction).map fun d => d.toNat - 0x30)
    if fraction.isEmpty && exponent.isNone then
      if run.length > Decimal.digitLimit then some (.error (.tooManyDigits run.length))
      else some (.ok (.whole (if negative then -(digits : Int) else digits), rest))
    else
      some (.ok (.double (Decimal.Binary64.ofDecimal negative digits
        (exponent.getD 0 - fraction.length)), rest))

/-! ## 5. Documents -/

/-- The constants and what they mean. -/
def constants : List (List Char × Json) := [
  ("null".toList, .null), ("true".toList, .bool true), ("false".toList, .bool false),
  ("NaN".toList, .number (.double .nan)),
  ("Infinity".toList, .number (.double (.infinite false))),
  ("-Infinity".toList, .number (.double (.infinite true)))]

/-- A document that is neither a text nor a list nor an object. -/
def readScalar (c : Cursor) : Except Flaw (Json × Cursor) :=
  match constants.find? fun k => k.1.isPrefixOf c.rest with
  | some k => .ok (k.2, c.advance k.1.length)
  | none =>
    match readNumber? c.rest with
    | none => .error (.malformed .value c.position)
    | some (.error flaw) => .error flaw
    | some (.ok (n, rest)) =>
      .ok (.number n, ⟨c.position + (c.rest.length - rest.length), rest⟩)

mutual

/-- The document at the cursor; lists and objects may be nested `depth`
deep. -/
def readValue : (fuel depth : Nat) → Cursor → Except Flaw (Json × Cursor)
  | 0, _, c => .error (.malformed .value c.position)
  | fuel + 1, depth, c =>
    match c.rest with
    | '"' :: rest => do
      let (s, after) ← readText c.position (c.position + 1) [] rest
      return (.text s, after)
    | '[' :: _ =>
      match depth with
      | 0 => .error (.tooDeep .list)
      | depth + 1 =>
        let inside := (c.advance 1).skipGap
        match inside.rest with
        | ']' :: _ => .ok (.list [], inside.advance 1)
        | _ => readItems fuel depth [] inside
    | '\x7b' :: _ =>
      match depth with
      | 0 => .error (.tooDeep .object)
      | depth + 1 =>
        let inside := (c.advance 1).skipGap
        match inside.rest with
        | '\x7d' :: _ => .ok (.object [], inside.advance 1)
        | _ => readFields fuel depth [] inside
    | _ => readScalar c

/-- The rest of a list, from an item on; `passed` holds the items before
it, in reverse. -/
def readItems : (fuel depth : Nat) → (passed : List Json) → Cursor → Except Flaw (Json × Cursor)
  | 0, _, _, c => .error (.malformed .value c.position)
  | fuel + 1, depth, passed, c => do
    let (item, afterItem) ← readValue fuel depth c
    let next := afterItem.skipGap
    match next.rest with
    | ']' :: _ => return (.list (item :: passed).reverse, next.advance 1)
    | ',' :: _ => readItems fuel depth (item :: passed) (next.advance 1).skipGap
    | _ => throw (.malformed .comma next.position)

/-- The rest of an object, from a field on. -/
def readFields : (fuel depth : Nat) → (passed : List (String × Json)) → Cursor →
    Except Flaw (Json × Cursor)
  | 0, _, _, c => .error (.malformed .value c.position)
  | fuel + 1, depth, passed, c =>
    match c.rest with
    | '"' :: rest => do
      let (key, afterKey) ← readText c.position (c.position + 1) [] rest
      let beforeColon := afterKey.skipGap
      match beforeColon.rest with
      | ':' :: _ =>
        let (value, afterValue) ← readValue fuel depth (beforeColon.advance 1).skipGap
        let next := afterValue.skipGap
        let fields := setField key value passed
        match next.rest with
        | '\x7d' :: _ => return (.object fields, next.advance 1)
        | ',' :: _ => readFields fuel depth fields (next.advance 1).skipGap
        | _ => throw (.malformed .comma next.position)
      | _ => throw (.malformed .colon beforeColon.position)
    | _ => .error (.malformed .propertyName c.position)

end

/-- The document that a text writes. Every step consumes a character or
enters an item, so twice the length is fuel enough. -/
def read (s : List Char) (depths : Depths := .usual) : Except Flaw Json := do
  let (value, after) ← readValue (2 * s.length + 2) depths.reader (Cursor.skipGap ⟨0, s⟩)
  let last := after.skipGap
  if last.rest.isEmpty then return value
  else throw (.malformed .extraData last.position)

/-- The document that a text writes, if the text does not start with a
byte order mark. -/
def readUnmarked (s : List Char) (depths : Depths) : Except Flaw Json :=
  if s.head? = some (Char.ofNat 0xFEFF) then .error (.malformed .unexpectedMark 0)
  else read s depths

end Upkeep.Json
