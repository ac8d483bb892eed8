/-
Upkeep.Json.Writer — writing JSON in ASCII.

Characters beyond printable ASCII are written by the hexadecimal digits of
their UTF-16 units, a surrogate by its own. `compact` puts no blanks,
`pretty` puts each item on a line of its own, indented by two blanks for
each level.
-/
import Upkeep.Json.Value
import Upkeep.Text.Hex
import Upkeep.Text.Surrogate

namespace Upkeep.Json

/-! ## 1. Texts -/

/-- One UTF-16 unit as an escape. -/
def unitEscape (n : Nat) : List Char := '\\' :: 'u' :: Text.hexPadded 4 n

/-- One character inside a text. -/
def writeChar (c : Char) : List Char :=
  let n := Text.codePoint c
  if c == '"' || c == '\\' then ['\\', c]
  else if 0x20 ≤ n && n ≤ 0x7E then [c]
  else if n == 0x0A then ['\\', 'n']
  else if n == 0x0D then ['\\', 'r']
  else if n == 0x09 then ['\\', 't']
  else if n == 0x08 then ['\\', 'b']
  else if n == 0x0C then ['\\', 'f']
  else if n < 0x10000 then unitEscape n
  else unitEscape (0xD800 + (n - 0x10000) / 0x400) ++ unitEscape (0xDC00 + (n - 0x10000) % 0x400)

/-- A text between double quotes. -/
def writeText (s : String) : String :=
  String.ofList ('"' :: s.toList.flatMap writeChar ++ ['"'])

/-- A number. -/
def writeNumber : Decimal.Number → String
  | .double .nan => "NaN"
  | .double (.infinite negative) => if negative then "-Infinity" else "Infinity"
  | n => n.text

/-! ## 2. On one line -/

mutual

/-- The document on one line without blanks. -/
def compact : Json → String
  | .null => "null"
  | .bool b => if b then "true" else "false"
  | .number n => writeNumber n
  | .text s => writeText s
  | .list items => "[" ++ compactItems items ++ "]"
  | .object fields => "\x7b" ++ compactFields fields ++ "\x7d"

/-- The items of a list, parted by commas. -/
def compactItems : List Json → String
  | [] => ""
  | [item] => compact item
  | item :: rest => compact item ++ "," ++ compactItems rest

/-- The fields of an object, parted by commas. -/
def compactFields : List (String × Json) → String
  | [] => ""
  | [(key, value)] => writeText key ++ ":" ++ compact value
  | (key, value) :: rest =>
    writeText key ++ ":" ++ compact value ++ "," ++ compactFields rest

end

/-! ## 3. On several lines -/

/-- A new line at a level of indentation. -/
def newLine (level : Nat) : String := "\n" ++ String.ofList (List.replicate (2 * level) ' ')

mutual

/-- The document with an item on each line, seen from a level. -/
def prettyAt (level : Nat) : Json → String
  | .list (item :: items) =>
    "[" ++ prettyItems (level + 1) (item :: items) ++ newLine level ++ "]"
  | .object (first :: fields) =>
    "\x7b" ++ prettyFields (level + 1) (first :: fields) ++ newLine level ++ "\x7d"
  | .list [] => "[]"
  | .object [] => "\x7b\x7d"
  | .null => "null"
  | .bool b => if b then "true" else "false"
  | .number n => writeNumber n
  | .text s => writeText s

/-- The items of a list, each on its line. -/
def prettyItems (level : Nat) : List Json → String
  | [] => ""
  | [item] => newLine level ++ prettyAt level item
  | item :: rest => newLine level ++ prettyAt level item ++ "," ++ prettyItems level rest

/-- The fields of an object, each on its line. -/
def prettyFields (level : Nat) : List (String × Json) → String
  | [] => ""
  | [(key, value)] => newLine level ++ writeText key ++ ": " ++ prettyAt level value
  | (key, value) :: rest =>
    newLine level ++ writeText key ++ ": " ++ prettyAt level value ++ "," ++
      prettyFields level rest

end

/-- The document on several lines. -/
def pretty (j : Json) : String := prettyAt 0 j

end Upkeep.Json
