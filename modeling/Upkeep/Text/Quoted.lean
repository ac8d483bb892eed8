/-
Upkeep.Text.Quoted — a text as it is shown inside a message: between
quotation marks, with escapes for what cannot be shown.

The mark is the apostrophe, unless the text has an apostrophe and no
double quote. Backslash, the mark itself, tab, line feed and carriage
return have short escapes; any other character that is not printable is
written by its code point in two, four or eight hexadecimal digits.
-/
import Upkeep.Text.Hex
import Upkeep.Text.Printable
import Upkeep.Text.Surrogate

namespace Upkeep.Text

/-- The quotation mark for a text. -/
def quotationMark (s : List Char) : Char :=
  if s.contains '\'' && !s.contains '"' then '"' else '\''

/-- A code point in two, four or eight hexadecimal digits. -/
def escapeCode (n : Nat) : List Char :=
  if n < 0x100 then '\\' :: 'x' :: hexPadded 2 n
  else if n < 0x10000 then '\\' :: 'u' :: hexPadded 4 n
  else '\\' :: 'U' :: hexPadded 8 n

/-- One character between the given marks. -/
def quoteChar (mark c : Char) : List Char :=
  if c == mark || c == '\\' then ['\\', c]
  else if c == '\t' then ['\\', 't']
  else if c == '\n' then ['\\', 'n']
  else if c == '\r' then ['\\', 'r']
  else if isPrintable c then [c]
  else escapeCode (codePoint c)

/-- The text between quotation marks. -/
def quote (s : String) : String :=
  let mark := quotationMark s.toList
  String.ofList (mark :: s.toList.flatMap (quoteChar mark) ++ [mark])

/-- A text with every character beyond ASCII written by its code point. -/
def escapeNonAscii (s : List Char) : List Char :=
  s.flatMap fun c => if c.toNat < 0x80 then [c] else escapeCode (codePoint c)

end Upkeep.Text
