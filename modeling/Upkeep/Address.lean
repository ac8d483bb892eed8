/-
Upkeep.Address — addresses of remote hosts.

An address is a dotted quad or a name of at least two labels. The shape of
a quad is looked at first, with digits of any script; what has that shape
is judged as a quad alone. A name may end in dots, and its labels consist
of ASCII letters, digits, underscores and inner hyphens; a label may be
followed by one line feed, which the end of a line allows. A name of
digits alone is no name.
-/
import Upkeep.Failure
import Upkeep.Text.Digit

namespace Upkeep.Address

open Upkeep.Text

/-! ## 1. Parts between dots -/

/-- The parts of a text between the occurrences of a separator. -/
def splitAt (separator : Char) : List Char → List (List Char)
  | [] => [[]]
  | c :: rest =>
    if c == separator then [] :: splitAt separator rest
    else match splitAt separator rest with
      | [] => [[c]]
      | part :: parts => (c :: part) :: parts

/-- The text without one line feed at its end. -/
def dropFinalNewline (s : List Char) : List Char :=
  match s.reverse with
  | '\n' :: before => before.reverse
  | _ => s

/-! ## 2. Dotted quads -/

/-- One to three decimal digits of any script. -/
def hasOctetShape (part : List Char) : Bool :=
  !part.isEmpty && part.length ≤ 3 && part.all isDecimalDigit

/-- Four parts of the shape of octets, the last one possibly with a line
feed behind it. -/
def hasQuadShape (host : List Char) : Bool :=
  match splitAt '.' host with
  | [a, b, c, d] =>
    hasOctetShape a && hasOctetShape b && hasOctetShape c && hasOctetShape (dropFinalNewline d)
  | _ => false

/-- The number that ASCII digits write. -/
def octetValue (part : List Char) : Nat := part.foldl (fun n c => n * 10 + (c.toNat - 0x30)) 0

/-- A decimal octet: ASCII digits without leading zero, at most 255. -/
def isOctet (part : List Char) : Bool :=
  !part.isEmpty && part.length ≤ 3 && part.all isAsciiDigit &&
    (part == ['0'] || part.head? != some '0') && octetValue part ≤ 255

/-- Four decimal octets. -/
def isQuad (host : List Char) : Bool :=
  match splitAt '.' host with
  | [a, b, c, d] => isOctet a && isOctet b && isOctet c && isOctet d
  | _ => false

/-! ## 3. Names -/

/-- A character at the edge of a label. -/
def isEdge (c : Char) : Bool :=
  let n := c.toNat
  (0x30 ≤ n && n ≤ 0x39) || (0x41 ≤ n && n ≤ 0x5A) || c == '_' || (0x61 ≤ n && n ≤ 0x7A)

/-- A character inside a label. -/
def isInner (c : Char) : Bool := isEdge c || c == '-'

/-- The greatest length of a label. -/
def labelLimit : Nat := 63

/-- A label, possibly with a line feed behind it. -/
def isLabel (part : List Char) : Bool :=
  let label := dropFinalNewline part
  !label.isEmpty && label.length ≤ labelLimit && label.all isInner &&
    (label.head?.map isEdge).getD false && (label.getLast?.map isEdge).getD false

/-- The part is a number, in any digits. -/
def isNumeric (part : List Char) : Bool := !part.isEmpty && part.all isDigitLike

/-- A name of at least two labels. -/
def isName (host : List Char) : Bool :=
  let labels := splitAt '.' (dropEndWhile (· == '.') host)
  2 ≤ labels.length && !labels.all isNumeric && labels.all isLabel

/-! ## 4. Hosts -/

/-- The greatest length of an address. -/
def lengthLimit : Nat := 253

/-- The address of a remote host. -/
def isValid (host : List Char) : Bool :=
  !host.isEmpty && host.length ≤ lengthLimit &&
    (if hasQuadShape host then isQuad host else isName host)

/-- The text is the address of a remote host. -/
def isValidHost (host : String) : Bool := isValid host.toList

/-- The host itself if its address is valid. -/
def checkHost (host : String) : Except Failure String :=
  if host.isEmpty then .error (.misconfigured .noHost)
  else if isValidHost host then .ok host
  else .error (.misconfigured (.invalidHost (.text host)))

end Upkeep.Address
