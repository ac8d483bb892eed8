/-
Upkeep.Encoding.Detection — reading a document whose encoding is not said.

A byte order mark tells the encoding and is not part of the text. Without
one the zero octets do: a document starts with an ASCII character, so in
UTF-16 and UTF-32 its first four octets have zeros in known places.
-/
import Upkeep.Encoding.Utf8
import Upkeep.Encoding.Utf16
import Upkeep.Encoding.Utf32

namespace Upkeep.Encoding

/-- The encoding of a document, and the length of its byte order mark. -/
def detect : List UInt8 → Scheme × Nat
  | 0x00 :: 0x00 :: 0xFE :: 0xFF :: _ => (.utf32 true, 4)
  | 0xFF :: 0xFE :: 0x00 :: 0x00 :: _ => (.utf32 false, 4)
  | 0xFE :: 0xFF :: _ => (.utf16 true, 2)
  | 0xFF :: 0xFE :: _ => (.utf16 false, 2)
  | 0xEF :: 0xBB :: 0xBF :: _ => (.utf8, 3)
  | a :: b :: c :: d :: _ =>
    if a == 0 then (if b == 0 then .utf32 true else .utf16 true, 0)
    else if b == 0 then (if c == 0 && d == 0 then .utf32 false else .utf16 false, 0)
    else (.utf8, 0)
  | [a, b] =>
    if a == 0 then (.utf16 true, 0)
    else if b == 0 then (.utf16 false, 0)
    else (.utf8, 0)
  | _ => (.utf8, 0)

/-- The text of a document. Positions in a report count from the start of
the octets, except that a UTF-8 mark is not counted. -/
def decodeDocument (octets : List UInt8) : Except Undecodable (List Char) :=
  match detect octets with
  | (.utf8, mark) => Utf8.decode (octets.drop mark)
  | (.utf16 bigEndian, mark) => Utf16.decode bigEndian mark (octets.drop mark)
  | (.utf32 bigEndian, mark) => Utf32.decode bigEndian mark (octets.drop mark)

end Upkeep.Encoding
