/-
Upkeep.Encoding.Scheme — the encodings in which a document may arrive, and
what is reported when octets do not decode.
-/
import Upkeep.Text.Hex

namespace Upkeep.Encoding

/-- An encoding of Unicode text in octets. -/
inductive Scheme
  | utf8
  | utf16 (bigEndian : Bool)
  | utf32 (bigEndian : Bool)
  deriving DecidableEq, Repr

/-- The name of an encoding in messages. -/
def Scheme.name : Scheme → String
  | .utf8 => "utf-8"
  | .utf16 false => "utf-16-le"
  | .utf16 true => "utf-16-be"
  | .utf32 false => "utf-32-le"
  | .utf32 true => "utf-32-be"

/-- Why octets do not decode. -/
inductive Reason
  | invalidStart
  | invalidContinuation
  | unexpectedEnd
  | truncated
  | outOfRange
  deriving DecidableEq, Repr

/-- The wording of a reason. -/
def Reason.text : Reason → String
  | .invalidStart => "invalid start byte"
  | .invalidContinuation => "invalid continuation byte"
  | .unexpectedEnd => "unexpected end of data"
  | .truncated => "truncated data"
  | .outOfRange => "code point not in range(0x110000)"

/-- Octets that do not decode: the positions of the first and of the last
of them, and the first octet itself. -/
structure Undecodable where
  scheme : Scheme
  first : Nat
  last : Nat
  octet : UInt8
  reason : Reason
  deriving DecidableEq, Repr

/-- The report about octets that do not decode; a single one is shown. -/
def Undecodable.message (u : Undecodable) : String :=
  if u.first == u.last then
    s!"'{u.scheme.name}' codec can't decode byte 0x{Text.hexText 2 u.octet.toNat} in position {u.first}: {u.reason.text}"
  else
    s!"'{u.scheme.name}' codec can't decode bytes in position {u.first}-{u.last}: {u.reason.text}"

end Upkeep.Encoding
