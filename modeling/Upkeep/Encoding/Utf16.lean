/-
Upkeep.Encoding.Utf16 — reading UTF-16, in either order of octets. A
surrogate without its partner is kept as one character; the only octet
that does not decode is one left over at the end.
-/
import Upkeep.Encoding.Scheme
import Upkeep.Text.Surrogate

namespace Upkeep.Encoding.Utf16

/-- A unit from its two octets. -/
def unit (bigEndian : Bool) (a b : UInt8) : Nat :=
  if bigEndian then a.toNat * 256 + b.toNat else b.toNat * 256 + a.toNat

/-- The units of the octets, or the octet left over. -/
def units (bigEndian : Bool) : (position : Nat) → List UInt8 → Except Undecodable (List Nat)
  | _, [] => .ok []
  | position, [a] => .error ⟨.utf16 bigEndian, position, position, a, .truncated⟩
  | position, a :: b :: rest =>
    (unit bigEndian a b :: ·) <$> units bigEndian (position + 2) rest

/-- The first half of a surrogate pair. -/
def isHigh (n : Nat) : Bool := 0xD800 ≤ n && n ≤ 0xDBFF

/-- The second half of a surrogate pair. -/
def isLow (n : Nat) : Bool := 0xDC00 ≤ n && n ≤ 0xDFFF

/-- The code point that a surrogate pair encodes. -/
def joinPair (high low : Nat) : Nat := 0x10000 + (high - 0xD800) * 0x400 + (low - 0xDC00)

/-- The characters of the units. -/
def chars : List Nat → List Char
  | [] => []
  | [n] => [Text.charOf n]
  | a :: b :: rest =>
    if isHigh a && isLow b then Char.ofNat (joinPair a b) :: chars rest
    else Text.charOf a :: chars (b :: rest)

/-- The text of the octets, the first of which is at `position`. -/
def decode (bigEndian : Bool) (position : Nat) (octets : List UInt8) :
    Except Undecodable (List Char) :=
  chars <$> units bigEndian position octets

end Upkeep.Encoding.Utf16
