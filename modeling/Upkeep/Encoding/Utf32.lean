/-
Upkeep.Encoding.Utf32 — reading UTF-32, in either order of octets. A
surrogate is kept as one character; a number above the last code point and
octets left over at the end do not decode.
-/
import Upkeep.Encoding.Scheme
import Upkeep.Text.Surrogate

namespace Upkeep.Encoding.Utf32

/-- A code point from its four octets. -/
def unit (bigEndian : Bool) (a b c d : UInt8) : Nat :=
  if bigEndian then ((a.toNat * 256 + b.toNat) * 256 + c.toNat) * 256 + d.toNat
  else ((d.toNat * 256 + c.toNat) * 256 + b.toNat) * 256 + a.toNat

/-- The text of the octets, the first of which is at `position`. -/
def decode (bigEndian : Bool) : (position : Nat) → List UInt8 → Except Undecodable (List Char)
  | _, [] => .ok []
  | position, a :: b :: c :: d :: rest =>
    let n := unit bigEndian a b c d
    if n < 0x110000 then
      (Text.charOf n :: ·) <$> decode bigEndian (position + 4) rest
    else .error ⟨.utf32 bigEndian, position, position + 3, a, .outOfRange⟩
  | position, a :: rest =>
    .error ⟨.utf32 bigEndian, position, position + rest.length, a, .truncated⟩

end Upkeep.Encoding.Utf32
