/-
Upkeep.Encoding.Base64 — reading base64 strictly.

Four characters of the alphabet are three octets. The last group may have
two or three characters of the alphabet, filled up to four with `=`; the
bits that it has too many are ignored. After complete groups any number of
`=` may stand, but not at the very start. Anything else does not decode.
-/
namespace Upkeep.Encoding.Base64

/-- The filler of the last group. -/
def pad : Char := '='

/-- What a character of the alphabet is worth. -/
def value? (c : Char) : Option Nat :=
  let n := c.toNat
  if 0x41 ≤ n ∧ n ≤ 0x5A then some (n - 0x41)
  else if 0x61 ≤ n ∧ n ≤ 0x7A then some (n - 0x61 + 26)
  else if 0x30 ≤ n ∧ n ≤ 0x39 then some (n - 0x30 + 52)
  else if c = '+' then some 62
  else if c = '/' then some 63
  else none

/-- The first octet of a group. -/
def octet1 (a b : Nat) : UInt8 := UInt8.ofNat (a * 4 + b / 16)

/-- The second octet of a group. -/
def octet2 (b c : Nat) : UInt8 := UInt8.ofNat (b % 16 * 16 + c / 4)

/-- The third octet of a group. -/
def octet3 (c d : Nat) : UInt8 := UInt8.ofNat (c % 4 * 64 + d)

/-- What may follow complete groups without being one. -/
def decodeEnd (s : List Char) : Option (List UInt8) :=
  if s.all (· == pad) then some [] else none

/-- The octets of a text that starts at the beginning of a group. -/
def decodeGroups : List Char → Option (List UInt8)
  | a :: b :: c :: d :: rest =>
    match value? a, value? b, value? c, value? d with
    | some w, some x, some y, some z =>
      (decodeGroups rest).map ([octet1 w x, octet2 x y, octet3 y z] ++ ·)
    | some w, some x, some y, none =>
      if d = pad ∧ rest = [] then some [octet1 w x, octet2 x y] else none
    | some w, some x, none, none =>
      if c = pad ∧ d = pad ∧ rest = [] then some [octet1 w x] else none
    | _, _, _, _ => decodeEnd (a :: b :: c :: d :: rest)
  | s => decodeEnd s

/-- The octets that a text encodes, if it is well formed. -/
def decode (s : List Char) : Option (List UInt8) :=
  if s.head? = some pad then none else decodeGroups s

end Upkeep.Encoding.Base64
