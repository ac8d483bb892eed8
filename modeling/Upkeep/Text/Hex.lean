/-
Upkeep.Text.Hex — hexadecimal digits, and numbers and octets written in them.
-/
namespace Upkeep.Text

/-- The lower-case hexadecimal digit for a value below sixteen. -/
def hexDigit (n : Nat) : Char :=
  if n < 10 then Char.ofNat (0x30 + n) else Char.ofNat (0x61 + (n - 10))

/-- What a hexadecimal digit of either case is worth. -/
def hexValue? (c : Char) : Option Nat :=
  let n := c.toNat
  if 0x30 ≤ n ∧ n ≤ 0x39 then some (n - 0x30)
  else if 0x61 ≤ n ∧ n ≤ 0x66 then some (n - 0x61 + 10)
  else if 0x41 ≤ n ∧ n ≤ 0x46 then some (n - 0x41 + 10)
  else none

/-- The last `width` hexadecimal digits of a number. -/
def hexPadded : (width : Nat) → (n : Nat) → List Char
  | 0, _ => []
  | width + 1, n => hexPadded width (n / 16) ++ [hexDigit (n % 16)]

theorem isSome_hexValue?_hexDigit : ∀ n < 16, (hexValue? (hexDigit n)).isSome = true := by decide

theorem isSome_hexValue?_of_mem_hexPadded {c : Char} :
    ∀ {width n : Nat}, c ∈ hexPadded width n → (hexValue? c).isSome = true
  | 0, _, h => by cases h
  | width + 1, n, h => by
    rcases List.mem_append.mp h with before | last
    · exact isSome_hexValue?_of_mem_hexPadded before
    · rw [List.mem_singleton.mp last]
      exact isSome_hexValue?_hexDigit _ (Nat.mod_lt n (by decide))

/-- A number in as many hexadecimal digits as asked for, the leading ones
zero. -/
def hexText (width n : Nat) : String := String.ofList (hexPadded width n)

theorem isSome_hexValue?_of_mem_hexText {width n : Nat} {c : Char}
    (h : c ∈ (hexText width n).toList) : (hexValue? c).isSome = true := by
  rw [hexText, String.toList_ofList] at h
  exact isSome_hexValue?_of_mem_hexPadded h

/-- Octets as pairs of hexadecimal digits. -/
def octetsToHex (octets : List UInt8) : String :=
  String.ofList (octets.flatMap fun b => hexPadded 2 b.toNat)

/-- Octets from pairs of hexadecimal digits; nothing if the text is of odd
length or has another character. -/
def octetsOfHex? : List Char → Option (List UInt8)
  | [] => some []
  | a :: b :: rest => do
    let high ← hexValue? a
    let low ← hexValue? b
    let others ← octetsOfHex? rest
    return UInt8.ofNat (16 * high + low) :: others
  | _ => none

end Upkeep.Text
