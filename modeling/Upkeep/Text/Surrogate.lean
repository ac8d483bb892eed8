/-
Upkeep.Text.Surrogate — halves of surrogate pairs inside texts.

A document may name half of a surrogate pair where a character belongs.
Such a half is no character, yet it has to be kept and shown. In a text it
is kept as a code point of a plane to which no characters are assigned;
`charOf` and `codePoint` go back and forth (`codePoint_charOf`).

These code points, U+DD800 to U+DDFFF, are valid, although none of them has
been assigned. So a text that holds one of them by itself cannot be told from
a text with the half that it stands for, and is taken for that one wherever
halves matter: where a text is encoded, quoted, compared or written as a
document. Such texts are left out of account in this development; every other
character stands for itself.
-/
namespace Upkeep.Text

/-- A code point that is half of a surrogate pair. -/
def isSurrogate (n : Nat) : Bool := 0xD800 ≤ n && n ≤ 0xDFFF

/-- How far a half and the code point that it is kept as are apart. -/
def surrogateShift : Nat := 0xD0000

/-- The character that a text has for a code point. -/
def charOf (n : Nat) : Char := Char.ofNat (if isSurrogate n then n + surrogateShift else n)

/-- A character that stands for half of a surrogate pair. -/
def isHalf (c : Char) : Bool :=
  surrogateShift ≤ c.toNat && isSurrogate (c.toNat - surrogateShift)

/-- The code point that a character of a text stands for. -/
def codePoint (c : Char) : Nat := if isHalf c then c.toNat - surrogateShift else c.toNat

theorem toNat_charOf_of_isSurrogate {n : Nat} (h : isSurrogate n = true) :
    (charOf n).toNat = n + surrogateShift := by
  have h' := h
  simp only [isSurrogate, Bool.and_eq_true, decide_eq_true_eq] at h'
  have hv : (n + surrogateShift).isValidChar := by
    right
    unfold surrogateShift
    omega
  unfold charOf
  rw [if_pos h, Char.ofNat, dif_pos hv]
  rfl

/-- A half keeps its code point. -/
theorem codePoint_charOf {n : Nat} (h : isSurrogate n = true) : codePoint (charOf n) = n := by
  have e := toNat_charOf_of_isSurrogate h
  have half : isHalf (charOf n) = true := by
    unfold isHalf
    rw [e, Nat.add_sub_cancel, h, Bool.and_true, decide_eq_true_eq]
    exact Nat.le_add_left _ _
  unfold codePoint
  rw [if_pos half, e, Nat.add_sub_cancel]

end Upkeep.Text
