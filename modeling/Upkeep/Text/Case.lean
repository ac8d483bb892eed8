/-
Upkeep.Text.Case — upper-case and lower-case forms of a text.

Each character is mapped by itself, possibly to several, with one
exception: a capital sigma that ends a word becomes the final sigma. It
ends a word if a cased character comes before it and none after it,
where `caseIgnorable` characters are passed over on both sides.
-/
import Upkeep.Text.CaseTable

namespace Upkeep.Text

/-! ## 1. Single characters -/

/-- The form of a code point beyond ASCII by a list of expansions and runs. -/
def mapCase (expansions : List (Nat × List Nat)) (runs : List Run) (n : Nat) : List Char :=
  match expansions.find? (·.1 == n) with
  | some e => e.2.map Char.ofNat
  | none => [Char.ofNat ((runs.findSome? (·.image? n)).getD n)]

/-- The lower-case form of a character, seen by itself. -/
def lowerChar (c : Char) : List Char :=
  if c.toNat < 0x80 then [c.toLower] else mapCase lowerExpansions lowerRuns c.toNat

/-- The upper-case form of a character. -/
def upperChar (c : Char) : List Char :=
  if c.toNat < 0x80 then [c.toUpper] else mapCase upperExpansions upperRuns c.toNat

/-! ## 2. The final sigma -/

/-- A character that is passed over when the neighbours of a sigma are
looked at. -/
def isCaseIgnorable (c : Char) : Bool := inRanges caseIgnorableRanges c.toNat

/-- A character that has case and is not passed over. -/
def isCased (c : Char) : Bool := inRanges casedRanges c.toNat

/-- The nearest character that is not passed over has case. -/
def meetsCased (s : List Char) : Bool :=
  ((s.dropWhile isCaseIgnorable).head?.map isCased).getD false

/-! ## 3. Whole texts -/

/-- The lower-case form of a text that comes after `before`, which is in
reverse. -/
def lowerAfter (before : List Char) : List Char → List Char
  | [] => []
  | c :: rest =>
    (if c == 'Σ' then (if meetsCased before && !meetsCased rest then ['ς'] else ['σ'])
     else lowerChar c) ++ lowerAfter (c :: before) rest

/-- The lower-case form of a string. -/
def lower (s : String) : String := String.ofList (lowerAfter [] s.toList)

/-- The upper-case form of a string. -/
def upper (s : String) : String := String.ofList (s.toList.flatMap upperChar)

end Upkeep.Text
