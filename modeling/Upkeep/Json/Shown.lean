/-
Upkeep.Json.Shown — what keeps a document from being shown.

Showing a document stops at a whole number of more than `Decimal.digitLimit`
digits, and where it is nested deeper than there is room for. Of several
such obstacles the first from left to right is reported (`obstacle?`). How
much room there is depends on the place from which a document is shown
(`Depths`).
-/
import Upkeep.Fault
import Upkeep.Json.Display
import Upkeep.Json.Reader

namespace Upkeep.Json

/-- The report about a whole number that has too many digits to be shown. -/
def tooLong : Fault :=
  ⟨.value,
    s!"Exceeds the limit ({Decimal.digitLimit} digits) for integer string conversion; use sys.set_int_max_str_digits() to increase the limit"⟩

/-- The report about a document that is nested too deep to be shown. -/
def tooNested : Fault :=
  ⟨.tooDeep, "maximum recursion depth exceeded while getting the repr of an object"⟩

mutual

/-- What keeps a document from being shown, if anything does. -/
def obstacle? : (room : Nat) → Json → Option Fault
  | 0, _ => some tooNested
  | _ + 1, .number (.whole n) =>
    if Decimal.Binary64.digitCount n.natAbs > Decimal.digitLimit then some tooLong else none
  | room + 1, .list items => obstacleOfItems? room items
  | room + 1, .object fields => obstacleOfFields? room fields
  | _ + 1, _ => none

/-- What keeps the items of a list from being shown. -/
def obstacleOfItems? : (room : Nat) → List Json → Option Fault
  | _, [] => none
  | room, item :: rest => (obstacle? room item).or (obstacleOfItems? room rest)

/-- What keeps the fields of an object from being shown. -/
def obstacleOfFields? : (room : Nat) → List (String × Json) → Option Fault
  | _, [] => none
  | room, (_, value) :: rest => (obstacle? room value).or (obstacleOfFields? room rest)

end

theorem Depths.message_pos (depths : Depths) : 0 < depths.message :=
  Nat.lt_of_lt_of_le depths.positive depths.reader_le_message

theorem Depths.text_pos (depths : Depths) : 0 < depths.text :=
  Nat.lt_of_lt_of_le depths.positive depths.reader_le_text

@[simp] theorem obstacle?_zero (j : Json) : obstacle? 0 j = some tooNested := by
  cases j <;> rfl

@[simp] theorem obstacle?_whole (room : Nat) (n : Int) :
    obstacle? (room + 1) (.number (.whole n)) =
      if Decimal.Binary64.digitCount n.natAbs > Decimal.digitLimit then some tooLong else none :=
  rfl

@[simp] theorem obstacle?_list (room : Nat) (items : List Json) :
    obstacle? (room + 1) (.list items) = obstacleOfItems? room items := rfl

@[simp] theorem obstacle?_object (room : Nat) (fields : List (String × Json)) :
    obstacle? (room + 1) (.object fields) = obstacleOfFields? room fields := rfl

@[simp] theorem obstacleOfItems?_nil (room : Nat) : obstacleOfItems? room [] = none := rfl

@[simp] theorem obstacleOfItems?_cons (room : Nat) (item : Json) (rest : List Json) :
    obstacleOfItems? room (item :: rest) = (obstacle? room item).or (obstacleOfItems? room rest) :=
  rfl

@[simp] theorem obstacleOfFields?_nil (room : Nat) : obstacleOfFields? room [] = none := rfl

@[simp] theorem obstacleOfFields?_cons (room : Nat) (f : String × Json)
    (rest : List (String × Json)) :
    obstacleOfFields? room (f :: rest) = (obstacle? room f.2).or (obstacleOfFields? room rest) :=
  rfl

/-- What can be shown in the least room holds no other value, so it can be
shown in any room. -/
theorem obstacle?_of_pos {room : Nat} (h : 0 < room) {j : Json} (shown : obstacle? 1 j = none) :
    obstacle? room j = none := by
  obtain ⟨n, rfl⟩ := Nat.exists_eq_add_one.mpr h
  cases j with
  | null | bool _ | text _ => rfl
  | number x => cases x <;> exact shown
  | list items =>
    cases items with
    | nil => rfl
    | cons item rest => simp at shown
  | object fields =>
    cases fields with
    | nil => rfl
    | cons field rest => simp at shown

/-- The document taken as a text, if it can be shown. -/
def toText (j : Json) (depths : Depths) : Except Fault String :=
  match j.obstacle? depths.text with
  | some fault => .error fault
  | none => .ok j.asText

theorem toText_text (s : String) (depths : Depths) : (text s).toText depths = .ok s := by
  unfold toText
  rw [obstacle?_of_pos depths.text_pos rfl]
  rfl

end Upkeep.Json
