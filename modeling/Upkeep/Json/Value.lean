/-
Upkeep.Json.Value — JSON documents.

Numbers keep whether they were written whole or with a point or exponent;
whole numbers are unbounded. An object keeps its fields in the order of
their first appearance (`setField`), and a field that is written again
takes its last value.
-/
import Upkeep.Decimal.Notation

namespace Upkeep

/-- A JSON document. -/
inductive Json
  | null
  | bool (b : Bool)
  | number (n : Decimal.Number)
  | text (s : String)
  | list (items : List Json)
  | object (fields : List (String × Json))
  deriving BEq, Repr, Inhabited

namespace Json

/-! ## 1. Fields -/

/-- The fields with one field set: in its old place if it is there, at the
end otherwise. -/
def setField (key : String) (value : Json) : List (String × Json) → List (String × Json)
  | [] => [(key, value)]
  | (k, v) :: rest =>
    if k == key then (k, value) :: rest else (k, v) :: setField key value rest

/-- The value of a field. -/
def field? (key : String) : List (String × Json) → Option Json
  | [] => none
  | (k, v) :: rest => if k == key then some v else field? key rest

/-- The value of a field of an object. -/
def get? (key : String) : Json → Option Json
  | .object fields => field? key fields
  | _ => none

theorem field?_setField_self (key : String) (value : Json) :
    ∀ fields, field? key (setField key value fields) = some value
  | [] => by simp [setField, field?]
  | (k, v) :: rest => by
      by_cases h : k = key
      · simp [setField, field?, h]
      · simp [setField, field?, h, field?_setField_self key value rest]

theorem field?_setField_of_ne {key other : String} (h : other ≠ key) (value : Json) :
    ∀ fields, field? other (setField key value fields) = field? other fields
  | [] => by simp [setField, field?, Ne.symm h]
  | (k, v) :: rest => by
      by_cases hk : k = key
      · subst hk; simp [setField, field?, Ne.symm h]
      · simp [setField, field?, hk, field?_setField_of_ne h value rest]

/-- The text that a value is. -/
def text? : Json → Option String
  | .text s => some s
  | _ => none

/-! ## 2. What counts as given -/

/-- The value is not null, false, zero or empty. -/
def isGiven : Json → Bool
  | .null => false
  | .bool b => b
  | .number (.whole n) => n != 0
  | .number (.double x) => !x.isZero
  | .text s => !s.isEmpty
  | .list items => !items.isEmpty
  | .object fields => !fields.isEmpty

/-- The value if it is given. -/
def given? (j : Json) : Option Json := if j.isGiven then some j else none

end Json

end Upkeep
