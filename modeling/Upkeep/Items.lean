/-
Upkeep.Items — values that are gone through item by item, and values that
are made into fields.

A list has its items, a text its characters and an object its keys; other
values have no items. An object is its own fields. Of any other value with
items, each item has to be a pair of a key and a value, so that a list of
pairs has fields too.
-/
import Upkeep.Fault
import Upkeep.Json.Display

namespace Upkeep.Json

/-- The items of a value that has any. -/
def items? : Json → Option (List Json)
  | .list items => some items
  | .text s => some (s.toList.map fun c => .text c.toString)
  | .object fields => some (fields.map fun f => .text f.1)
  | _ => none

/-- The items of a value. -/
def items (j : Json) : Except Fault (List Json) :=
  match j.items? with
  | some items => .ok items
  | none => .error ⟨.wrongType, s!"'{j.kindWord}' object is not iterable"⟩

/-- The value cannot be a key. -/
def isContainer : Json → Bool
  | .list _ | .object _ => true
  | _ => false

/-- A value in the place of a key, if it can be one. -/
def asKey (j : Json) : Except Fault Json :=
  if j.isContainer then .error ⟨.wrongType, s!"unhashable type: '{j.kindWord}'"⟩ else .ok j

/-- The pair that an item is; `index` is its place among the items. -/
def pairOf (index : Nat) (item : Json) : Except Fault (Json × Json) :=
  match item.items? with
  | none =>
    .error ⟨.wrongType,
      s!"cannot convert dictionary update sequence element #{index} to a sequence"⟩
  | some [key, value] => do return (← key.asKey, value)
  | some items =>
    .error ⟨.value,
      s!"dictionary update sequence element #{index} has length {items.length}; 2 is required"⟩

/-- The fields that pairs set, the first of which is at `index`, on top of
others. A key that is not a text names no field. -/
def fieldsOfPairs (index : Nat) (fields : List (String × Json)) :
    List Json → Except Fault (List (String × Json))
  | [] => .ok fields
  | item :: rest => do
    let (key, value) ← pairOf index item
    let set := match key with
      | .text name => setField name value fields
      | _ => fields
    fieldsOfPairs (index + 1) set rest

/-- The fields of a value. -/
def fields (j : Json) : Except Fault (List (String × Json)) :=
  match j with
  | .object fields => .ok fields
  | j => do fieldsOfPairs 0 [] (← j.items)

end Upkeep.Json
