/-
Upkeep.Json.Display — a JSON document as it is shown inside a message.

Texts stand between quotation marks, lists in brackets, objects in braces;
items are parted by a comma and a blank, and the three constants are
`None`, `True` and `False`.
-/
import Upkeep.Json.Value
import Upkeep.Text.Quoted

namespace Upkeep.Json

/-- The words for the two truth values. -/
def truthWord (b : Bool) : String := if b then "True" else "False"

mutual

/-- The document as it is shown inside a message. -/
def display : Json → String
  | .null => "None"
  | .bool b => truthWord b
  | .number n => n.text
  | .text s => Text.quote s
  | .list items => "[" ++ displayItems items ++ "]"
  | .object fields => "\x7b" ++ displayFields fields ++ "\x7d"

/-- The items of a list, parted by commas. -/
def displayItems : List Json → String
  | [] => ""
  | [item] => display item
  | item :: rest => display item ++ ", " ++ displayItems rest

/-- The fields of an object, parted by commas. -/
def displayFields : List (String × Json) → String
  | [] => ""
  | [(key, value)] => Text.quote key ++ ": " ++ display value
  | (key, value) :: rest =>
    Text.quote key ++ ": " ++ display value ++ ", " ++ displayFields rest

end

/-- The document taken as a text: a text is itself, anything else is as it
is shown. -/
def asText : Json → String
  | .text s => s
  | j => display j

/-- The word for the kind of a document, in messages. -/
def kindWord : Json → String
  | .null => "NoneType"
  | .bool _ => "bool"
  | .number (.whole _) => "int"
  | .number (.double _) => "float"
  | .text _ => "str"
  | .list _ => "list"
  | .object _ => "dict"

end Upkeep.Json
