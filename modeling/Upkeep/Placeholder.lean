/-
Upkeep.Placeholder — filling the placeholders of a script.

The placeholder of a variable is its name between double braces. The text
is gone through once from the left. At each place the placeholders are
tried in turn, longer ones first; one that the text goes on with is replaced
by the value of its variable and reading goes on behind it, and if none does
a character is kept. Of variables with one name the last one counts.
-/
import Upkeep.Bundle
import Upkeep.Text.Substitution

namespace Upkeep.Placeholder

/-- The placeholder for a name. -/
def ofName (name : String) : List Char := '\x7b' :: '\x7b' :: name.toList ++ ['\x7d', '\x7d']

/-- A placeholder and what stands for it. -/
abbrev Binding := List Char × List Char

/-- The bindings with one set: in its old place if its placeholder is
bound, at the end otherwise. -/
def bind (key value : List Char) : List Binding → List Binding
  | [] => [(key, value)]
  | (k, v) :: rest => if k == key then (k, value) :: rest else (k, v) :: bind key value rest

/-- The bindings of the variables, each placeholder once. -/
def bindings (vars : List Variable) : List Binding :=
  vars.foldl (fun bound v => bind (ofName v.name) v.value.toList bound) []

/-- The bindings in the order in which they are tried: longer placeholders
first. -/
def inTurn (bound : List Binding) : List Binding :=
  bound.mergeSort fun a b => b.1.length ≤ a.1.length

/-- What stands for the placeholder that a text starts with: the first of
the bindings that are tried. -/
def rule (tried : List Binding) : Text.Rule := fun s =>
  (tried.find? fun b => b.1.isPrefixOf s).map fun b => (b.1.length, b.2)

/-- The script with its placeholders filled. -/
def fill (script : String) (vars : List Variable) : String :=
  String.ofList (Text.substitute (rule (inTurn (bindings vars))) script.toList)

end Upkeep.Placeholder
