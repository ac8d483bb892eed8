/-
Upkeep.Bundle — the scripts of a resource and what they are given.

A bundle has four script bodies, named values for their placeholders, and
whether they run with raised privileges. A body is kept as it was written:
one that is not given is empty and means that its phase is skipped, and
only a text can be run.

`ofDocument` accepts several spellings of each key, `toDocument` writes one.
-/
import Upkeep.Failure
import Upkeep.Items
import Upkeep.Text.Substitution

namespace Upkeep

/-- A named value for placeholders. -/
structure Variable where
  name : String
  value : String
  deriving DecidableEq, Repr

/-- The body of a script as it was written. -/
abbrev Script := Json

/-- No script. -/
def noScript : Script := .text ""

/-- The body that a value stands for: itself if it is given. -/
def scriptOf (written : Json) : Script := written.given?.getD noScript

/-- The four scripts of a resource, their variables, and whether they run
with raised privileges. -/
structure Bundle where
  init : Script := noScript
  statusCheck : Script := noScript
  update : Script := noScript
  cleanup : Script := noScript
  vars : List Variable := []
  privileged : Bool := false
  deriving BEq, Repr

namespace Bundle

/-! ## 1. Spellings of the keys -/

/-- The keys of the script that prepares a resource. -/
def initKeys : List String := ["init", "initScript", "init_script"]

/-- The keys of the script that reports the state of a resource. -/
def statusCheckKeys : List String :=
  ["status_check", "statusCheck", "statusCheckScript", "status_check_script"]

/-- The keys of the script that brings a resource up to date. -/
def updateKeys : List String := ["update", "updateScript", "update_script"]

/-- The keys of the script that clears a resource away. -/
def cleanupKeys : List String := ["cleanup", "cleanupScript", "cleanup_script"]

/-- The keys of the flag for raised privileges. -/
def privilegeKeys : List String := ["sudoEnabled", "sudo_enabled"]

/-! ## 2. Reading -/

/-- The value of the first of the keys that the fields have. -/
def firstField? (fields : List (String × Json)) (keys : List String) : Option Json :=
  keys.findSome? fun key => Json.field? key fields

/-- The body under the first of the keys. -/
def bodyOf (fields : List (String × Json)) (keys : List String) : Script :=
  ((firstField? fields keys).map scriptOf).getD noScript

/-- One variable. It must have a name; name and value are taken as texts. -/
def readVariable (entry : Json) (depths : Json.Depths) : Except Problem Variable :=
  match (entry.get? "name").bind Json.given? with
  | some given => do
    let name ← (given.toText depths).mapError Problem.fault
    let value ← (((entry.get? "value").getD (.text "")).toText depths).mapError Problem.fault
    return ⟨name, value⟩
  | none => .error (.refusing depths entry (.namelessVariable entry))

/-- The variables of a bundle; a value that is not given means none. -/
def readVariables (written : Json) (depths : Json.Depths) : Except Problem (List Variable) := do
  let entries ← match written.given? with
    | none => .ok []
    | some given => given.items.mapError Problem.fault
  entries.mapM (readVariable · depths)

/-- The bundle that the fields of a document write. -/
def ofFields (fields : List (String × Json)) (depths : Json.Depths := .usual) :
    Except Problem Bundle := do
  let vars ← readVariables ((Json.field? "variables" fields).getD .null) depths
  return {
    init := bodyOf fields initKeys
    statusCheck := bodyOf fields statusCheckKeys
    update := bodyOf fields updateKeys
    cleanup := bodyOf fields cleanupKeys
    vars := vars
    privileged := ((firstField? fields privilegeKeys).map Json.isGiven).getD false }

/-- A key of a script occurs in a value that is no object: as an item of a
list, or anywhere in a text. -/
def mentionsKey (j : Json) : Bool :=
  let keys := initKeys ++ statusCheckKeys ++ updateKeys ++ cleanupKeys
  match j with
  | .list items => keys.any fun key => items.contains (.text key)
  | .text s => keys.any fun key => Text.occursIn key.toList s.toList
  | _ => false

/-- The report about a value that is no document of a bundle. -/
def unreadable (j : Json) : Fault :=
  match j with
  | .list _ =>
    if mentionsKey j then ⟨.wrongType, "list indices must be integers or slices, not str"⟩
    else ⟨.missingAttribute, "'list' object has no attribute 'get'"⟩
  | .text _ =>
    if mentionsKey j then ⟨.wrongType, "string indices must be integers, not 'str'"⟩
    else ⟨.missingAttribute, "'str' object has no attribute 'get'"⟩
  | j => ⟨.wrongType, s!"argument of type '{j.kindWord}' is not iterable"⟩

/-- The bundle that a document writes. -/
def ofDocument (document : Json) (depths : Json.Depths := .usual) :
    Except Problem Bundle :=
  match document with
  | .object fields => ofFields fields depths
  | j => .error (.fault (unreadable j))

/-! ## 3. Writing -/

/-- A variable as a document. -/
def variableDocument (v : Variable) : Json :=
  .object [("name", .text v.name), ("value", .text v.value)]

/-- The fields of the document for a bundle. -/
def toFields (b : Bundle) : List (String × Json) := [
  ("initScript", b.init),
  ("statusCheckScript", b.statusCheck),
  ("updateScript", b.update),
  ("cleanupScript", b.cleanup),
  ("variables", .list (b.vars.map variableDocument)),
  ("sudoEnabled", .bool b.privileged)]

/-- The document for a bundle. -/
def toDocument (b : Bundle) : Json := .object b.toFields

end Bundle

end Upkeep
