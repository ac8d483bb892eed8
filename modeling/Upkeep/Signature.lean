/-
Upkeep.Signature — what has to be given by name, and what may be.

Given fields fit a signature if the signature knows each of them and none
that it requires is missing. A field that it does not know is reported
first.
-/
import Upkeep.Fault
import Upkeep.Json.Value

namespace Upkeep

/-- The names of what is required and of what may be given besides. -/
structure Signature where
  name : String
  required : List String
  optional : List String := []

namespace Signature

/-- The signature knows a name. -/
def knows (s : Signature) (field : String) : Bool :=
  s.required.contains field || s.optional.contains field

/-- Names in words, each between quotation marks: the last two are parted
by `and`, with a comma if there are more. -/
def listed : List String → String
  | [] => ""
  | [a] => Text.quote a
  | [a, b] => Text.quote a ++ " and " ++ Text.quote b
  | [a, b, c] => Text.quote a ++ ", " ++ Text.quote b ++ ", and " ++ Text.quote c
  | a :: rest => Text.quote a ++ ", " ++ listed rest

/-- The report about a field that the signature does not know. -/
def unexpected (s : Signature) (field : String) : Fault :=
  ⟨.wrongType, s!"{s.name}() got an unexpected keyword argument '{field}'"⟩

/-- The report about required fields that are missing. -/
def missing (s : Signature) (names : List String) : Fault :=
  let plural := if names.length = 1 then "" else "s"
  ⟨.wrongType,
    s!"{s.name}() missing {names.length} required positional argument{plural}: {listed names}"⟩

/-- The first report about fields that do not fit, if there is one. -/
def complaint? (s : Signature) (fields : List (String × Json)) : Option Fault :=
  match fields.find? fun f => !s.knows f.1 with
  | some f => some (s.unexpected f.1)
  | none =>
    match s.required.filter fun name => (Json.field? name fields).isNone with
    | [] => none
    | names => some (s.missing names)

end Signature

end Upkeep
