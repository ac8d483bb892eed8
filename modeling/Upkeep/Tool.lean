/-
Upkeep.Tool — the calls of clients as they arrive: the name of a tool and
an object with its arguments.

Each tool has a signature that its arguments must fit. A name may be any
value that can be a key; it is taken as a text.
-/
import Upkeep.Items
import Upkeep.Request
import Upkeep.Signature

namespace Upkeep.Tool

/-! ## 1. Signatures -/

/-- The tool that creates or changes a resource. -/
def applySignature : Signature :=
  { name := "script_apply"
    required := ["name", "credentials"]
    optional := ["init_script", "status_check_script", "update_script", "cleanup_script",
      "variables", "sudo_enabled", "reconcile"] }

/-- A tool that is about one resource. -/
def resourceSignature (tool : String) : Signature := { name := tool, required := ["name"] }

/-- A tool without arguments. -/
def emptySignature (tool : String) : Signature := { name := tool, required := [] }

/-! ## 2. Arguments -/

/-- An argument, or another value if it is missing. -/
def argument (arguments : List (String × Json)) (key : String) (otherwise : Json) : Json :=
  (Json.field? key arguments).getD otherwise

/-- The name of the resource that a call is about. -/
def resourceName (arguments : List (String × Json)) : Except Fault String :=
  (argument arguments "name" .null).asKey.map Json.asText

/-- The wish that arguments state. -/
def application (arguments : List (String × Json)) : Except Fault Application := do
  return {
    name := ← resourceName arguments
    credentials := argument arguments "credentials" .null
    init := argument arguments "init_script" noScript
    statusCheck := argument arguments "status_check_script" noScript
    update := argument arguments "update_script" noScript
    cleanup := argument arguments "cleanup_script" noScript
    vars := argument arguments "variables" .null
    privileged := (argument arguments "sudo_enabled" (.bool false)).isGiven
    reconcile := (argument arguments "reconcile" (.bool true)).isGiven }

/-! ## 3. Calls -/

/-- The call that is read from arguments, if they fit a signature. -/
def fitting (s : Signature) (arguments : List (String × Json))
    (read : List (String × Json) → Except Fault Call) : Call :=
  match s.complaint? arguments with
  | some why => .misfit why
  | none =>
    match read arguments with
    | .ok call => call
    | .error why => .misfit why

/-- The call of a tool with arguments. The list of resources is also to be
had as a resource of its own. -/
def call (tool : String) (arguments : List (String × Json)) : Call :=
  let about (make : String → Call) : Call :=
    fitting (resourceSignature tool) arguments fun given => (resourceName given).map make
  match tool with
  | "script_apply" =>
    fitting applySignature arguments fun given => (application given).map .apply
  | "script_reconcile" => about .reconcile
  | "script_status" => about .status
  | "script_delete" => about .delete
  | "script_list" | "list_scripts_resource" =>
    fitting (emptySignature tool) arguments fun _ => .ok .list
  | _ => .misfit ⟨.value, "no such call"⟩

end Upkeep.Tool
