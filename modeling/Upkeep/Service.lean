/-
Upkeep.Service — what clients can call, and the life of the service.

`Service.call` answers a client in words; `Service.perform` does anything
that the service can be asked.
-/
import Upkeep.Json.Writer
import Upkeep.Sweep

namespace Upkeep.Service

open Upkeep.Act
open Upkeep.Decimal (Binary64 Number)

variable {σ : Type}

/-! ## 1. Calls -/

/-- The answer about a name that is not known. -/
def unknown (name : String) : String := s!"Error: Unknown script resource '{name}'"

/-- The bundle that a wish describes. -/
def bundleOf (wish : Application) (depths : Json.Depths) : Except Problem Bundle := do
  let vars ← Bundle.readVariables wish.vars depths
  return {
    init := scriptOf wish.init
    statusCheck := scriptOf wish.statusCheck
    update := scriptOf wish.update
    cleanup := scriptOf wish.cleanup
    vars := vars
    privileged := wish.privileged }

/-- Report a pass with the resource as it is now. -/
def answer (name : String) (report : Report) : Act σ String := do
  return report.text ((← get).store.get? name)

/-- Create or change a resource. The credentials and the variables are
checked before anything is changed, and a resource that is being deleted
stays as it is. -/
def apply (env : Surroundings σ) (wish : Application) : Act σ String := do
  let (records, credentials) := Credentials.ofPayload (.value wish.credentials) env.depths
  logAll records
  let _ ← settle credentials
  let bundle ← settle (bundleOf wish env.depths)
  let deleting := (((← get).store.get? wish.name).map Resource.deleting).getD false
  if deleting then return s!"Error: Script resource '{wish.name}' is being deleted"
  else
    let fields ← settle (wish.credentials.fields.mapError Problem.fault)
    Register.put wish.name (.object fields) bundle
    if wish.reconcile then answer wish.name (← Pass.run env wish.name)
    else return s!"Script resource '{wish.name}' saved"

/-- One pass for a client, with other words for an unknown name. -/
def passFor (env : Surroundings σ) (name : String) (otherwise : String) : Act σ String := do
  match ← attempt (Pass.run env name) with
  | .ok report => answer name report
  | .error p => if p.isUnknownName then return otherwise else raise p

/-- Run a pass over a resource. -/
def reconcile (env : Surroundings σ) (name : String) : Act σ String := do
  if ((← get).store.find? name).isNone then return unknown name
  else passFor env name (unknown name)

/-- The last known state of a resource. -/
def status (name : String) : Act σ String := do
  match (← get).store.get? name with
  | none => return unknown name
  | some r => return r.toDocument.pretty

/-- Request the deletion of a resource, and run a pass over it. -/
def delete (env : Surroundings σ) (name : String) : Act σ String := do
  if ← Register.markDeleting name then
    passFor env name s!"Script resource '{name}' already deleted"
  else return unknown name

/-- One line about a resource. -/
def line (s : Store) (name : String) : Option String :=
  (s.get? name).map fun r =>
    let suffix := if r.deleting then " (deleting)" else ""
    let trouble := match r.lastError with
      | some text => if text.isEmpty then "" else " - " ++ text
      | none => ""
    s!"  {name}: {r.observation.readiness.word}{suffix}{trouble}"

/-- All resources with their states. -/
def list : Act σ String := do
  let s := (← get).store
  if s.names.isEmpty then return "No script resources."
  else return "\n".intercalate ("Script resources:" :: s.names.filterMap (line s))

/-- Answer a call. -/
def call (env : Surroundings σ) : Call → Act σ String
  | .apply wish => apply env wish
  | .reconcile name => reconcile env name
  | .status name => status name
  | .delete name => delete env name
  | .list => list
  | .misfit why => raise (.fault why)

/-- Answer a call through the boundary. -/
def guarded (env : Surroundings σ) (method : Option String) (c : Call) : Act σ String := do
  let outcome ← attempt (call env c)
  let (boundary, records, told) := (← get).boundary.pass method outcome
  modify fun w => { w with boundary }
  logAll records
  settle told

/-! ## 2. Start and end -/

/-- A line of the log of the service. -/
def say (text : String) : Act σ Unit := log .info Log.Source.server text

/-- Start the service. -/
def startup (env : Surroundings σ) (interval : Binary64) : Act σ Unit := do
  say "Script MCP server starting up"
  Sweep.start env (some (.double interval))
  say "Script MCP server ready to accept connections"

/-- End the service. -/
def shutdown : Act σ Unit := do
  say "Script MCP server shutting down"
  Sweep.stop
  let s := (← get).store
  if s.size > 0 then
    let listed := ", ".intercalate s.names
    say s!"Leaving {s.size} script resource(s) unreconciled: {listed}"
  say "Script MCP server shutdown complete"

/-! ## 3. Requests -/

/-- Do what the service is asked. -/
def perform (env : Surroundings σ) : Request → Act σ Reply
  | .put name credentials bundle => do
    Register.put name credentials bundle
    return .bundle bundle
  | .get name => do return .resource ((← get).store.get? name)
  | .markDeleting name => do return .known (← Register.markDeleting name)
  | .remove name => do
    Register.remove name
    return .done
  | .shareLock name other => do return .sameLock (← Register.shareLock name other)
  | .reconcile name => do return .report (← Pass.run env name)
  | .reconcileAll => do return .reports (← Sweep.run env)
  | .call c => do return .text (← call env c)
  | .guarded method c => do return .text (← guarded env method c)
  | .errorCounts => do return .counts (← get).boundary.counts
  | .resetErrorCounts => do
    modify fun w => { w with boundary := w.boundary.reset }
    return .done
  | .startPolling interval => do
    Sweep.start env interval
    return .polling (← Sweep.isPolling)
  | .tick count => do
    Sweep.tick env count
    return .polling (← Sweep.isPolling)
  | .stopPolling => do
    Sweep.stop
    return .polling (← Sweep.isPolling)
  | .startup interval => do
    startup env interval
    return .started interval
  | .shutdown => do
    shutdown
    return .polling (← Sweep.isPolling)

end Upkeep.Service
