/-
Upkeep.Staging — running a script from a temporary file on the host.

A script is filled, put into a file with a fresh name, made executable and
run by one command, and removed. It is removed only if it ran; what
becomes of the removal never changes the result.
-/
import Upkeep.Placeholder
import Upkeep.Session
import Upkeep.Shell

namespace Upkeep.Staging

open Upkeep.Decimal (Number)
open Upkeep.Act

variable {σ : Type}

/-! ## 1. Names of files -/

/-- What the names of staged files start with. -/
def fileStem : String := "script-mcp."

/-- The path of a staged file in a directory. -/
def path (directory token : String) : String :=
  String.ofList (Text.dropEndWhile (· == '/') directory.toList) ++ "/" ++ fileStem ++ token

/-- A path with the next token. -/
def freshPath (env : Surroundings σ) (directory : String) : Act σ String :=
  modifyGet fun w => (path directory (env.token w.tokens), { w with tokens := w.tokens + 1 })

/-! ## 2. Running -/

/-- How to run a script. -/
structure Manner where
  vars : List Variable := []
  privileged : Bool := false
  directory : String := "/tmp"
  limit : Option Number := none

/-- Remove a staged file; that it could not be removed is logged. -/
def remove (session : Session σ) (path : String) : Act σ Unit := do
  let removal ← session.run (Shell.removeCommand path) none
  match removal.ending with
  | .failed why =>
    log .warning Log.Source.staging
      s!"Failed to clean up temporary file {path}: {why.message}"
  | .exited status =>
    if status ≠ 0 then
      log .warning Log.Source.staging
        s!"Failed to clean up temporary file {path} (exit={status}): {Text.trimText removal.stderr}"

/-- The number of characters of a text. -/
def characters (s : String) : Nat := s.length

/-- Log how a script ran. -/
def logRun (status : Int) (result : Execution) : Act σ Unit := do
  log .info Log.Source.staging
    s!"Script executed, exit={status}, len(stdout)={characters result.stdout}, len(stderr)={characters result.stderr}"
  log .debug Log.Source.staging ("Script stdout: " ++ result.stdout)
  log .debug Log.Source.staging ("Script stderr: " ++ result.stderr)

/-- What is put on the host for a script. Only a text has placeholders;
anything else stays as it is if there is nothing to fill. -/
def filled (script : Script) (vars : List Variable) : Except Fault Json :=
  match script with
  | .text s => .ok (.text (Placeholder.fill s vars))
  | j =>
    if vars.isEmpty then .ok j
    else .error ⟨.wrongType, s!"expected string or bytes-like object, got '{j.kindWord}'"⟩

/-- Run a script. That it could not be put on the host, or did not run to
completion, is part of the result. -/
def execute (env : Surroundings σ) (session : Session σ) (script : Script) (m : Manner) :
    Act σ Execution := do
  let content ← settle ((filled script m.vars).mapError Problem.fault)
  let path ← freshPath env m.directory
  match ← attempt (session.upload content path) with
  | .error (.failure f) =>
    if f.isTransfer then return .failed f else raise (.failure f)
  | .error p => raise p
  | .ok () =>
    let result ← session.run (Shell.runCommand path m.privileged) m.limit
    match result.ending with
    | .failed _ => return result
    | .exited status =>
      remove session path
      logRun status result
      return result

end Upkeep.Staging
