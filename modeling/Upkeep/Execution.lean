/-
Upkeep.Execution — the result of one remote command.

Either the command ran and exited with a status, negative if a signal
ended it, or it never ran to completion and a failure says why. The output
captured until then is kept in both cases.
-/
import Upkeep.Failure

namespace Upkeep

/-- How a command ended. -/
inductive Ending
  | exited (status : Int)
  | failed (why : Failure)
  deriving BEq, Repr

/-- The result of one remote command. -/
structure Execution where
  stdout : String := ""
  stderr : String := ""
  ending : Ending
  deriving BEq, Repr

namespace Execution

/-- A command that never ran, with no output. -/
def failed (why : Failure) : Execution := { ending := .failed why }

/-- The exit status, if the command ran. -/
def status? (e : Execution) : Option Int :=
  match e.ending with
  | .exited status => some status
  | .failed _ => none

/-- Why the command did not run to completion, if it did not. -/
def failure? (e : Execution) : Option Failure :=
  match e.ending with
  | .exited _ => none
  | .failed why => some why

/-- The command ran and exited. -/
def ran (e : Execution) : Bool := e.status?.isSome

/-- The command ran and exited with status zero. -/
def succeeded (e : Execution) : Bool := e.status? == some 0

/-- A result from a status and a failure, of which exactly one is given. -/
def ofParts (stdout stderr : String) (status : Option Int) (failure : Option Failure) :
    Except Fault Execution :=
  match status, failure with
  | some n, none => .ok ⟨stdout, stderr, .exited n⟩
  | none, some why => .ok ⟨stdout, stderr, .failed why⟩
  | _, _ => .error ⟨.value, "ExecutionResult needs exactly one of exit_status and error"⟩

/-- Nothing if the command exited with status zero; otherwise its failure,
or the exit of the script of the named phase. -/
def check (e : Execution) (phase : String := "script") (fatal : Bool := true) :
    Except Failure Unit :=
  match e.ending with
  | .failed why => .error why
  | .exited status =>
    if status = 0 then .ok ()
    else .error (.exited ⟨status, e.stdout, e.stderr, phase, fatal⟩)

/-- What a log record says about a command that did not succeed. -/
def trouble (e : Execution) : String :=
  match e.ending with
  | .failed why => why.message
  | .exited status => toString status

end Execution

end Upkeep
