/-
Upkeep.Observation — what is known about a resource, and what follows.

The exit status of the status check classifies a resource (`classify`),
and the classification chooses the next step (`nextAction`). The
observation keeps the output of the last script, the classification, and
whether the resource has been created.
-/
import Upkeep.Bundle
import Upkeep.Execution

namespace Upkeep

/-! ## 1. Readiness -/

/-- The state of a remote resource by its status check. -/
inductive Readiness
  | unknown
  | absent
  | ready
  | needsRemediation
  | fatal
  deriving DecidableEq, Repr

namespace Readiness

/-- The word for a readiness. -/
def word : Readiness → String
  | .unknown => "unknown"
  | .absent => "absent"
  | .ready => "ready"
  | .needsRemediation => "needs_remediation"
  | .fatal => "fatal"

/-- All readinesses. -/
def all : List Readiness := [.unknown, .absent, .ready, .needsRemediation, .fatal]

/-- The readiness that a word names. -/
def ofWord? (w : String) : Option Readiness := all.find? (·.word == w)

end Readiness

/-- The status that says that all is well. -/
def readyStatus : Int := 0

/-- The status that says that nothing can be done. -/
def fatalStatus : Int := 1

/-- The status that says that the resource does not exist. -/
def absentStatus : Int := 100

/-- The readiness that the exit status of a status check means. -/
def classify : Option Int → Readiness
  | none => .unknown
  | some status =>
    if status = readyStatus then .ready
    else if status = fatalStatus then .fatal
    else if status = absentStatus then .absent
    else .needsRemediation

/-! ## 2. Actions -/

/-- A step in the life of a resource. -/
inductive Action
  | none
  | create
  | update
  | delete
  | fail
  deriving DecidableEq, Repr

namespace Action

/-- The word for an action. -/
def word : Action → String
  | .none => "none"
  | .create => "create"
  | .update => "update"
  | .delete => "delete"
  | .fail => "fail"

/-- All actions. -/
def all : List Action := [.none, .create, .update, .delete, .fail]

/-- The action that a word names. -/
def ofWord? (w : String) : Option Action := all.find? (·.word == w)

end Action

/-! ## 3. Observations -/

/-- What was last seen of a resource. -/
structure Observation where
  stdout : String := ""
  stderr : String := ""
  exitCode : Option Int := none
  readiness : Readiness := .unknown
  created : Bool := false
  message : String := ""
  deriving DecidableEq, Repr

namespace Observation

/-- The observation after a script's result; the classification changes
only if a new one is given. -/
def record (o : Observation) (e : Execution) (readiness : Option Readiness := none) :
    Observation :=
  { o with
    stdout := e.stdout
    stderr := e.stderr
    exitCode := e.status?
    message := (e.failure?.map Failure.message).getD ""
    readiness := readiness.getD o.readiness }

/-- The observation as a document. -/
def toDocument (o : Observation) : Json :=
  .object [
    ("stdout", .text o.stdout),
    ("stderr", .text o.stderr),
    ("exitCode", (o.exitCode.map fun n => Json.number (.whole n)).getD .null),
    ("readiness", .text o.readiness.word),
    ("created", .bool o.created),
    ("message", .text o.message)]

end Observation

/-- What the status check found out. -/
structure Survey where
  present : Bool
  upToDate : Bool
  readiness : Readiness
  exitCode : Option Int := none
  deriving DecidableEq, Repr

/-- The next step for a resource. -/
def nextAction (bundle : Bundle) (o : Observation) (deleting : Bool := false) : Action :=
  if deleting then .delete
  else match o.readiness with
    | .absent => .create
    | .needsRemediation => if bundle.update.isGiven then .update else .none
    | .fatal => .fail
    | .ready | .unknown => .none

end Upkeep
