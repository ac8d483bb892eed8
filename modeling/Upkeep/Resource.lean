/-
Upkeep.Resource — a managed resource, and the report of one pass over it.
-/
import Upkeep.Observation

namespace Upkeep

/-! ## 1. Resources -/

/-- A resource that the service looks after. Its credentials are kept as
they arrived and are never part of what is shown. -/
structure Resource where
  name : String
  credentials : Json
  bundle : Bundle
  observation : Observation := {}
  /-- Deletion was requested. -/
  deleting : Bool := false
  /-- The cleanup script was tried, or nothing is to be tried. -/
  cleanupAttempted : Bool := false
  lastAction : Action := .none
  lastError : Option String := none
  lastReconciled : Option String := none
  deriving BEq, Repr

namespace Resource

/-- A resource without a name and without scripts. -/
def blank : Resource := { name := "", credentials := .object [], bundle := {} }

/-- The resource once cleanup was tried, or is not to be tried any more. -/
def spent (r : Resource) : Resource := { r with cleanupAttempted := true }

/-- A text or null. -/
def textOrNull (s : Option String) : Json := (s.map Json.text).getD .null

/-- The resource as a document, without its credentials. -/
def toDocument (r : Resource) : Json :=
  .object [
    ("name", .text r.name),
    ("deleting", .bool r.deleting),
    ("lastAction", .text r.lastAction.word),
    ("lastError", textOrNull r.lastError),
    ("lastReconciled", textOrNull r.lastReconciled),
    ("status", r.observation.toDocument)]

/-- The exit code and the output of the last script, for a client. -/
def outputText (r : Resource) : String :=
  "\n".intercalate [
    "exit code: " ++ ((r.observation.exitCode.map toString).getD "-"),
    "─── stdout ───",
    Text.trimEndText r.observation.stdout,
    "─── stderr ───",
    Text.trimEndText r.observation.stderr]

end Resource

/-! ## 2. Reports -/

/-- The outcome of one pass over a resource. -/
structure Report where
  name : String
  action : Action
  readiness : Readiness
  deleted : Bool := false
  deleting : Bool := false
  failure : Option Failure := none
  deriving BEq, Repr

namespace Report

/-- Another pass is expected to make progress. -/
def requeue (r : Report) : Bool :=
  if r.deleted then false
  else if r.deleting then true
  else match r.failure with
    | some f => f.isTransient
    | none => r.readiness != .ready

/-- The report for a client, with the output of the resource if it still
exists. -/
def text (r : Report) (resource : Option Resource) : String :=
  let head := [
    s!"═══ {r.name} ═══",
    s!"action:    {r.action.word}",
    s!"readiness: {r.readiness.word}"]
  let deletion := if r.deleted then ["deleted:   yes"] else []
  let trouble := match r.failure with
    | some f => ["error:     " ++ f.describe]
    | none => []
  let pending := if r.requeue then ["pending:   next pass will retry"] else []
  let output := match resource with
    | some found => if r.deleted then [] else [found.outputText]
    | none => []
  "\n".intercalate (head ++ deletion ++ trouble ++ pending ++ output)

end Report

end Upkeep
