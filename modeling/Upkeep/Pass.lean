/-
Upkeep.Pass — one pass over one resource.

A pass works under the lock of the resource's name. If deletion was
requested, it runs the cleanup script once, or completes the deletion if
that was tried before; otherwise it looks at the resource and then creates
it or brings it up to date. A failure ends the pass and is recorded with
the resource; the next pass is the way to try again.

The request for deletion may arrive while the pass waits for the host, so
the flag is read anew wherever it counts.
-/
import Upkeep.Connection
import Upkeep.Lifecycle
import Upkeep.Register

namespace Upkeep.Pass

open Upkeep.Act
open Upkeep.Decimal (Number)

variable {σ : Type}

/-! ## 1. Endings -/

/-- A line of the log of passes. -/
def say (level : Log.Level) (text : String) : Act σ Unit := log level Log.Source.pass text

/-- End a pass that went well. -/
def finish (k : Nat) (action : Action) (deleted : Bool := false) : Act σ Report := do
  editRecord k fun r => { r with lastAction := action, lastError := none }
  let r ← record k
  let readiness := r.observation.readiness
  let suffix := if deleted then ", deleted" else ""
  say .info
    s!"[{r.name}] Reconcile complete (action={action.word}, readiness={readiness.word}{suffix})"
  return { name := r.name, action, readiness, deleted, deleting := r.deleting }

/-- The readiness that a failure leaves: a misconfiguration and a fatal
exit need an operator, and a pass that could not look knows nothing. -/
def readinessAfter (action : Action) (failure : Failure) (r : Resource) : Readiness :=
  if failure.isMisconfiguration || failure.isFatalExit then .fatal
  else if action = .none ∧ r.deleting = false then .unknown
  else r.observation.readiness

/-- The record of a resource after a failed pass. -/
def failed (action : Action) (failure : Failure) (r : Resource) : Resource :=
  { r with
    observation := { r.observation with
      readiness := readinessAfter action failure r
      message := failure.message }
    lastAction := action
    lastError := some s!"{failure.category.word}: {failure.message}" }

/-- End a pass that failed. -/
def fail (k : Nat) (action : Action) (failure : Failure) : Act σ Report := do
  editRecord k (failed action failure)
  let r ← record k
  let readiness := r.observation.readiness
  say (if failure.isTransient then .warning else .error)
    s!"[{r.name}] Reconcile failed (action={action.word}, readiness={readiness.word}): {failure.category.word}: {failure.message}"
  return { name := r.name, action, readiness, deleting := r.deleting, failure := some failure }

/-- End a pass by the outcome of what was done last. -/
def conclude (k : Nat) (action : Action) : Except Failure Unit → Act σ Report
  | .ok () => finish k action
  | .error failure => fail k action failure

/-! ## 2. Phases -/

/-- Run a phase on the observation of a resource and store what it leaves.
A failure that is raised counts like one that is returned, with the
observation unchanged. -/
def phase {α : Type} (k : Nat) (act : Observation → Act σ (Lifecycle.Verdict α)) :
    Act σ (Except Failure α) := do
  match ← attempt (act (← record k).observation) with
  | .ok (seen, verdict) =>
    editRecord k fun r => { r with observation := seen }
    return verdict
  | .error (.failure failure) => return .error failure
  | .error p => raise p

/-- Where the scripts of a resource are run. -/
def workplace (env : Surroundings σ) (session : Session σ) (k : Nat) : Workplace σ where
  session := session
  directory := env.settings.stagingDirectory
  limit := env.settings.scriptTimeout.map Number.double
  incarnation := k

/-- Do what a resource needs that is not up to date. -/
def respond (env : Surroundings σ) (k : Nat) (place : Workplace σ) (survey : Survey) :
    Act σ Report := do
  let r ← record k
  let action := nextAction r.bundle r.observation
  let outcome ← match action with
    | .create => do
      say .info s!"[{r.name}] Resource absent, running init script"
      phase k (Lifecycle.create env place r.bundle)
    | .update => do
      let exit := (survey.exitCode.map toString).getD "None"
      say .info s!"[{r.name}] Resource not up to date (exit={exit}), running update script"
      phase k (Lifecycle.update env place r.bundle)
    | _ => pure (.ok ())
  conclude k action outcome

/-- Look at a resource, and do what it needs. -/
def sync (env : Surroundings σ) (k : Nat) (session : Session σ) : Act σ Report := do
  let place := workplace env session k
  let r ← record k
  match ← phase k (Lifecycle.observe env place r.bundle) with
  | .error failure => fail k .none failure
  | .ok survey =>
    if survey.upToDate then
      say .debug s!"[{r.name}] Resource is up to date"
      finish k .none
    else respond env k place survey

/-- Run the cleanup script and, if it goes well, forget the resource. -/
def delete (env : Surroundings σ) (k : Nat) (session : Session σ) : Act σ Report := do
  editRecord k Resource.spent
  let r ← record k
  match ← phase k (Lifecycle.delete env (workplace env session k) r.bundle) with
  | .error failure => fail k .delete failure
  | .ok () =>
    Register.remove r.name
    finish k .delete true

/-- Clear a resource away or look after it, whichever is due now. -/
def attend (env : Surroundings σ) (k : Nat) (session : Session σ) : Act σ Report := do
  if (← record k).deleting then delete env k session else sync env k session

/-! ## 3. The pass -/

/-- Connect with the credentials of a resource. -/
def openSession (env : Surroundings σ) (k : Nat) : Act σ (Session σ) := do
  let (records, outcome) := Credentials.ofPayload (.value (← record k).credentials) env.depths
  logAll records
  let credentials ← settle outcome
  Connection.connect env credentials
    { attempts := env.settings.connectAttempts
      delay := some (.double env.settings.retryDelay)
      timeout := env.settings.dialTimeout.map Number.double }

/-- End a pass for which no session could be opened. Nothing more is to be
tried with credentials that are misconfigured. -/
def refuse (k : Nat) (failure : Failure) : Act σ Report := do
  if (← record k).deleting && failure.isMisconfiguration then
    editRecord k Resource.spent
  fail k .none failure

/-- Read the clock for a resource. -/
def touch (env : Surroundings σ) (k : Nat) : Act σ Unit := do
  let n ← modifyGet fun w => (w.readings, { w with readings := w.readings + 1 })
  editRecord k fun r => { r with lastReconciled := some (env.clock n) }

/-- Do what is due to a resource: complete its deletion, or connect and then
clear it away or look after it. -/
def work (env : Surroundings σ) (name : String) (k : Nat) : Act σ Report := do
  let r ← record k
  if r.deleting && (r.cleanupAttempted || !r.bundle.cleanup.isGiven) then
    editRecord k Resource.spent
    Register.remove name
    finish k .delete true
  else
    match ← attempt (openSession env k) with
    | .error (.failure failure) => refuse k failure
    | .error p => raise p
    | .ok session => ensuring (attend env k session) session.close

/-- The pass over an incarnation, once its lock is held. -/
def body (env : Surroundings σ) (name : String) (k : Nat) : Act σ Report := do
  say .info s!"[{name}] Reconciling (deleting={Json.truthWord (← record k).deleting})"
  touch env k
  work env name k

/-- One pass over the resource of a name; an unknown name is a fault. -/
def run (env : Surroundings σ) (name : String) : Act σ Report :=
  Register.underLock name do
    match (← get).store.find? name with
    | none => raise (.fault (.unknownName name))
    | some k => body env name k

end Upkeep.Pass
