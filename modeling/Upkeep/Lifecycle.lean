/-
Upkeep.Lifecycle — the four scripts of a resource and what each leaves in
its observation.

Every function takes the observation and returns the new one with a
verdict. An empty script is skipped. The functions never decide when they
are called; that is the business of a pass.
-/
import Upkeep.Staging

namespace Upkeep

open Upkeep.Decimal (Number)
open Upkeep.Act

/-- The script of a phase. -/
def Bundle.script (b : Bundle) : Phase → Script
  | .statusCheck => b.statusCheck
  | .init => b.init
  | .update => b.update
  | .cleanup => b.cleanup

/-- Where the scripts of a resource are run. -/
structure Workplace (σ : Type) where
  session : Session σ
  directory : String := "/tmp"
  limit : Option Number := none
  /-- The incarnation that the scripts belong to. -/
  incarnation : Nat := 0

namespace Lifecycle

variable {σ : Type}

/-- The observation after a phase, and whether the phase went well. -/
abbrev Verdict (α : Type) := Observation × Except Failure α

/-- Hand a script over to be run. -/
def runScript (env : Surroundings σ) (place : Workplace σ) (b : Bundle) (phase : Phase) :
    Act σ Execution := do
  note (.milestone (.script place.incarnation phase))
  let outcome ← attempt <|
    Staging.execute env place.session (b.script phase)
      { vars := b.vars
        privileged := b.privileged
        directory := place.directory
        limit := place.limit }
  note (.milestone (.result place.incarnation phase outcome))
  settle outcome

/-! ## 1. Looking -/

/-- What is known without a status check: the resource is as it should be
once it has been created. -/
def surveyUnchecked (o : Observation) : Observation × Survey :=
  let readiness := if o.created then .ready else .absent
  ({ o with readiness }, ⟨o.created, o.created, readiness, none⟩)

/-- What a status check that exited tells: the classification is recorded,
and whatever is not absent has been created. -/
def surveyChecked (o : Observation) (e : Execution) (status : Int) : Verdict Survey :=
  let readiness := classify (some status)
  let seen := o.record e (some readiness)
  if readiness = .fatal then
    (seen, .error (.exited ⟨status, e.stdout, e.stderr, Phase.statusCheck.word, true⟩))
  else if readiness = .absent then (seen, .ok ⟨false, false, readiness, some status⟩)
  else ({ seen with created := true }, .ok ⟨true, readiness == .ready, readiness, some status⟩)

/-- Run the status check and classify the resource. -/
def observe (env : Surroundings σ) (place : Workplace σ) (b : Bundle) (o : Observation) :
    Act σ (Verdict Survey) := do
  if !b.statusCheck.isGiven then
    let (seen, survey) := surveyUnchecked o
    log .debug Log.Source.lifecycle
      s!"No status check script, readiness={survey.readiness.word}"
    return (seen, .ok survey)
  else
    let e ← runScript env place b .statusCheck
    match e.ending with
    | .failed why =>
      log .warning Log.Source.lifecycle s!"Status check could not run: {why.message}"
      return (o.record e (some (classify none)), .error why)
    | .exited status =>
      log .info Log.Source.lifecycle
        s!"Status check exited with {status}, readiness={(classify (some status)).word}"
      return surveyChecked o e status

/-! ## 2. Changing -/

/-- Run a script that changes the resource; unless it exits with zero, the
resource is in need of an operator. -/
def change (env : Surroundings σ) (place : Workplace σ) (phase : Phase) (b : Bundle)
    (o : Observation) : Act σ (Verdict Unit) := do
  if !(b.script phase).isGiven then
    log .debug Log.Source.lifecycle s!"No {phase.word} script, skipping"
    return (o, .ok ())
  else
    let e ← runScript env place b phase
    if e.succeeded then return (o.record e, .ok ())
    else
      log .error Log.Source.lifecycle s!"{phase.word} script failed: {e.trouble}"
      return (o.record e (some .fatal), e.check phase.word true)

/-- Create the resource; whether it is ready is for the next status check
to say. -/
def create (env : Surroundings σ) (place : Workplace σ) (b : Bundle) (o : Observation) :
    Act σ (Verdict Unit) := do
  match ← change env place .init b o with
  | (seen, .ok ()) => return ({ seen with created := true }, .ok ())
  | failed => return failed

/-- Bring the resource up to date. -/
def update (env : Surroundings σ) (place : Workplace σ) (b : Bundle) (o : Observation) :
    Act σ (Verdict Unit) :=
  change env place .update b o

/-- Clear the resource away. A script that exits with another status than
zero does not stand in the way of deletion, so that may clear by itself. -/
def delete (env : Surroundings σ) (place : Workplace σ) (b : Bundle) (o : Observation) :
    Act σ (Verdict Unit) := do
  if !b.cleanup.isGiven then
    log .debug Log.Source.lifecycle "No cleanup script, nothing to run"
    return (o, .ok ())
  else
    let e ← runScript env place b .cleanup
    let seen := o.record e
    if !e.succeeded then
      log .warning Log.Source.lifecycle s!"cleanup script failed: {e.trouble}"
    match e.check Phase.cleanup.word false with
    | .ok () => return ({ seen with created := false }, .ok ())
    | .error why => return (seen, .error why)

end Lifecycle

end Upkeep
