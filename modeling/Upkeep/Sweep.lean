/-
Upkeep.Sweep — passes over all resources, at once and periodically.

A sweep takes the names in use when it begins, in order, and makes one
pass for each. No outcome of a pass ends the sweep: an unknown name was
removed in the meantime and is passed over, and any other problem is
logged. So nothing ends the poll loop but the one who stops it.
-/
import Upkeep.Pass

namespace Upkeep.Sweep

open Upkeep.Act
open Upkeep.Decimal (Number)

variable {σ : Type}

/-! ## 1. One sweep -/

/-- The passes over some names, one after the other, with their outcomes. -/
def passes (env : Surroundings σ) : List String → Act σ (List (String × Except Problem Report))
  | [] => return []
  | name :: rest => do
    let outcome ← attempt (Pass.run env name)
    let others ← passes env rest
    return (name, outcome) :: others

/-- The reports among the outcomes; other outcomes are logged, unless they
say that the name is not known. -/
def collect : List (String × Except Problem Report) → Act σ (List Report)
  | [] => return []
  | (_, .ok report) :: rest => do return report :: (← collect rest)
  | (name, .error p) :: rest => do
    if !p.isUnknownName then
      Pass.say .error s!"[{name}] Unexpected reconcile error: {p.text}"
    collect rest

/-- A pass over every resource. -/
def run (env : Surroundings σ) : Act σ (List Report) := do
  let names := (← get).store.names
  if names.isEmpty then return []
  else
    let reports ← collect (← passes env names)
    let pending := (reports.filter Report.requeue).map Report.name
    if !pending.isEmpty then
      let listed := ", ".intercalate pending
      Pass.say .info s!"Resources pending another pass: {listed}"
    return reports

/-! ## 2. The poll loop -/

/-- The interval of the poll loop by the settings, unless one is given. -/
def interval (env : Surroundings σ) (given : Option Number) : Number :=
  given.getD (.double env.settings.pollInterval)

/-- Start the poll loop, unless the interval is zero or less or the loop
runs already. It sleeps first. -/
def start (env : Surroundings σ) (given : Option Number) : Act σ Unit := do
  let every := interval env given
  if every.isAtMostZero then Pass.say .info "Periodic reconciliation disabled"
  else if (← get).polling.isNone then
    modify fun w => { w with polling := some every }
    Pass.say .info s!"Started periodic reconciliation (interval={every.text}s)"
    event (.pollSleep every)

/-- Let the poll loop wake up a number of times; without a loop nothing
happens. -/
def tick (env : Surroundings σ) : Nat → Act σ Unit
  | 0 => return
  | count + 1 => do
    match (← get).polling with
    | none => return
    | some every =>
      let _ ← run env
      event (.pollSleep every)
      tick env count

/-- Stop the poll loop. -/
def stop : Act σ Unit := do
  if (← get).polling.isSome then
    Pass.say .debug "Poll task cancelled"
  modify fun w => { w with polling := none }

/-- The poll loop runs. -/
def isPolling : Act σ Bool := do return (← get).polling.isSome

end Upkeep.Sweep
