/-
Upkeep.World — the state of the service, and acts on it.

An act may raise a problem and may change the state, and what it changed
stays changed when it raises. `attempt` turns a raised problem into a
value; `ensuring` runs a last act in either case, and a problem of that
last act takes the place of the outcome.
-/
import Upkeep.Boundary
import Upkeep.Journal
import Upkeep.Store

namespace Upkeep

open Upkeep.Decimal (Number)

/-! ## 1. The state -/

/-- The state of the service and of the host, which has type `σ`. -/
structure World (σ : Type) where
  host : σ
  journal : Journal := []
  store : Store := {}
  boundary : Boundary := {}
  /-- The interval of the poll loop, if it runs. -/
  polling : Option Number := none
  /-- How many tokens were drawn. -/
  tokens : Nat := 0
  /-- How often the clock was read. -/
  readings : Nat := 0

namespace World

/-- The state with one more entry in the journal. -/
def note {σ : Type} (w : World σ) (e : Entry) : World σ := { w with journal := w.journal ++ [e] }

end World

/-! ## 2. Acts -/

/-- Something that the service does. -/
abbrev Act (σ : Type) := ExceptT Problem (StateM (World σ))

namespace Act

variable {σ α : Type}

/-- The act in a state: its outcome and the state afterwards. -/
def runOn (act : Act σ α) (w : World σ) : Except Problem α × World σ := act.run.run w

/-- Write an entry into the journal. -/
def note (e : Entry) : Act σ Unit := modify (·.note e)

/-- Write an event into the journal. -/
def event (e : Event) : Act σ Unit := note (.event e)

/-- Write a log record. -/
def log (level : Log.Level) (source text : String) : Act σ Unit := note (.log ⟨level, source, text⟩)

/-- Write log records. -/
def logAll (records : List Log.Record) : Act σ Unit :=
  modify fun w => { w with journal := w.journal ++ records.map Entry.log }

/-- Raise a problem. -/
def raise (p : Problem) : Act σ α := throw p

/-- Go on with a value, or raise its problem. -/
def settle (outcome : Except Problem α) : Act σ α :=
  match outcome with
  | .ok a => pure a
  | .error p => raise p

/-- The outcome of an act as a value. -/
def attempt (act : Act σ α) : Act σ (Except Problem α) := fun w =>
  let (outcome, w') := act.runOn w
  (.ok outcome, w')

/-- An act and then a last one, also if the first raises. -/
def ensuring (act : Act σ α) (last : Act σ Unit) : Act σ α := do
  let outcome ← attempt act
  last
  settle outcome

/-- Ask the host: its answer, and its state afterwards. -/
def ask {β : Type} (question : σ → β × σ) : Act σ β :=
  modifyGet fun w =>
    let (answer, host) := question w.host
    (answer, { w with host })

/-- Change the store. -/
def editStore (f : Store → Store) : Act σ Unit := modify fun w => { w with store := f w.store }

/-- The record of an incarnation. -/
def record (k : Nat) : Act σ Resource := do return (← get).store.record k

/-- Change the record of an incarnation. -/
def editRecord (k : Nat) (f : Resource → Resource) : Act σ Unit := editStore (·.edit k f)

end Act

end Upkeep
