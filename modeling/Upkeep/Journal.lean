/-
Upkeep.Journal — what happened, in order.

The journal records every exchange with a host, every log record, every
request for deletion, and the milestones of passes: that a connection was
established, that a script was handed over to be run and what came of it,
and that the connection was closed. Events of opening are written when
opening went well, events of closing before closing is tried. Nothing that
the service does depends on the journal.
-/
import Upkeep.Host
import Upkeep.Request

namespace Upkeep

open Upkeep.Decimal (Number)

/-- A script of a bundle. -/
inductive Phase
  | statusCheck
  | init
  | update
  | cleanup
  deriving DecidableEq, Repr

/-- The word for a phase. -/
def Phase.word : Phase → String
  | .statusCheck => "statusCheck"
  | .init => "init"
  | .update => "update"
  | .cleanup => "cleanup"

/-- An exchange with a host, a wait, or something that happened during
one. -/
inductive Event
  | connect (d : Dial)
  | sleep (delay : Option Number)
  | openChannel
  | openPath (path : String)
  | openFile
  | write (content : Json)
  | closeFile
  | closeChannel
  | start (command : String)
  | openCommand
  | wait (limit : Option Number)
  | closeCommand
  | disconnect
  | awaitDisconnect
  /-- Another task was served meanwhile. -/
  | interlude (answer : Reply)
  /-- The poll loop went to sleep. -/
  | pollSleep (interval : Number)

/-- A milestone of a pass. -/
inductive Milestone
  /-- A connection was established. -/
  | connected
  /-- A script of an incarnation is handed over to be run. -/
  | script (incarnation : Nat) (phase : Phase)
  /-- What came of a script: its result, or a problem that was raised. -/
  | result (incarnation : Nat) (phase : Phase) (outcome : Except Problem Execution)
  /-- The connection was closed, and how that went. -/
  | closed (how : Stage)

/-- The script that a milestone hands over. -/
def Milestone.script? : Milestone → Option (Nat × Phase)
  | .script k p => some (k, p)
  | _ => none

/-- An entry of the journal. -/
inductive Entry
  | event (e : Event)
  | log (r : Log.Record)
  /-- The deletion of an incarnation is requested. -/
  | requested (incarnation : Nat)
  | milestone (m : Milestone)

namespace Entry

/-- The event of an entry. -/
def event? : Entry → Option Event
  | .event e => some e
  | _ => none

/-- The log record of an entry. -/
def log? : Entry → Option Log.Record
  | .log r => some r
  | _ => none

/-- The milestone of an entry. -/
def milestone? : Entry → Option Milestone
  | .milestone m => some m
  | _ => none

end Entry

/-- What happened, in order. -/
abbrev Journal := List Entry

namespace Journal

/-- The events of a journal. -/
def events (j : Journal) : List Event := j.filterMap Entry.event?

/-- The log records of a journal. -/
def logs (j : Journal) : List Log.Record := j.filterMap Entry.log?

/-- The milestones of a journal. -/
def milestones (j : Journal) : List Milestone := j.filterMap Entry.milestone?

/-- The scripts that were handed over, with their incarnations. -/
def scripts (j : Journal) : List (Nat × Phase) := j.milestones.filterMap Milestone.script?

end Journal

end Upkeep
