/-
Upkeep.Surroundings — what the service finds around it: the host, the
settings, the room for nested documents, a source of tokens, a clock, and the
other tasks that are served while it waits.
-/
import Upkeep.Settings
import Upkeep.World

namespace Upkeep

/-- A point at which the service waits and other tasks are served. -/
inductive Pause
  | connecting
  /-- Between two attempts to connect. -/
  | retrying
  /-- During a stage of a file transfer. -/
  | sending
  /-- While the channel of a command is opened. -/
  | starting
  | running
  /-- While the channel of a command is closed. -/
  | finishing
  /-- While the connection is closed. -/
  | closing
  deriving DecidableEq, Repr

/-- What the service finds around it. -/
structure Surroundings (σ : Type) where
  host : Host σ
  settings : Settings := {}
  /-- How deep documents may be nested. -/
  depths : Json.Depths := .usual
  /-- The token of each drawing, counted from zero. -/
  token : Nat → String
  /-- The time of each reading of the clock, counted from zero. -/
  clock : Nat → String
  /-- What other tasks do during a pause. -/
  meanwhile : Pause → Act σ Unit := fun _ => pure ()

end Upkeep
