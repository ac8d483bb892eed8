/-
Upkeep.Session — what scripts are run through: a way to put a file on a
host, a way to run a command there, and a way to close.
-/
import Upkeep.Surroundings

namespace Upkeep

/-- A session with a remote host. -/
structure Session (σ : Type) where
  upload : (content : Json) → (path : String) → Act σ Unit
  run : (command : String) → (limit : Option Decimal.Number) → Act σ Execution
  close : Act σ Unit

end Upkeep
