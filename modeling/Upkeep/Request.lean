/-
Upkeep.Request — what the service can be asked, and what it answers.
-/
import Upkeep.Resource

namespace Upkeep

open Upkeep.Decimal (Binary64 Number)

/-- The wish to create or change a resource, as a client states it. -/
structure Application where
  name : String
  credentials : Json
  init : Json := noScript
  statusCheck : Json := noScript
  update : Json := noScript
  cleanup : Json := noScript
  vars : Json := .null
  privileged : Bool := false
  /-- Run a pass at once. -/
  reconcile : Bool := true

/-- What a client can call. -/
inductive Call
  | apply (wish : Application)
  | reconcile (name : String)
  | status (name : String)
  | delete (name : String)
  | list
  /-- A call that cannot be made, and why. -/
  | misfit (why : Fault)

/-- What the service can be asked. -/
inductive Request
  | put (name : String) (credentials : Json) (bundle : Bundle)
  | get (name : String)
  | markDeleting (name : String)
  | remove (name : String)
  | shareLock (name other : String)
  | reconcile (name : String)
  | reconcileAll
  | call (c : Call)
  /-- A call through the boundary that turns failures into answers. -/
  | guarded (method : Option String) (c : Call)
  | errorCounts
  | resetErrorCounts
  | startPolling (interval : Option Number)
  | tick (count : Nat)
  | stopPolling
  | startup (interval : Binary64)
  | shutdown

/-- What the service answers. -/
inductive Reply
  | done
  | bundle (b : Bundle)
  | resource (r : Option Resource)
  | known (b : Bool)
  | sameLock (b : Bool)
  | report (r : Report)
  | reports (rs : List Report)
  | text (s : String)
  | counts (c : List (String × Nat))
  | polling (active : Bool)
  | started (interval : Binary64)

end Upkeep
