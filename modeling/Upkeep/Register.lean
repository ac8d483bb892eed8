/-
Upkeep.Register — acts on the store: registering, removing and marking
resources, and work under the lock of a name.
-/
import Upkeep.World

namespace Upkeep.Register

open Upkeep.Act

variable {σ : Type}

/-- The lock of a name, which is made if there is none. -/
def lock (name : String) : Act σ Nat :=
  modifyGet fun w =>
    let (l, store) := w.store.lock name
    (l, { w with store })

/-- Do something while holding the lock of a name. A lock that is held
already belongs to a task that this one interrupts, so it will not become
free. -/
def underLock {α : Type} (name : String) (work : Act σ α) : Act σ α := do
  let l ← lock name
  if (← get).store.isHeld l then raise (.fault (.deadlock name))
  else
    editStore (·.acquire l)
    ensuring work (editStore (·.release l))

/-- Register a resource, or give an existing one other credentials and
scripts; what was observed of it stays. -/
def put (name : String) (credentials : Json) (bundle : Bundle) :
    Act σ Unit :=
  underLock name do
    match (← get).store.find? name with
    | none =>
      log .info Log.Source.store s!"Registered script resource {name}"
      editStore (·.register { name, credentials, bundle })
    | some k =>
      editRecord k fun r => { r with credentials, bundle }
      log .info Log.Source.store s!"Updated script resource {name}"

/-- Forget a name; nothing happens if it is not known. -/
def remove (name : String) : Act σ Unit := do
  let known := ((← get).store.find? name).isSome
  editStore (·.remove name)
  if known then
    log .info Log.Source.store
      s!"Removed script resource {name} (store_size={(← get).store.size})"

/-- Request the deletion of a resource; tells whether the name is known. -/
def markDeleting (name : String) : Act σ Bool := do
  match (← get).store.find? name with
  | none => return false
  | some k =>
    note (.requested k)
    if !(← record k).deleting then
      editRecord k fun r => { r with deleting := true }
      log .info Log.Source.store s!"Deletion requested for script resource {name}"
    return true

/-- The two names have one lock. -/
def shareLock (name other : String) : Act σ Bool := do
  let a ← lock name
  let b ← lock other
  return a == b

end Upkeep.Register
