/-
Upkeep.Store — the resources of the service, by name, and their locks.

Every registration of a name begins an *incarnation*, a number of its own;
it ends when the name is removed. The records of ended incarnations stay,
so a pass that is still at work on one has something to write to, but no
name leads there.

A lock also has a number. The lock of a name is made when it is first
asked for and forgotten when the name is removed; a pass that holds a
forgotten lock still holds it.
-/
import Upkeep.Directory
import Upkeep.Resource
import Upkeep.Text.Order

namespace Upkeep

/-- The resources of the service and their locks. -/
structure Store where
  /-- The records of all incarnations, in order of registration. -/
  records : List Resource := []
  /-- The incarnation of each name in use. -/
  current : Directory := []
  /-- The lock of each name that has one. -/
  locks : Directory := []
  /-- The number of the next lock. -/
  nextLock : Nat := 0
  /-- The locks that are held. -/
  held : List Nat := []
  deriving BEq, Repr

namespace Store

/-! ## 1. Reading -/

/-- The incarnation of a name. -/
def find? (s : Store) (name : String) : Option Nat := Directory.find? name s.current

/-- The record of an incarnation. -/
def record (s : Store) (k : Nat) : Resource := s.records[k]?.getD .blank

/-- The resource of a name. -/
def get? (s : Store) (name : String) : Option Resource := (s.find? name).map s.record

/-- The names in use, sorted. -/
def names (s : Store) : List String := Text.sortNames s.current.names

/-- The number of names in use. -/
def size (s : Store) : Nat := s.current.length

/-! ## 2. Writing -/

/-- The store with the record of an incarnation changed. -/
def edit (s : Store) (k : Nat) (f : Resource → Resource) : Store :=
  { s with records := s.records.modify k f }

/-- The store with a new incarnation of a resource. -/
def register (s : Store) (r : Resource) : Store :=
  { s with
    current := s.current.bind r.name s.records.length
    records := s.records ++ [r] }

/-- The store without a name and its lock. -/
def remove (s : Store) (name : String) : Store :=
  { s with current := s.current.unbind name, locks := s.locks.unbind name }

/-! ## 3. Locks -/

/-- The lock of a name, which is made if there is none. -/
def lock (s : Store) (name : String) : Nat × Store :=
  match Directory.find? name s.locks with
  | some l => (l, s)
  | none =>
    (s.nextLock, { s with locks := s.locks.bind name s.nextLock, nextLock := s.nextLock + 1 })

/-- The lock is held. -/
def isHeld (s : Store) (l : Nat) : Bool := s.held.contains l

/-- The store with a lock held. -/
def acquire (s : Store) (l : Nat) : Store := { s with held := l :: s.held }

/-- The store with a lock free again. -/
def release (s : Store) (l : Nat) : Store := { s with held := s.held.filter (· != l) }

/-! ## 4. What writing does to reading -/

theorem record_edit_self {s : Store} {k : Nat} (h : k < s.records.length)
    (f : Resource → Resource) : (s.edit k f).record k = f (s.record k) := by
  simp [record, edit, h]

theorem record_edit_of_ne {s : Store} {k j : Nat} (h : j ≠ k) (f : Resource → Resource) :
    (s.edit k f).record j = s.record j := by
  simp [record, edit, Ne.symm h]

@[simp] theorem find?_edit (s : Store) (k : Nat) (f : Resource → Resource) (name : String) :
    (s.edit k f).find? name = s.find? name := rfl

@[simp] theorem find?_remove_self (s : Store) (name : String) :
    (s.remove name).find? name = none :=
  Directory.find?_unbind_self name s.current

theorem find?_remove_of_ne {name other : String} (h : other ≠ name) (s : Store) :
    (s.remove name).find? other = s.find? other :=
  Directory.find?_unbind_of_ne h s.current

@[simp] theorem record_remove (s : Store) (name : String) (k : Nat) :
    (s.remove name).record k = s.record k := rfl

@[simp] theorem find?_register_self (s : Store) (r : Resource) :
    (s.register r).find? r.name = some s.records.length :=
  Directory.find?_bind_self r.name _ s.current

end Store

end Upkeep
