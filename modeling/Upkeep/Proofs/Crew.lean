/-
Upkeep.Proofs.Crew — tasks and the locks of names.

Tasks ask for the lock of a name, wait until it is free, hold it and give it
up, while names are removed and records are written, all of this in any
order. A `Crew` is a store together with the place of every task, and
`Crew.Path` tells, turn by turn, what the tasks did.

A lock that a task was given is the lock of its name until the name is
removed, and never again after that (`Crew.Path.find?_locks`). As long as the
locks of a name that were given are the name's lock (`Crew.Tidy`), at most
one task is inside the name (`Crew.Fit.eq_of_inside`). `Crew.Excludes` puts
this together for the turns between two crews.
-/
import Mathlib.Logic.Function.Basic
import Upkeep.Store

namespace Upkeep

/-! ## 1. The locks of a store -/

namespace Store

/-- The stores have the same locks. -/
structure SameLocks (s s' : Store) : Prop where
  locks : s'.locks = s.locks
  nextLock : s'.nextLock = s.nextLock
  held : s'.held = s.held

/-- The lock of a name is known, or it is a new one. -/
theorem lock_cases (s : Store) (name : String) :
    (∃ l, Directory.find? name s.locks = some l ∧ s.lock name = (l, s)) ∨
      Directory.find? name s.locks = none ∧ s.lock name = (s.nextLock,
        { s with locks := s.locks.bind name s.nextLock, nextLock := s.nextLock + 1 }) := by
  unfold lock
  cases Directory.find? name s.locks with
  | some l => exact Or.inl ⟨l, rfl, rfl⟩
  | none => exact Or.inr ⟨rfl, rfl⟩

@[simp] theorem find?_lock_self (s : Store) (name : String) :
    Directory.find? name (s.lock name).2.locks = some (s.lock name).1 := by
  rcases s.lock_cases name with ⟨l, bound, hl⟩ | ⟨-, hl⟩ <;> rw [hl]
  · exact bound
  · exact Directory.find?_bind_self name _ _

theorem find?_lock_of_ne {name other : String} (hne : other ≠ name) (s : Store) :
    Directory.find? other (s.lock name).2.locks = Directory.find? other s.locks := by
  rcases s.lock_cases name with ⟨l, -, hl⟩ | ⟨-, hl⟩ <;> rw [hl]
  exact Directory.find?_bind_of_ne hne _ _

@[simp] theorem held_lock (s : Store) (name : String) : (s.lock name).2.held = s.held := by
  rcases s.lock_cases name with ⟨l, -, hl⟩ | ⟨-, hl⟩ <;> rw [hl]

theorem nextLock_le_lock (s : Store) (name : String) :
    s.nextLock ≤ (s.lock name).2.nextLock := by
  rcases s.lock_cases name with ⟨l, -, hl⟩ | ⟨-, hl⟩
  · exact Nat.le_of_eq (by rw [hl])
  · rw [hl]
    exact Nat.le_succ _

theorem lock_lt {s : Store} {name : String}
    (bound : ∀ l, Directory.find? name s.locks = some l → l < s.nextLock) :
    (s.lock name).1 < (s.lock name).2.nextLock := by
  rcases s.lock_cases name with ⟨l, hl, same⟩ | ⟨-, new⟩
  · rw [same]
    exact bound l hl
  · rw [new]
    exact Nat.lt_succ_self _

/-- Among the locks that were made, the one of a name is the one that it is
bound to. -/
theorem lock_eq_iff {s : Store} {l : Nat} (made : l < s.nextLock) (name : String) :
    (s.lock name).1 = l ↔ Directory.find? name s.locks = some l := by
  rcases s.lock_cases name with ⟨m, bound, hm⟩ | ⟨unbound, hm⟩ <;> rw [hm]
  · rw [bound, Option.some.injEq]
  · rw [unbound]
    exact ⟨fun same => absurd same (Nat.ne_of_gt made), fun none => by cases none⟩

end Store

/-! ## 2. Turns -/

/-- Where a task is. -/
inductive Place
  | outside
  /-- It was given a lock of a name, and waits until that is free. -/
  | waiting (name : String) (l : Nat)
  /-- It holds a lock of a name. -/
  | inside (name : String) (l : Nat)
  deriving DecidableEq

/-- The task was given this lock of the name. -/
def Place.Has (name : String) (l : Nat) (p : Place) : Prop :=
  p = .waiting name l ∨ p = .inside name l

/-- What a task does to the store and its locks. -/
inductive Turn
  | ask (t : Nat) (name : String)
  | enter (t : Nat)
  | leave (t : Nat)
  /-- The task does not wait any longer. -/
  | quit (t : Nat)
  | remove (name : String)
  /-- Something is done that has nothing to do with locks. -/
  | write
  deriving DecidableEq

/-- The task that is in another place after the turn. -/
def Turn.task? : Turn → Option Nat
  | .ask t _ | .enter t | .leave t | .quit t => some t
  | .remove _ | .write => none

/-- The task stays where it is. -/
def Spares (t : Nat) (ts : List Turn) : Prop := ∀ e ∈ ts, e.task? ≠ some t

/-- A store, and the places of the tasks that share it. -/
structure Crew where
  store : Store
  place : Nat → Place

namespace Crew

/-- The task is in another place, and the store is another one. -/
def move (c : Crew) (t : Nat) (p : Place) (s : Store) : Crew := ⟨s, Function.update c.place t p⟩

/-- One turn. A lock is entered when it is free, by a task that was given
it. -/
inductive Step : Crew → Turn → Crew → Prop
  | ask {c : Crew} {t : Nat} (name : String) (out : c.place t = .outside) :
      Step c (.ask t name) (c.move t (.waiting name (c.store.lock name).1) (c.store.lock name).2)
  | enter {c : Crew} {t : Nat} {name : String} {l : Nat} (waits : c.place t = .waiting name l)
      (free : c.store.isHeld l = false) :
      Step c (.enter t) (c.move t (.inside name l) (c.store.acquire l))
  | leave {c : Crew} {t : Nat} {name : String} {l : Nat} (inside : c.place t = .inside name l) :
      Step c (.leave t) (c.move t .outside (c.store.release l))
  | quit {c : Crew} {t : Nat} {name : String} {l : Nat} (waits : c.place t = .waiting name l) :
      Step c (.quit t) (c.move t .outside c.store)
  | remove (c : Crew) (name : String) :
      Step c (.remove name) { c with store := c.store.remove name }
  | write {c : Crew} {s : Store} (same : c.store.SameLocks s) :
      Step c .write { c with store := s }

/-- One turn after another. -/
inductive Path : Crew → List Turn → Crew → Prop
  | nil (c : Crew) : Path c [] c
  | cons {c c' c'' : Crew} {e : Turn} {ts : List Turn} (first : c.Step e c')
      (rest : Path c' ts c'') : Path c (e :: ts) c''

namespace Path

variable {c c' c'' : Crew} {a b : List Turn}

theorem append (h : c.Path a c') (h' : c'.Path b c'') : c.Path (a ++ b) c'' := by
  induction h with
  | nil => exact h'
  | cons first _ ih => exact .cons first (ih h')

theorem snoc {e : Turn} (h : c.Path a c') (last : c'.Step e c'') : c.Path (a ++ [e]) c'' :=
  h.append (.cons last (.nil _))

/-- A path has a crew between any two of its turns. -/
theorem split (h : c.Path (a ++ b) c'') : ∃ c', c.Path a c' ∧ c'.Path b c'' := by
  induction a generalizing c with
  | nil => exact ⟨c, .nil c, h⟩
  | cons e a ih =>
    cases h with
    | cons first rest =>
      obtain ⟨c', before, after⟩ := ih rest
      exact ⟨c', .cons first before, after⟩

end Path

/-! ## 3. What one turn does -/

section Turns

variable {c c' : Crew} {e : Turn}

theorem Step.nextLock_le (h : c.Step e c') : c.store.nextLock ≤ c'.store.nextLock := by
  cases h with
  | ask name _ => exact c.store.nextLock_le_lock name
  | write same => exact Nat.le_of_eq same.nextLock.symm
  | enter | leave | quit | remove => exact Nat.le_refl _

/-- Nobody is moved but the task whose turn it is. -/
theorem Step.place_of_ne {t : Nat} (h : c.Step e c') (other : e.task? ≠ some t) :
    c'.place t = c.place t := by
  have apart {u : Nat} (hu : some u ≠ some t) : t ≠ u := fun same => hu (by rw [same])
  cases h with
  | ask | enter | leave | quit => exact Function.update_of_ne (apart other) _ _
  | remove | write => rfl

/-- A lock that was made stays with its name unless that is removed, and no
name gets it anew. -/
theorem Step.find?_locks {name : String} {l : Nat} (h : c.Step e c')
    (made : l < c.store.nextLock) :
    Directory.find? name c'.store.locks = some l ↔
      Directory.find? name c.store.locks = some l ∧ e ≠ .remove name := by
  have kept (he : e ≠ .remove name) (same : c'.store.locks = c.store.locks) :
      Directory.find? name c'.store.locks = some l ↔
        Directory.find? name c.store.locks = some l ∧ e ≠ .remove name := by
    rw [same]
    exact (and_iff_left he).symm
  cases h with
  | ask other _ =>
    refine Iff.trans ?_ (and_iff_left (by simp)).symm
    show Directory.find? name (c.store.lock other).2.locks = some l ↔ _
    by_cases ho : name = other
    · subst ho
      rw [Store.find?_lock_self, Option.some.injEq]
      exact Store.lock_eq_iff made name
    · rw [Store.find?_lock_of_ne ho]
  | enter | leave | quit => exact kept (by simp) rfl
  | write same => exact kept (by simp) same.locks
  | remove other =>
    show Directory.find? name (c.store.locks.unbind other) = some l ↔ _
    by_cases ho : name = other
    · subst ho
      simp [Directory.find?_unbind_self]
    · rw [Directory.find?_unbind_of_ne ho]
      exact (and_iff_left fun same => ho (Turn.remove.inj same).symm).symm

/-- Where the task was and is whose turn it is. -/
theorem Step.place_self {t : Nat} (h : c.Step e c') (own : e.task? = some t) :
    (∃ name, e = .ask t name ∧ c.place t = .outside ∧
        c'.place t = .waiting name (c.store.lock name).1) ∨
      (∃ name l, e = .enter t ∧ c.place t = .waiting name l ∧ c.store.isHeld l = false ∧
        c'.place t = .inside name l) ∨
      (∃ name l, e = .leave t ∧ c.place t = .inside name l ∧ c'.place t = .outside) ∨
      ∃ name l, e = .quit t ∧ c.place t = .waiting name l ∧ c'.place t = .outside := by
  cases h with
  | ask name out =>
    cases own
    exact Or.inl ⟨name, rfl, out, Function.update_self ..⟩
  | enter waits free =>
    cases own
    exact Or.inr (Or.inl ⟨_, _, rfl, waits, free, Function.update_self ..⟩)
  | leave inside =>
    cases own
    exact Or.inr (Or.inr (Or.inl ⟨_, _, rfl, inside, Function.update_self ..⟩))
  | quit waits =>
    cases own
    exact Or.inr (Or.inr (Or.inr ⟨_, _, rfl, waits, Function.update_self ..⟩))
  | remove | write => cases own

/-- A task that was given a lock has asked for it now, or had it before. -/
theorem Step.has_cases {t : Nat} {name : String} {l : Nat} (h : c.Step e c')
    (has : (c'.place t).Has name l) :
    e = .ask t name ∧ (c.store.lock name).1 = l ∨ (c.place t).Has name l := by
  by_cases own : e.task? = some t
  · rcases h.place_self own with ⟨n, rfl, -, hp⟩ | ⟨n, m, -, waits, -, hp⟩ |
      ⟨n, m, -, -, hp⟩ | ⟨n, m, -, -, hp⟩ <;>
      rw [Place.Has, hp] at has <;> rcases has with has | has <;> cases has
    · exact Or.inl ⟨rfl, rfl⟩
    · exact Or.inr (Or.inl waits)
  · rw [h.place_of_ne own] at has
    exact Or.inr has

/-- A task is inside because it has just entered, or because it stayed. -/
theorem Step.inside_cases {t : Nat} {name : String} {l : Nat} (h : c.Step e c')
    (inside : c'.place t = .inside name l) :
    e = .enter t ∧ c.place t = .waiting name l ∧ c.store.isHeld l = false ∨
      e.task? ≠ some t ∧ c.place t = .inside name l := by
  by_cases own : e.task? = some t
  · rcases h.place_self own with ⟨n, -, -, hp⟩ | ⟨n, m, he, waits, free, hp⟩ |
      ⟨n, m, -, -, hp⟩ | ⟨n, m, -, -, hp⟩ <;>
      rw [hp] at inside <;> cases inside
    exact Or.inl ⟨he, waits, free⟩
  · exact Or.inr ⟨own, by rw [← h.place_of_ne own, inside]⟩

/-- A task stays inside until it leaves. -/
theorem Step.place_of_inside {t : Nat} {name : String} {l : Nat} (h : c.Step e c')
    (inside : c.place t = .inside name l) (stays : e ≠ .leave t) : c'.place t = .inside name l := by
  by_cases own : e.task? = some t
  · rcases h.place_self own with ⟨n, -, hp, -⟩ | ⟨n, m, -, hp, -⟩ | ⟨n, m, he, -⟩ | ⟨n, m, -, hp, -⟩
    · cases inside.symm.trans hp
    · cases inside.symm.trans hp
    · exact absurd he stays
    · cases inside.symm.trans hp
  · rw [h.place_of_ne own, inside]

/-- A task waits until it enters what it waits for, or quits. -/
theorem Step.place_of_waiting {t : Nat} {name : String} {l : Nat} (h : c.Step e c')
    (waits : c.place t = .waiting name l) (stays : e ≠ .quit t) :
    c'.place t = if e = .enter t then .inside name l else .waiting name l := by
  by_cases own : e.task? = some t
  · rcases h.place_self own with ⟨n, -, hp, -⟩ | ⟨n, m, rfl, hp, -, hp'⟩ | ⟨n, m, -, hp, -⟩ |
      ⟨n, m, he, -⟩
    · cases waits.symm.trans hp
    · cases waits.symm.trans hp
      rw [if_pos rfl, hp']
    · cases waits.symm.trans hp
    · exact absurd he stays
  · rw [h.place_of_ne own, waits, if_neg]
    rintro rfl
    exact own rfl

/-- What a task enters is held afterwards. -/
theorem Step.isHeld_enter {t : Nat} {name : String} {l : Nat} (h : c.Step (.enter t) c')
    (waits : c.place t = .waiting name l) : c'.store.isHeld l = true := by
  cases h with
  | enter waits' _ =>
    cases waits.symm.trans waits'
    simp [move, Store.isHeld, Store.acquire]

/-- What is held stays so until a task that is inside leaves. -/
theorem Step.isHeld_of {l : Nat} (h : c.Step e c') (held : c.store.isHeld l = true)
    (stays : ∀ t n, c.place t = .inside n l → e ≠ .leave t) : c'.store.isHeld l = true := by
  cases h with
  | ask name _ =>
    show (c.store.lock name).2.held.contains l = true
    rw [Store.held_lock]
    exact held
  | enter => exact List.contains_iff_mem.mpr (List.mem_cons_of_mem _ (List.contains_iff_mem.mp held))
  | @leave t name m inside =>
    have other : l ≠ m := by
      rintro rfl
      exact stays t name inside rfl
    refine List.contains_iff_mem.mpr (List.mem_filter.mpr ⟨List.contains_iff_mem.mp held, ?_⟩)
    simpa using other
  | quit | remove => exact held
  | @write s same =>
    show s.held.contains l = true
    rw [same.held]
    exact held

end Turns

/-! ## 4. Fit crews -/

/-- Locks are made before they are given, what a task holds is held, and no
two tasks hold one lock. -/
structure Fit (c : Crew) : Prop where
  bound : ∀ {name l}, Directory.find? name c.store.locks = some l → l < c.store.nextLock
  given : ∀ {t name l}, (c.place t).Has name l → l < c.store.nextLock
  held : ∀ {t name l}, c.place t = .inside name l → c.store.isHeld l = true
  alone : ∀ {t u n m l}, c.place t = .inside n l → c.place u = .inside m l → t = u

/-- The locks of the name that were given are all the name's lock. -/
def Tidy (name : String) (c : Crew) : Prop :=
  ∀ t l, (c.place t).Has name l → (c.store.lock name).1 = l

variable {c c' : Crew} {e : Turn} {ts : List Turn}

theorem Fit.step (fit : c.Fit) (h : c.Step e c') : c'.Fit where
  bound {name l} hl := by
    by_cases made : l < c.store.nextLock
    · exact Nat.lt_of_lt_of_le made h.nextLock_le
    · -- a lock of the new crew that was not made before is the one just asked for
      cases h with
      | ask other _ =>
        by_cases ho : name = other
        · subst ho
          rw [move, Store.find?_lock_self] at hl
          cases hl
          exact Store.lock_lt fun _ => fit.bound
        · rw [move, Store.find?_lock_of_ne ho] at hl
          exact absurd (fit.bound hl) made
      | enter | leave | quit => exact absurd (fit.bound hl) made
      | write same =>
        rw [same.locks] at hl
        exact absurd (fit.bound hl) made
      | remove other =>
        by_cases ho : name = other
        · subst ho
          rw [Store.remove, Directory.find?_unbind_self] at hl
          cases hl
        · rw [Store.remove, Directory.find?_unbind_of_ne ho] at hl
          exact absurd (fit.bound hl) made
  given {t name l} has := by
    rcases h.has_cases has with ⟨rfl, rfl⟩ | before
    · cases h with
      | ask => exact Store.lock_lt fun _ => fit.bound
    · exact Nat.lt_of_lt_of_le (fit.given before) h.nextLock_le
  held {t name l} inside := by
    rcases h.inside_cases inside with ⟨rfl, waits, -⟩ | ⟨other, before⟩
    · exact h.isHeld_enter waits
    · refine h.isHeld_of (fit.held before) fun u n hu => ?_
      rintro rfl
      exact other (congrArg some (fit.alone hu before))
  alone {t u n m l} ht hu := by
    rcases h.inside_cases ht with ⟨rfl, -, free⟩ | ⟨-, before⟩ <;>
      rcases h.inside_cases hu with ⟨he, -, free'⟩ | ⟨-, before'⟩
    · exact Turn.enter.inj he
    · exact absurd (fit.held before') (by simp [free])
    · exact absurd (fit.held before) (by simp [free'])
    · exact fit.alone before before'

theorem Path.fit (h : c.Path ts c') (fit : c.Fit) : c'.Fit := by
  induction h with
  | nil => exact fit
  | cons first _ ih => exact ih (fit.step first)

theorem Path.nextLock_le (h : c.Path ts c') : c.store.nextLock ≤ c'.store.nextLock := by
  induction h with
  | nil => exact Nat.le_refl _
  | cons first _ ih => exact Nat.le_trans first.nextLock_le ih

/-- A lock that was made stays with its name until that is removed, and no
name ever gets it anew. -/
theorem Path.find?_locks {name : String} {l : Nat} (h : c.Path ts c')
    (made : l < c.store.nextLock) :
    Directory.find? name c'.store.locks = some l ↔
      Directory.find? name c.store.locks = some l ∧ .remove name ∉ ts := by
  induction h with
  | nil => simp
  | @cons _ _ _ e ts first _ ih =>
    rw [ih (Nat.lt_of_lt_of_le made first.nextLock_le), first.find?_locks made, List.mem_cons,
      not_or, and_assoc]
    exact and_congr_right fun _ => and_congr_left fun _ => ne_comm

theorem Step.tidy {name : String} (h : c.Step e c') (fit : c.Fit) (tidy : c.Tidy name)
    (kept : e ≠ .remove name) : c'.Tidy name := by
  intro t l has
  refine (Store.lock_eq_iff ((fit.step h).given has) name).mpr ?_
  rcases h.has_cases has with ⟨rfl, rfl⟩ | before
  · cases h with
    | ask => exact Store.find?_lock_self _ _
  · have made := fit.given before
    exact (h.find?_locks made).mpr ⟨(Store.lock_eq_iff made name).mp (tidy t l before), kept⟩

theorem Path.tidy {name : String} (h : c.Path ts c') (fit : c.Fit) (tidy : c.Tidy name)
    (kept : .remove name ∉ ts) : c'.Tidy name := by
  induction h with
  | nil => exact tidy
  | cons first _ ih =>
    rw [List.mem_cons, not_or] at kept
    exact ih (fit.step first) (first.tidy fit tidy (Ne.symm kept.1)) kept.2

/-- At most one task holds a lock of a name if all of these are the name's
lock. -/
theorem Fit.eq_of_inside {name : String} {t u l m : Nat} (fit : c.Fit) (tidy : c.Tidy name)
    (ht : c.place t = .inside name l) (hu : c.place u = .inside name m) : t = u := by
  obtain rfl : l = m := (tidy t l (Or.inr ht)).symm.trans (tidy u m (Or.inr hu))
  exact fit.alone ht hu

theorem Path.place_of_inside {t : Nat} {name : String} {l : Nat} (h : c.Path ts c')
    (inside : c.place t = .inside name l) (stays : .leave t ∉ ts) :
    c'.place t = .inside name l := by
  induction h with
  | nil => exact inside
  | cons first _ ih =>
    rw [List.mem_cons, not_or] at stays
    exact ih (first.place_of_inside inside (Ne.symm stays.1)) stays.2

theorem Path.place_of_waiting {t : Nat} {name : String} {l : Nat} (h : c.Path ts c')
    (waits : c.place t = .waiting name l) (stays : .leave t ∉ ts) (patient : .quit t ∉ ts) :
    c'.place t = if .enter t ∈ ts then .inside name l else .waiting name l := by
  induction h with
  | nil => simpa using waits
  | @cons _ _ _ e ts first rest ih =>
    rw [List.mem_cons, not_or] at stays patient
    have here := first.place_of_waiting waits (Ne.symm patient.1)
    by_cases he : e = .enter t
    · rw [if_pos he] at here
      rw [if_pos (by simp [he]), rest.place_of_inside here stays.2]
    · rw [if_neg he] at here
      rw [ih here stays.2 patient.2]
      simp [Ne.symm he]

/-! ## 5. How long a lock excludes -/

/-- What the turns between two crews make of locks. A task that asked for
the lock of a name and has not given it back was given the name's lock, and
it is the name's lock just as long as the name is not removed. Nor is there
a second task inside the name until then, if all locks of the name that had
been given before were the name's lock. -/
structure Excludes (c : Crew) (ts : List Turn) (c' : Crew) : Prop where
  lock : ∀ {t name before since}, ts = before ++ .ask t name :: since →
    .leave t ∉ since → .quit t ∉ since →
      ∃ l, c'.place t = (if .enter t ∈ since then .inside name l else .waiting name l) ∧
        ((c'.store.lock name).1 = l ↔ .remove name ∉ since)
  alone : ∀ {name t u l m}, c.Tidy name → .remove name ∉ ts →
    c'.place t = .inside name l → c'.place u = .inside name m → t = u

/-- Whatever turns are taken, in whatever order. -/
theorem Path.excludes (h : c.Path ts c') (fit : c.Fit) : c.Excludes ts c' where
  lock {t name before since} split stays patient := by
    subst split
    obtain ⟨c₁, earlier, later⟩ := h.split
    cases later with
    | cons asked rest =>
      have fit₁ := earlier.fit fit
      refine ⟨(c₁.store.lock name).1, ?_, ?_⟩
      · refine rest.place_of_waiting ?_ stays patient
        cases asked
        exact Function.update_self ..
      · cases asked with
        | ask _ out =>
          have made : (c₁.store.lock name).1 < (c₁.store.lock name).2.nextLock :=
            Store.lock_lt fun _ => fit₁.bound
          refine (Store.lock_eq_iff (Nat.lt_of_lt_of_le made rest.nextLock_le) name).trans ?_
          exact (rest.find?_locks made).trans (and_iff_right (Store.find?_lock_self _ _))
  alone tidy kept ht hu := (h.fit fit).eq_of_inside (h.tidy fit tidy kept) ht hu

end Crew

end Upkeep
