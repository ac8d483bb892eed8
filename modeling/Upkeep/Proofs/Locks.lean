/-
Upkeep.Proofs.Locks — how long a lock keeps others out.

A pass asks for the lock of its name, enters, and leaves when it has closed
its session; in between other tasks take their turns (`Pass.run_excludes`).
Where every task is, is told by a `Roster`. What other tasks do is theirs to
say: surroundings are `Shared` if what happens in a pause are turns of them.
In rehearsals it is, also where the tasks that interrupt a pass are passes
(`Rehearsal.shared_around`).

The lock keeps others out as long as the name is not removed. That may be the
work of the pass itself: one that forgets its name still holds the lock, but
from then on it keeps nobody out (`Pass.second_pass_inside`).
-/
import Upkeep.Rehearsal
import Upkeep.Proofs.Bounds
import Upkeep.Proofs.Crew
import Upkeep.Proofs.Performing

namespace Upkeep

open Upkeep.Act

/-! ## 1. Tasks of the service -/

variable {σ α : Type}

/-- Where every task is, told by the state of the host: what other tasks are
about may be kept there. -/
abbrev Roster (σ : Type) := σ → Nat → Place

namespace Roster

/-- The roster with a task in some place. -/
def put (roster : Roster σ) (t : Nat) (p : Place) : Roster σ := fun s =>
  Function.update (roster s) t p

/-- The crew in a state of the service. -/
def crew (roster : Roster σ) (w : World σ) : Crew := ⟨w.store, roster w.host⟩

theorem place_crew_put (roster : Roster σ) (t : Nat) (p : Place) (w : World σ) :
    ((roster.put t p).crew w).place t = p := Function.update_self ..

theorem put_outside {place : Nat → Place} {t : Nat} (free : place t = .outside) :
    put (fun _ : σ => place) t .outside = fun _ => place := by
  funext _
  rw [put, ← free]
  exact Function.update_eq_self t place

variable (roster : Roster σ) (t : Nat)

/-- Moving a task is another place in the roster. -/
theorem move_crew {p q : Place} (w : World σ) (s : Store) :
    ((roster.put t p).crew w).move t q s = (roster.put t q).crew { w with store := s } := by
  simp [crew, put, Crew.move]

/-! The turns of one task. -/

theorem step_ask (name : String) (w : World σ) :
    ((roster.put t .outside).crew w).Step (.ask t name)
      ((roster.put t (.waiting name (w.store.lock name).1)).crew
        { w with store := (w.store.lock name).2 }) := by
  have step := Crew.Step.ask name (roster.place_crew_put t .outside w)
  rwa [move_crew] at step

theorem step_enter (name : String) {l : Nat} {w : World σ} (free : w.store.isHeld l = false) :
    ((roster.put t (.waiting name l)).crew w).Step (.enter t)
      ((roster.put t (.inside name l)).crew { w with store := w.store.acquire l }) := by
  have step := Crew.Step.enter (roster.place_crew_put t (.waiting name l) w) free
  rwa [move_crew] at step

theorem step_leave (name : String) (l : Nat) (w : World σ) :
    ((roster.put t (.inside name l)).crew w).Step (.leave t)
      ((roster.put t .outside).crew { w with store := w.store.release l }) := by
  have step := Crew.Step.leave (roster.place_crew_put t (.inside name l) w)
  rwa [move_crew] at step

theorem step_quit (name : String) (l : Nat) (w : World σ) :
    ((roster.put t (.waiting name l)).crew w).Step (.quit t)
      ((roster.put t .outside).crew w) := by
  have step := Crew.Step.quit (roster.place_crew_put t (.waiting name l) w)
  rwa [move_crew] at step

end Roster

/-- If the crew was fit, tasks took turns, though not those in `busy`. -/
def TakesTurns (roster : Roster σ) (busy : Set Nat) (_ : Journal) (w w' : World σ) : Prop :=
  (roster.crew w).Fit → ∃ ts, (∀ t ∈ busy, Spares t ts) ∧ (roster.crew w).Path ts (roster.crew w')

/-- The host does not move tasks by what it answers, and in a pause tasks
take turns, though not those in `busy`. -/
structure Surroundings.Shared (env : Surroundings σ) (roster : Roster σ) (busy : Set Nat) :
    Prop where
  host : ∀ {s s'}, env.host.Asked s s' → roster s' = roster s
  pause : ∀ pause, (env.meanwhile pause).Keeps (TakesTurns roster busy)

namespace TakesTurns

variable {roster : Roster σ} {busy : Set Nat} {es : Journal} {w w' : World σ}

theorem of_crew (h : roster.crew w' = roster.crew w) : TakesTurns roster busy es w w' := fun _ =>
  ⟨[], fun _ _ => nofun, by rw [h]; exact .nil _⟩

theorem of_step {e : Turn} (still : e.task? = none) (h : (roster.crew w).Step e (roster.crew w')) :
    TakesTurns roster busy es w w' := by
  refine fun _ => ⟨[e], fun t _ e' he => ?_, .cons h (.nil _)⟩
  obtain rfl := List.mem_singleton.mp he
  rw [still]
  exact nofun

/-- The records changed. -/
theorem write {s : Store} (same : w.store.SameLocks s) :
    TakesTurns roster busy es w { w with store := s } := .of_step rfl (.write same)

theorem lasts : Lasts (TakesTurns roster busy) where
  refl _ := .of_crew rfl
  trans h h' fit := by
    obtain ⟨ts, spared, path⟩ := h fit
    obtain ⟨ts', spared', path'⟩ := h' (path.fit fit)
    refine ⟨ts ++ ts', fun t ht e he => ?_, path.append path'⟩
    exact (List.mem_append.mp he).elim (spared t ht e) (spared' t ht e)

end TakesTurns

/-- What a pass does under its lock are turns that move nobody, and those of
the others. -/
theorem Surroundings.Shared.sessionBounds {env : Surroundings σ} {roster : Roster σ}
    {busy : Set Nat} (h : env.Shared roster busy) (name : String) (k : Nat) :
    Pass.SessionBounds env name k (TakesTurns roster busy) where
  lasts := TakesTurns.lasts
  beside w _ _ asked := .of_crew (by simp only [Roster.crew, h.host asked])
  aside _ _ := .of_crew rfl
  pause := h.pause
  milestone _ _ := .of_crew rfl
  edit _ _ := .write ⟨rfl, rfl, rfl⟩
  forget {n es w w'} _ hR := by
    have gone : TakesTurns roster busy [] w' { w' with store := w'.store.remove n } :=
      .of_step rfl (.remove _ n)
    simpa using TakesTurns.lasts.trans hR gone
  observe _ _ := .write ⟨rfl, rfl, rfl⟩

/-! ## 2. Work under a lock -/

/-- What a task does about the lock of a name: it is turned away if the lock
is not free, or it is inside while others, though not those in `busy`, take
their turns. -/
inductive Stay (t : Nat) (name : String) (busy : Set Nat) : Except Problem α → List Turn → Prop
  | turnedAway : Stay t name busy (.error (.fault (.deadlock name))) [.ask t name, .quit t]
  | served {o : Except Problem α} {during : List Turn} (spared : ∀ u ∈ busy, Spares u during) :
      Stay t name busy o (.ask t name :: .enter t :: during ++ [.leave t])

/-- From a fit crew, work under the lock of a name is a stay if other tasks
take turns while the work is done. -/
theorem Register.gives_underLock_stay {roster : Roster σ} {t : Nat} {busy : Set Nat}
    {name : String} {work : Act σ α} {w : World σ}
    (hwork : ∀ l, work.Keeps (TakesTurns (roster.put t (.inside name l)) busy)) :
    (underLock name work).Gives w fun _ o w' => ((roster.put t .outside).crew w).Fit →
      ∃ ts, Stay t name busy o ts ∧
        ((roster.put t .outside).crew w).Path ts ((roster.put t .outside).crew w') := by
  have asked := Roster.step_ask roster t name w
  unfold underLock
  refine gives_bind (gives_modifyGet rfl (gives_get_bind ?_))
  dsimp only
  split
  · exact gives_raise fun _ => ⟨_, .turnedAway, .cons asked (.cons (Roster.step_quit ..) (.nil _))⟩
  · rename_i free
    have entered := Roster.step_enter roster t name (w := { w with store := (w.store.lock name).2 })
      (Bool.eq_false_iff.mpr free)
    refine gives_edit_bind ((hwork (w.store.lock name).1 _).ensuring fun es o w' turns =>
      gives_editStore fun fit => ?_)
    obtain ⟨during, spared, path⟩ := turns ((fit.step asked).step entered)
    exact ⟨_, .served spared, .cons asked (.cons entered (path.snoc (Roster.step_leave ..)))⟩

namespace Pass

variable {env : Surroundings σ} {roster : Roster σ} {busy : Set Nat}

/-- A pass does its work under the lock, and the others take turns then. -/
theorem keeps_work_turns (shared : env.Shared roster busy) (name : String) :
    Act.Keeps (do
      match (← get).store.find? name with
      | none => raise (.fault (.unknownName name))
      | some k => body env name k) (TakesTurns roster busy) := by
  refine (keeps_get TakesTurns.lasts).bind TakesTurns.lasts fun w₁ => ?_
  split
  · exact keeps_raise TakesTurns.lasts _
  · exact (shared.sessionBounds name _).joined.keeps_body

end Pass

/-! ## 3. Tasks within tasks -/

theorem Stay.spares {t u : Nat} {name : String} {busy : Set Nat} {o : Except Problem α}
    {ts : List Turn} (h : Stay t name busy o ts) (hu : u ∈ busy) (hne : u ≠ t) :
    Spares u ts := by
  have own {e : Turn} (he : e.task? = some t) : e.task? ≠ some u := by
    rw [he]
    exact fun same => hne (Option.some.inj same).symm
  intro e he
  cases h with
  | turnedAway =>
    simp only [List.mem_cons, List.not_mem_nil, or_false] at he
    rcases he with rfl | rfl <;> exact own rfl
  | served spared =>
    simp only [List.cons_append, List.mem_cons, List.mem_append, List.not_mem_nil,
      or_false] at he
    rcases he with rfl | rfl | he | rfl
    · exact own rfl
    · exact own rfl
    · exact spared u hu e he
    · exact own rfl

theorem TakesTurns.mono {roster : Roster σ} {busy busy' : Set Nat} {es : Journal}
    {w w' : World σ} (h : TakesTurns roster busy es w w') (fewer : busy' ⊆ busy) :
    TakesTurns roster busy' es w w' := fun fit =>
  let ⟨ts, spared, path⟩ := h fit
  ⟨ts, fun t ht => spared t (fewer ht), path⟩

theorem Surroundings.Shared.mono {env : Surroundings σ} {roster : Roster σ}
    {busy busy' : Set Nat} (h : env.Shared roster busy) (fewer : busy' ⊆ busy) :
    env.Shared roster busy' where
  host := h.host
  pause p w := (h.pause p w).mono fun _ _ _ turns => turns.mono fewer

namespace Register

variable {roster : Roster σ} {busy : Set Nat}

theorem keeps_log_turns {level : Log.Level} {source text : String} :
    (Act.log level source text : Act σ Unit).Keeps (TakesTurns roster busy) := fun _ =>
  gives_note (.of_crew rfl)

theorem keeps_remove_turns (name : String) :
    (remove name : Act σ Unit).Keeps (TakesTurns roster busy) := by
  have lasts : Lasts (TakesTurns roster busy) := TakesTurns.lasts
  unfold remove
  refine (keeps_get lasts).bind lasts fun _ => ?_
  refine Keeps.bind lasts (fun w => gives_editStore ?_) fun _ => ?_
  · exact .of_step rfl (.remove (roster.crew w) name)
  · split
    · exact (keeps_get lasts).bind lasts fun _ => keeps_log_turns
    · exact keeps_pure lasts _

end Register

namespace Service

variable {env : Surroundings σ} {n : Nat} {place : Nat → Place}

/-- Work of task `n` under a lock is something that tasks before it have no
part in. -/
theorem keeps_underLock_turns {name : String} {work : Act σ α} (free : place n = .outside)
    (hwork : ∀ l, work.Keeps
      (TakesTurns (Roster.put (fun _ => place) n (.inside name l)) {u | u < n})) :
    (Register.underLock name work).Keeps (TakesTurns (fun _ => place) {u | u < n}) := by
  intro w
  have stays := Register.gives_underLock_stay (w := w) hwork
  rw [Roster.put_outside free] at stays
  refine stays.mono fun es o w' stays fit => ?_
  obtain ⟨ts, stay, path⟩ := stays fit
  exact ⟨ts, fun u hu => stay.spares hu (Nat.ne_of_lt hu), path⟩

/-- Whatever is requested of the service by a task that nobody interrupts:
the turns are its own and those of the tasks that interrupt it. -/
theorem invariant_takesTurns (free : place n = .outside)
    (shared : ∀ name l, env.Shared (Roster.put (fun _ => place) n (.inside name l)) {u | u < n}) :
    Invariant env (fun _ => True) (TakesTurns (fun _ => place) {u | u < n}) where
  lasts := TakesTurns.lasts
  aside {es w w'} h := .of_step (e := .write) rfl (.write (by rw [h.store]; exact ⟨rfl, rfl, rfl⟩))
  readable _ _ := trivial
  put name credentials bundle _ := by
    have lasts {l : Nat} : Lasts (TakesTurns (σ := σ)
        (Roster.put (fun _ => place) n (.inside name l)) {u | u < n}) := TakesTurns.lasts
    refine keeps_underLock_turns free fun l => (keeps_get lasts).bind lasts fun w => ?_
    split
    · refine Register.keeps_log_turns.bind lasts fun _ w => gives_editStore ?_
      exact .write ⟨rfl, rfl, rfl⟩
    · refine Keeps.bind lasts (fun w => gives_editStore ?_) fun _ => Register.keeps_log_turns
      exact .write ⟨rfl, rfl, rfl⟩
  remove := Register.keeps_remove_turns
  lock name := by
    refine fun w => gives_modifyGet rfl fun _ => ⟨[.ask n name, .quit n], fun u hu e he => ?_, ?_⟩
    · have stay : Stay (α := Unit) n name {u | u < n} _ _ := .turnedAway
      exact stay.spares hu (Nat.ne_of_lt hu) e he
    · have asked := Roster.step_ask (fun _ => place) n name w
      have path := Crew.Path.cons asked (.cons (Roster.step_quit ..) (.nil _))
      rwa [Roster.put_outside free] at path
  pass name := keeps_underLock_turns free fun l => Pass.keeps_work_turns (shared name l) name

end Service

theorem vacant_update {n : Nat} {place : Nat → Place} (vacant : ∀ u, n ≤ u → place u = .outside)
    (p : Place) (u : Nat) (hu : n + 1 ≤ u) : Function.update place n p u = .outside :=
  (Function.update_of_ne (Nat.ne_of_gt hu) _ _).trans (vacant u (Nat.le_of_succ_le hu))

/-- In a rehearsal, the tasks that interrupt a task may be passes, too, and
be interrupted themselves: whatever is requested of the service while a
command runs, the tasks that wait for it to end stay where they are. -/
theorem Rehearsal.shared_around (env : Surroundings (Rehearsal Request)) :
    ∀ (depth n : Nat) {place : Nat → Place}, (∀ u, n ≤ u → place u = .outside) →
      (around Service.perform env depth).Shared (fun _ => place) {u | u < n}
  | 0, _, _, _ => ⟨fun _ => rfl, fun _ => keeps_pure TakesTurns.lasts _⟩
  | depth + 1, n, place, vacant => by
    have lasts : Lasts (TakesTurns (fun _ : Rehearsal Request => place) {u | u < n}) :=
      TakesTurns.lasts
    refine ⟨fun _ => rfl, fun pause => ?_⟩
    show (interlude (Service.perform (around Service.perform env depth)) pause).Keeps _
    unfold interlude
    split
    · refine (keeps_get lasts).bind lasts fun w => ?_
      split
      · exact keeps_pure lasts _
      · refine Keeps.bind lasts (fun w => gives_modify rfl (.of_crew rfl)) fun _ => ?_
        refine Keeps.bind lasts ?_ fun _ => fun w => gives_note (.of_crew rfl)
        refine Service.keeps_perform ?_ _ (Service.admits_any [_] _ (List.mem_singleton_self _))
        refine Service.invariant_takesTurns (vacant n (Nat.le_refl n)) fun name l => ?_
        exact (shared_around env depth (n + 1) (vacant_update vacant (.inside name l))).mono
          fun _ hu => Nat.lt_succ_of_lt hu
    · exact keeps_pure lasts _

/-- Nobody is about anything but the first task. -/
theorem Rehearsal.shared_around_first (env : Surroundings (Rehearsal Request)) (depth : Nat)
    (p : Place) : (around Service.perform env depth).Shared
      (Roster.put (fun _ _ => .outside) 0 p) {0} := by
  refine (shared_around env depth 1 (vacant_update (fun _ _ => rfl) p)).mono fun u hu => ?_
  obtain rfl : u = 0 := hu
  exact Nat.zero_lt_one

theorem Crew.fit_empty : Crew.Fit ⟨{}, fun _ => .outside⟩ where
  bound := nofun
  given has := by rcases has with has | has <;> cases has
  held := nofun
  alone := nofun

/-- After whatever was requested, the crew is fit. -/
theorem Rehearsal.fit_serve (env : Surroundings (Rehearsal Request)) (depth : Nat)
    (r : Rehearsal Request) (requests : List Request) :
    (Roster.crew (fun _ _ => .outside)
      (Service.serve (around Service.perform env depth) (Service.start r) requests)).Fit := by
  have inv : Service.Invariant (around Service.perform env depth) (fun _ => True)
      (TakesTurns (fun _ _ => .outside) {u | u < 0}) :=
    Service.invariant_takesTurns rfl fun name l =>
      (shared_around_first env depth (.inside name l)).mono fun u hu => absurd hu (Nat.not_lt_zero u)
  obtain ⟨_, -, turns⟩ := Service.exists_serve inv requests (Service.start r)
    (Service.admits_any requests)
  obtain ⟨_, -, path⟩ := turns Crew.fit_empty
  exact path.fit Crew.fit_empty

/-! ## 4. Passes exclude, and cease to -/

namespace Pass

section Exclusion

variable {env : Surroundings σ} {roster : Roster σ} {t : Nat} {w : World σ}

/-- From a fit crew, a pass is a stay. -/
theorem gives_run_stay (name : String)
    (shared : ∀ l, env.Shared (roster.put t (.inside name l)) {t}) :
    (run env name).Gives w fun _ o w' => ((roster.put t .outside).crew w).Fit →
      ∃ ts, Stay t name {t} o ts ∧
        ((roster.put t .outside).crew w).Path ts ((roster.put t .outside).crew w') :=
  Register.gives_underLock_stay fun l => keeps_work_turns (shared l) name

/-- A pass of a task asks for the lock of its name and is turned away, or it
is inside while others take their turns, until it has closed its session.
At any point, a lock that somebody asked for in the meantime and has not
given back is the name's lock if and only if the name was not removed since
then; and nobody is inside a name at the same time as somebody else if the
name was not removed in the meantime, and all of its locks that had been
given when the pass began were the name's lock. -/
theorem run_excludes (name : String)
    (shared : ∀ l, env.Shared (roster.put t (.inside name l)) {t})
    (fit : ((roster.put t .outside).crew w).Fit) :
    (run env name).Gives w fun _ o w' => ∃ ts, Stay t name {t} o ts ∧
      ((roster.put t .outside).crew w).Path ts ((roster.put t .outside).crew w') ∧
      ∀ before after c, ts = before ++ after →
        ((roster.put t .outside).crew w).Path before c →
          ((roster.put t .outside).crew w).Excludes before c := by
  refine (gives_run_stay name shared).mono fun es o w' stays => ?_
  obtain ⟨ts, stay, path⟩ := stays fit
  exact ⟨ts, stay, path, fun _ _ _ _ part => part.excludes fit⟩

end Exclusion

/-- The resource is removed while its status check runs, registered again
while the file of the check is removed, and looked after by another pass
while the init script runs. -/
def intrusion : Rehearsal Request where
  scripts :=
    [("test -d /srv", [{
        course := { waiting := .ok { status := some 100 } }
        interlude := some (.remove "web") }]),
      ("mkdir /srv", [{ interlude := some (.reconcile "web") }])]
  removals :=
    [{ interlude := some (.put "web" Credentials.sample
        { statusCheck := .text "systemctl is-active web" }) },
      {}]

/-- The resource of the intrusion, before the first pass. -/
def intruded : World (Rehearsal Request) :=
  Service.serve (Rehearsal.around Service.perform Rehearsal.host.counted 2)
    (Service.start intrusion)
    [.put "web" Credentials.sample
      { statusCheck := .text "test -d /srv", init := .text "mkdir /srv" }]

/-- The turns of the intrusion, among which is the removal of the name. -/
theorem run_excludes_intruded :
    let env := Rehearsal.around Service.perform Rehearsal.host.counted 2
    let crew := Roster.crew fun _ : Rehearsal Request => fun _ => Place.outside
    (run env "web").Gives intruded fun _ o w' => o.isOk = true ∧
      ∃ ts, Stay 0 "web" {0} o ts ∧ (crew intruded).Path ts (crew w') ∧ .remove "web" ∈ ts ∧
        ∀ before after c, ts = before ++ after → (crew intruded).Path before c →
          (crew intruded).Excludes before c := by
  intro env crew
  have fit : (crew intruded).Fit := Rehearsal.fit_serve _ 2 intrusion _
  have put : Roster.put (fun _ _ => .outside) 0 .outside =
      fun _ : Rehearsal Request => fun _ => Place.outside := Roster.put_outside rfl
  obtain ⟨es, hj, ts, stay, path, points⟩ :=
    run_excludes "web" (fun _ => Rehearsal.shared_around_first _ 2 _) (w := intruded)
      (by rw [put]; exact fit)
  rw [put] at path points
  have returned : ((run env "web").runOn intruded).1.isOk = true := by decide +kernel
  have made : 0 < intruded.store.nextLock := by decide +kernel
  have given : Directory.find? "web" intruded.store.locks = some 0 := by decide +kernel
  have lost : Directory.find? "web" ((run env "web").runOn intruded).2.store.locks = some 1 := by
    decide +kernel
  have removed : .remove "web" ∈ ts := by
    by_contra kept
    have still := (path.find?_locks made).mpr ⟨given, kept⟩
    cases lost.symm.trans still
  exact ⟨es, hj, returned, ts, stay, path, removed, points⟩

/-- While the connection is closed, a resource is registered and looked
after. -/
def renewal : Surroundings (List Int) :=
  let env := Host.obliging.counted
  { env with meanwhile := fun
      | .closing => do
        Register.put "web" Credentials.sample {}
        let _ ← attempt (run env "web")
      | _ => pure () }

/-- Two passes are inside the name at once. In the intrusion, the resource is
registered again, and a second pass over it begins and ends, while the first
one is inside with lock 0. Nor does it take others to remove the name: a
pass that ends a deletion is still inside when the resource is registered
again and the next pass is made. -/
theorem second_pass_inside :
    ((intruded.store.lock "web").1 = 0 ∧
      (run (Rehearsal.around Service.perform Rehearsal.host.counted 2) "web").Gives intruded
        fun es o w' => o.isOk = true ∧
          (∃ bundle, .interlude (.bundle bundle) ∈ es.events) ∧
          (∃ second, .interlude (.report second) ∈ es.events ∧ second.name = "web") ∧
          (w'.store.lock "web").1 = 1) ∧
    let w := Service.serve Host.obliging.counted (Service.start [])
      [.put "web" Credentials.sample { cleanup := .text "rm -r /srv" }, .markDeleting "web"]
    (w.store.lock "web").1 = 0 ∧ w.store.find? "web" = some 0 ∧
      let done := (run renewal "web").runOn w
      done.1.toOption.map Report.deleted = some true ∧ done.2.store.find? "web" = some 1 ∧
        (done.2.store.record 1).lastReconciled.isSome ∧ (done.2.store.lock "web").1 = 1 := by
  refine ⟨⟨by decide +kernel, ?_⟩, by decide +kernel⟩
  obtain ⟨es, hj, -⟩ := gives_run_stay (w := intruded) "web" fun _ =>
    Rehearsal.shared_around_first Rehearsal.host.counted 2 _
  have written := Act.eq_drop_of_added hj
  have registered : (es.events.any fun
      | .interlude (.bundle _) => true
      | _ => false) = true := by
    rw [written]
    decide +kernel
  have passed : (es.events.any fun
      | .interlude (.report second) => second.name == "web"
      | _ => false) = true := by
    rw [written]
    decide +kernel
  refine ⟨es, hj, by decide +kernel, ?_, ?_, by decide +kernel⟩
  · obtain ⟨e, he, hit⟩ := List.any_eq_true.mp registered
    split at hit
    · exact ⟨_, he⟩
    · cases hit
  · obtain ⟨e, he, hit⟩ := List.any_eq_true.mp passed
    split at hit
    · exact ⟨_, he, eq_of_beq hit⟩
    · cases hit

end Pass

end Upkeep
