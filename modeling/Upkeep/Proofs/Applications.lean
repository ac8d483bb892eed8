/-
Upkeep.Proofs.Applications — applications change all they are for, or nothing.

The checks of an application come before anything that it changes. An
application that is turned away leaves log records behind and nothing else;
one that is accepted for a name in use, without a pass, changes the
credentials and the bundle of that name's record (`Store.Rewritten`) and
nothing else (`Service.apply_atomic`). If the lock of the name is held, the
change has to wait. It is the same change whenever its turn comes
(`Register.runOn_putLocked`).
-/
import Upkeep.Proofs.Crew
import Upkeep.Proofs.Gathering
import Upkeep.Proofs.Requested

namespace Upkeep

open Upkeep.Act

variable {σ : Type}

/-! ## 1. Stores -/

namespace Store

/-- The store with other credentials and scripts in the record of an
incarnation. -/
def rewrite (s : Store) (k : Nat) (credentials : Json) (bundle : Bundle) : Store :=
  s.edit k fun r => { r with credentials, bundle }

/-- The resource of one name has other credentials and scripts, and nothing
else is different, apart from the lock of the name if there was none. -/
structure Rewritten (name : String) (credentials : Json) (bundle : Bundle)
    (s s' : Store) : Prop where
  own : ∃ r, s.get? name = some r ∧ s'.get? name = some { r with credentials, bundle }
  others : ∀ other, other ≠ name → s'.get? other = s.get? other
  former : ∀ j, s.find? name ≠ some j → s'.record j = s.record j
  names : s'.current = s.current
  count : s'.records.length = s.records.length
  locks : ∀ other, other ≠ name →
    Directory.find? other s'.locks = Directory.find? other s.locks
  lock : ∀ l, Directory.find? name s.locks = some l → s'.locks = s.locks
  held : s'.held = s.held

theorem get?_of_find? {s : Store} {name : String} {k : Nat} (h : s.find? name = some k) :
    s.get? name = some (s.record k) := by
  rw [get?, h]
  rfl

/-- A lock that was free is free again. -/
theorem release_acquire {s : Store} {l : Nat} (free : s.isHeld l = false) :
    (s.acquire l).release l = s := by
  have others : ∀ m ∈ s.held, (m != l) = true := by
    intro m hm
    rw [bne_iff_ne]
    rintro rfl
    rw [isHeld, List.contains_iff_mem.mpr hm] at free
    cases free
  unfold acquire release
  rw [List.filter_cons_of_neg (by simp), List.filter_eq_self.mpr others]

theorem Known.agrees {s s' : Store} (h : s.Known) (same : s.Agrees s') : s'.Known := by
  intro name k stored
  rw [same.find?] at stored
  rw [same.records, same.record]
  exact h name k stored

/-- Names lead to different records. -/
theorem Known.ne {s : Store} (h : s.Known) {name other : String} {k j : Nat}
    (hk : s.find? name = some k) (hj : s.find? other = some j) (hne : other ≠ name) : j ≠ k := by
  rintro rfl
  exact hne ((h other j hj).2.symm.trans (h name j hk).2)

theorem rewritten_rewrite {s : Store} (known : s.Known) {name : String} {k : Nat}
    (stored : s.find? name = some k) (credentials : Json) (bundle : Bundle) :
    Rewritten name credentials bundle s (s.rewrite k credentials bundle) where
  own := by
    refine ⟨s.record k, get?_of_find? stored, ?_⟩
    rw [get?_of_find? (k := k) (by rw [rewrite, find?_edit, stored]), rewrite,
      record_edit_self (known name k stored).1]
  others other hne := by
    rw [get?, get?, rewrite, find?_edit]
    cases found : s.find? other with
    | none => rfl
    | some j => exact congrArg some (record_edit_of_ne (known.ne stored found hne) _)
  former j hj := by
    refine record_edit_of_ne ?_ _
    rintro rfl
    exact hj stored
  names := rfl
  count := List.length_modify ..
  locks _ _ := rfl
  lock _ _ := rfl
  held := rfl

/-- That the lock of the name is made first makes no other difference. -/
theorem Rewritten.of_lock {s s' : Store} {name : String} {credentials : Json} {bundle : Bundle}
    (h : Rewritten name credentials bundle (s.lock name).2 s') :
    Rewritten name credentials bundle s s' := by
  have same := agrees_lock s name
  have get (other : String) : (s.lock name).2.get? other = s.get? other := by
    rw [get?, get?, same.find?]
    cases s.find? other with
    | none => rfl
    | some j => exact congrArg some (same.record j)
  refine ⟨?_, ?_, ?_, ?_, ?_, ?_, ?_, ?_⟩
  · rw [← get]
    exact h.own
  · intro other hne
    rw [h.others other hne, get]
  · intro j hj
    rw [← same.find?] at hj
    rw [h.former j hj, same.record]
  · rw [h.names, same.current]
  · rw [h.count, same.records]
  · intro other hne
    rw [h.locks other hne, find?_lock_of_ne hne]
  · intro l made
    have unchanged : (s.lock name).2 = s := by
      unfold Store.lock
      rw [made]
    rw [unchanged] at h
    exact h.lock l made
  · rw [h.held, held_lock]

end Store

/-! ## 2. The change -/

namespace Register

/-- The record that a resource was changed. -/
def updated (name : String) : Log.Record :=
  ⟨.info, Log.Source.store, s!"Updated script resource {name}"⟩

/-- What `put` does while it holds the lock. -/
def putLocked (name : String) (credentials : Json) (bundle : Bundle) : Act σ Unit := do
  match (← get).store.find? name with
  | none =>
    log .info Log.Source.store s!"Registered script resource {name}"
    editStore (·.register { name, credentials, bundle })
  | some k =>
    editRecord k fun r => { r with credentials, bundle }
    log .info Log.Source.store s!"Updated script resource {name}"

theorem put_eq (name : String) (credentials : Json) (bundle : Bundle) :
    (put name credentials bundle : Act σ Unit) =
      underLock name (putLocked name credentials bundle) := rfl

/-- Whatever has happened before its turn comes, a name that is in use is
given other credentials and scripts, and nothing else is done. -/
theorem runOn_putLocked {w : World σ} {name : String} {k : Nat}
    (stored : w.store.find? name = some k) (credentials : Json) (bundle : Bundle) :
    (putLocked name credentials bundle : Act σ Unit).runOn w =
      (.ok (), Sweep.logged { w with store := w.store.rewrite k credentials bundle }
        [updated name]) := by
  unfold putLocked
  rw [runOn_get_bind, stored]
  rfl

/-- If the lock is free, a change of the store is made at once, and the lock
is free again. -/
theorem runOn_put {w : World σ} {name : String} {k : Nat}
    (stored : w.store.find? name = some k)
    (free : w.store.isHeld (w.store.lock name).1 = false) (credentials : Json)
    (bundle : Bundle) :
    (put name credentials bundle : Act σ Unit).runOn w =
      (.ok (), Sweep.logged
        { w with store := (w.store.lock name).2.rewrite k credentials bundle }
        [updated name]) := by
  have still : (w.store.lock name).2.isHeld (w.store.lock name).1 = false := by
    rwa [Store.isHeld, Store.held_lock]
  have found : ((w.store.lock name).2.acquire (w.store.lock name).1).find? name = some k := by
    rw [← stored, ← (Store.agrees_lock w.store name).find? name]
    rfl
  rw [put_eq, runOn_underLock, still, if_neg (by simp)]
  dsimp only
  rw [runOn_putLocked found]
  have again :=
    Store.release_acquire (s := (w.store.lock name).2.rewrite k credentials bundle) still
  exact congrArg (fun s => (Except.ok (), Sweep.logged { w with store := s } [updated name])) again

end Register

namespace Service

/-! ## 3. Applications -/

/-- An application is turned away if its credentials or its variables are
rejected, or if the resource is being deleted. -/
def TurnsAway (depths : Json.Depths) (s : Store) (wish : Application) : Prop :=
  (∃ p, (Credentials.ofPayload (.value wish.credentials) depths).2 = .error p) ∨
    (∃ p, Bundle.readVariables wish.vars depths = .error p) ∨
    ∃ r, s.get? wish.name = some r ∧ r.deleting = true

/-- What is logged when credentials are read. -/
def remarks (depths : Json.Depths) (wish : Application) : List Log.Record :=
  (Credentials.ofPayload (.value wish.credentials) depths).1

/-- The scripts of an application with variables that were read. -/
def bundleWith (wish : Application) (vars : List Variable) : Bundle where
  init := scriptOf wish.init
  statusCheck := scriptOf wish.statusCheck
  update := scriptOf wish.update
  cleanup := scriptOf wish.cleanup
  vars := vars
  privileged := wish.privileged

theorem bundleOf_eq (depths : Json.Depths) (wish : Application) :
    bundleOf wish depths = (Bundle.readVariables wish.vars depths).map (bundleWith wish) := by
  unfold bundleOf
  cases Bundle.readVariables wish.vars depths with
  | error p => rfl
  | ok vars => rfl

@[simp] theorem store_logged (w : World σ) (records : List Log.Record) :
    (Sweep.logged w records).store = w.store := rfl

theorem runOn_logAll_bind {β : Type} (records : List Log.Record) (act : Act σ β) (w : World σ) :
    (logAll records >>= fun _ => act).runOn w = act.runOn (Sweep.logged w records) := rfl

/-- An application that is turned away leaves log records behind. -/
theorem runOn_apply_of_turnsAway {env : Surroundings σ} {wish : Application} {w : World σ}
    (h : TurnsAway env.depths w.store wish) :
    (apply env wish).runOn w =
      (refusal env.depths wish, Sweep.logged w (remarks env.depths wish)) := by
  unfold apply refusal remarks
  dsimp only
  rw [runOn_logAll_bind, runOn_settle_bind]
  cases credentials : (Credentials.ofPayload (.value wish.credentials) env.depths).2 with
  | error p => rfl
  | ok c =>
    dsimp only
    rw [runOn_settle_bind, bundleOf_eq]
    cases given : Bundle.readVariables wish.vars env.depths with
    | error p => rfl
    | ok vars =>
      rcases h with ⟨p, rejected⟩ | ⟨p, rejected⟩ | ⟨r, stored, deleting⟩
      · rw [credentials] at rejected
        cases rejected
      · rw [given] at rejected
        cases rejected
      · dsimp only [Except.map]
        rw [runOn_get_bind, store_logged, stored]
        simp only [Option.map_some, deleting, Option.getD_some, if_true]
        rfl

/-- An application that is not turned away is stored, if its credentials have
fields, and a pass follows if one is wanted. -/
theorem runOn_apply_of_not_turnsAway (env : Surroundings σ) {wish : Application} {w : World σ}
    (h : ¬ TurnsAway env.depths w.store wish) (waits : wish.reconcile = false) :
    ∃ vars, Bundle.readVariables wish.vars env.depths = .ok vars ∧
      (apply env wish).runOn w =
        (settle (wish.credentials.fields.mapError Problem.fault) >>= fun fields => do
          Register.put wish.name (.object fields) (bundleWith wish vars)
          return s!"Script resource '{wish.name}' saved").runOn
            (Sweep.logged w (remarks env.depths wish)) := by
  unfold TurnsAway at h
  push Not at h
  obtain ⟨credentials, given, live⟩ := h
  cases read : Bundle.readVariables wish.vars env.depths with
  | error p => exact absurd read (given p)
  | ok vars =>
    refine ⟨vars, rfl, ?_⟩
    unfold apply remarks
    dsimp only
    rw [runOn_logAll_bind, runOn_settle_bind]
    cases accepted : (Credentials.ofPayload (.value wish.credentials) env.depths).2 with
    | error p => exact absurd accepted (credentials p)
    | ok c =>
      dsimp only
      rw [runOn_settle_bind, bundleOf_eq, read]
      dsimp only [Except.map]
      rw [runOn_get_bind]
      have kept : ((w.store.get? wish.name).map Resource.deleting).getD false = false := by
        cases stored : w.store.get? wish.name with
        | none => rfl
        | some r => exact Bool.eq_false_iff.mpr (live r stored)
      rw [store_logged, kept]
      simp only [Bool.false_eq_true, if_false, waits]

/-- Credentials that are accepted have fields, unless they are a text. -/
theorem exists_fields {depths : Json.Depths} {wish : Application} {fault : Fault}
    (accepted : ∀ p, (Credentials.ofPayload (.value wish.credentials) depths).2 ≠ .error p)
    (missing : wish.credentials.fields = .error fault) : ∃ s, wish.credentials = .text s := by
  have direct (j : Json)
      (read : Credentials.fieldsOf (.value j) depths = j.fields.mapError Problem.fault)
      (h : wish.credentials = j) : False := by
    refine accepted (.fault fault) ?_
    unfold Credentials.ofPayload
    rw [h] at missing
    rw [h, read, missing]
    rfl
  cases h : wish.credentials with
  | text s => exact ⟨s, rfl⟩
  | null => exact (direct _ rfl h).elim
  | bool b => exact (direct _ rfl h).elim
  | number n => exact (direct _ rfl h).elim
  | list items => exact (direct _ rfl h).elim
  | object fields => exact (direct _ rfl h).elim

/-- The answer to an application that was accepted. -/
def saved (wish : Application) : String := s!"Script resource '{wish.name}' saved"

/-- An application that is turned away leaves log records behind and nothing
else. One that is not, for a name in use and without a pass, gives the
resource other credentials and scripts and does nothing else: at once if the
lock of the name is free, and otherwise when its turn comes, in whatever state
that is. Only credentials that are a text are accepted and cannot be stored;
then nothing is changed either. -/
theorem apply_atomic (env : Surroundings σ) (wish : Application) (w : World σ) :
    (TurnsAway env.depths w.store wish →
      (apply env wish).runOn w =
        (refusal env.depths wish, Sweep.logged w (remarks env.depths wish))) ∧
    (¬ TurnsAway env.depths w.store wish → wish.reconcile = false → w.store.Known →
      ∀ k, w.store.find? wish.name = some k →
      (∃ text fault, wish.credentials = .text text ∧
        (apply env wish).runOn w =
          (.error (.fault fault), Sweep.logged w (remarks env.depths wish))) ∨
      ∃ fields vars, wish.credentials.fields = .ok fields ∧
        Bundle.readVariables wish.vars env.depths = .ok vars ∧
        let change := Register.putLocked wish.name (.object fields) (bundleWith wish vars)
        let Changed := Store.Rewritten wish.name (.object fields) (bundleWith wish vars)
        (apply env wish).runOn w = (do
          Register.underLock wish.name change
          return saved wish).runOn (Sweep.logged w (remarks env.depths wish)) ∧
        (w.store.isHeld (w.store.lock wish.name).1 = false →
          ∃ s, Changed w.store s ∧ (apply env wish).runOn w =
            (.ok (saved wish), Sweep.logged { w with store := s }
              (remarks env.depths wish ++ [Register.updated wish.name]))) ∧
        ∀ (w₁ : World σ) k₁, w₁.store.Known → w₁.store.find? wish.name = some k₁ →
          ∃ s, Changed w₁.store s ∧ change.runOn w₁ =
            (.ok (), Sweep.logged { w₁ with store := s } [Register.updated wish.name])) := by
  refine ⟨runOn_apply_of_turnsAway, fun live waits known k stored => ?_⟩
  obtain ⟨vars, read, applied⟩ := runOn_apply_of_not_turnsAway env live waits
  rw [applied, runOn_settle_bind]
  cases shown : wish.credentials.fields with
  | error fault =>
    obtain ⟨text, written⟩ := exists_fields (fun p rejected => live (Or.inl ⟨p, rejected⟩)) shown
    exact Or.inl ⟨text, fault, written, rfl⟩
  | ok fields =>
    refine Or.inr ⟨fields, vars, rfl, read, rfl, fun free => ?_, fun w₁ k₁ known₁ stored₁ => ?_⟩
    · -- the change is made after the lock of the name, which leaves the records alone
      have same := Store.agrees_lock w.store wish.name
      have found : (w.store.lock wish.name).2.find? wish.name = some k := by
        rw [same.find?, stored]
      refine ⟨_, (Store.rewritten_rewrite (known.agrees same) found _ _).of_lock, ?_⟩
      have put := Register.runOn_put (w := Sweep.logged w (remarks env.depths wish)) stored free
        (.object fields) (bundleWith wish vars)
      show (Register.put wish.name (.object fields) (bundleWith wish vars) >>= fun _ =>
        pure (saved wish)).runOn (Sweep.logged w (remarks env.depths wish)) = _
      rw [runOn_bind, put, ← Sweep.logged_logged]
      rfl
    · exact ⟨_, Store.rewritten_rewrite known₁ stored₁ _ _, Register.runOn_putLocked stored₁ _ _⟩

/-- A resource that was looked after, an application with a nameless variable,
and one that is accepted. -/
theorem apply_atomic_saved :
    let env := Host.obliging.counted
    let w := serve env (start [100])
      [.put "web" Credentials.sample { statusCheck := .text "test -d /srv" }, .reconcile "web"]
    let nameless : Application :=
      { name := "web", credentials := Credentials.sample, vars := .list [.object []] }
    let wish : Application :=
      { name := "web", credentials := Credentials.sample, init := .text "mkdir /srv",
        reconcile := false }
    TurnsAway env.depths w.store nameless ∧ ((apply env nameless).runOn w).2.store = w.store ∧
      ¬ TurnsAway env.depths w.store wish ∧ w.store.Known ∧ w.store.find? "web" = some 0 ∧
      (w.store.record 0).lastReconciled ≠ none ∧
      ((apply env wish).runOn w).2.store.get? "web" =
        some { w.store.record 0 with
          credentials := Credentials.sample, bundle := { init := .text "mkdir /srv" } } := by
  intro env w nameless wish
  have quiet : env.Unobtrusive := fun _ w => gives_pure ⟨rfl, Exchange.lasts.refl w⟩
  have known : w.store.Known := (sound_serve quiet _ _).known
  have stored : w.store.find? "web" = some 0 := by decide +kernel
  have away : TurnsAway env.depths w.store nameless := Or.inr (Or.inl ⟨_, rfl⟩)
  have live : ¬ TurnsAway env.depths w.store wish := by
    rintro (⟨p, rejected⟩ | ⟨p, rejected⟩ | ⟨r, found, deleting⟩)
    · cases rejected
    · cases rejected
    · rw [Store.get?_of_find? stored] at found
      obtain rfl := Option.some.inj found
      have kept : (w.store.record 0).deleting = false := by decide +kernel
      rw [kept] at deleting
      cases deleting
  refine ⟨away, ?_, live, known, stored, by decide +kernel, ?_⟩
  · rw [(apply_atomic env nameless w).1 away]
    rfl
  · rcases (apply_atomic env wish w).2 live rfl known 0 stored with
      ⟨text, fault, written, -⟩ | ⟨fields, vars, shown, read, -, now, -⟩
    · cases written
    · obtain rfl := Except.ok.inj shown
      obtain rfl := Except.ok.inj read
      obtain ⟨s, changed, applied⟩ := now (by decide +kernel)
      obtain ⟨r, found, after⟩ := changed.own
      rw [Store.get?_of_find? stored] at found
      obtain rfl := Option.some.inj found
      rw [applied]
      exact after

end Service

end Upkeep
