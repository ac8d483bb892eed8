/-
Upkeep.Proofs.Twins — two runs that differ in their secrets alone.

`Act.Twins act act' V` says of two acts: started in states that are equal
under the veil, they end in states that are equal under the veil, and their
outcomes are values related by `V` or the same problem. `Act.Alike` is the
case of equal values. The rules of section 1 follow the ways in which acts
are put together, so a proof about a pair of acts has the shape of the acts.

Two surroundings are twins (`Surroundings.Twins`) if they have one host,
one that does not tell secrets apart (`Host.Discreet`), and if what other
tasks do during a pause is alike. Then everything up to a pass is alike in
both (`Pass.alike_run`): secrets reach nothing but the login of a connection.
-/
import Upkeep.Pass
import Upkeep.Proofs.Act
import Upkeep.Proofs.Veil

namespace Upkeep

variable {σ α β : Type}

/-! ## 1. Acts in twin states -/

/-- Values that are related, or the same problem. -/
inductive Outcomes (V : α → α → Prop) : Except Problem α → Except Problem α → Prop
  | ok {a a' : α} (h : V a a') : Outcomes V (.ok a) (.ok a')
  | error (p : Problem) : Outcomes V (.error p) (.error p)

theorem outcomes_refl (o : Except Problem α) : Outcomes Eq o o := by
  cases o with
  | ok a => exact .ok rfl
  | error p => exact .error p

theorem Outcomes.eq {o o' : Except Problem α} (h : Outcomes Eq o o') : o = o' := by
  cases h with
  | ok h => rw [h]
  | error p => rfl

theorem outcomes_iff_map {f : α → β} {o o' : Except Problem α} :
    Outcomes (fun a a' => f a = f a') o o' ↔ o.map f = o'.map f := by
  constructor
  · intro h
    cases h with
    | ok h => exact congrArg Except.ok h
    | error p => rfl
  · intro h
    rcases o with p | a <;> rcases o' with p' | a' <;>
      simp only [Except.map, Except.error.injEq, Except.ok.injEq, reduceCtorEq] at h
    · exact h ▸ .error p
    · exact .ok h

namespace Act

variable {act act' : Act σ α} {f f' : α → Act σ β} {V : α → α → Prop} {W : β → β → Prop}

/-- From states that are equal under the veil, the acts come to such states,
and to values related by `V` or to the same problem. -/
def Twins (act act' : Act σ α) (V : α → α → Prop) : Prop :=
  ∀ w w', w.veil = w'.veil →
    Outcomes V (act.runOn w).1 (act'.runOn w').1 ∧ (act.runOn w).2.veil = (act'.runOn w').2.veil

/-- The acts are twins and come to the same. -/
def Alike (act act' : Act σ α) : Prop := act.Twins act' Eq

theorem Twins.bind (h : act.Twins act' V)
    (next : ∀ a a', V a a' → (f a).Twins (f' a') W) : (act >>= f).Twins (act' >>= f') W := by
  intro w w' same
  obtain ⟨outcomes, after⟩ := h w w' same
  rw [runOn_bind, runOn_bind]
  rcases hrun : act.runOn w with ⟨o, v⟩
  rcases hrun' : act'.runOn w' with ⟨o', v'⟩
  rw [hrun, hrun'] at outcomes after
  cases outcomes with
  | ok related => exact next _ _ related v v' after
  | error p => exact ⟨.error p, after⟩

theorem Alike.bind (h : act.Alike act') (next : ∀ a, (f a).Twins (f' a) W) :
    (act >>= f).Twins (act' >>= f') W :=
  Twins.bind h fun a _ equal => equal ▸ next a

theorem twins_pure {a a' : α} (h : V a a') : (pure a : Act σ α).Twins (pure a') V :=
  fun _ _ same => ⟨.ok h, same⟩

theorem twins_raise (p : Problem) : (raise p : Act σ α).Twins (raise p) V :=
  fun _ _ same => ⟨.error p, same⟩

theorem twins_settle {o o' : Except Problem α} (h : Outcomes V o o') :
    (settle o : Act σ α).Twins (settle o') V := by
  cases h with
  | ok h => exact twins_pure h
  | error p => exact twins_raise p

theorem alike_pure (a : α) : (pure a : Act σ α).Alike (pure a) := twins_pure rfl

theorem alike_settle (o : Except Problem α) : (settle o : Act σ α).Alike (settle o) :=
  twins_settle (outcomes_refl o)

/-- One choice in both: the conditions may be written in different ways. -/
theorem Twins.ite {c c' : Prop} [Decidable c] [Decidable c'] {other other' : Act σ α}
    (one : c ↔ c') (h : c → act.Twins act' V) (hother : ¬ c → other.Twins other' V) :
    (if c then act else other).Twins (if c' then act' else other') V := by
  by_cases hc : c
  · rw [if_pos hc, if_pos (one.mp hc)]
    exact h hc
  · rw [if_neg hc, if_neg (mt one.mpr hc)]
    exact hother hc

theorem Twins.attempt (h : act.Twins act' V) :
    (Act.attempt act).Twins (Act.attempt act') (Outcomes V) := fun w w' same =>
  ⟨.ok (h w w' same).1, (h w w' same).2⟩

theorem Alike.attempt (h : act.Alike act') : (Act.attempt act).Alike (Act.attempt act') :=
  fun w w' same => ⟨.ok (h w w' same).1.eq, (h w w' same).2⟩

theorem Alike.ensuring {last last' : Act σ Unit} (h : act.Alike act') (hlast : last.Alike last') :
    (Act.ensuring act last).Alike (Act.ensuring act' last') := by
  unfold Act.ensuring
  exact h.attempt.bind fun o => hlast.bind fun _ => alike_settle o

/-! The acts that the others are made of. -/

/-- Changing the state, and the same goes on under the veil. -/
theorem alike_modify {g : World σ → World σ} (h : ∀ w, (g w).veil = g w.veil) :
    (modify g : Act σ Unit).Alike (modify g) := fun w w' same =>
  ⟨.ok rfl, by
    show (g w).veil = (g w').veil
    rw [h, same, h]⟩

theorem alike_modifyGet {g : World σ → α × World σ}
    (h : ∀ w, ((g w).1, (g w).2.veil) = g w.veil) :
    (modifyGet g : Act σ α).Alike (modifyGet g) := by
  intro w w' same
  have both : ((g w).1, (g w).2.veil) = ((g w').1, (g w').2.veil) := by rw [h, same, h]
  obtain ⟨outcomes, states⟩ := Prod.mk.inj both
  exact ⟨.ok outcomes, states⟩

theorem alike_note {e e' : Entry} (h : e.veil = e'.veil) :
    (note e : Act σ Unit).Alike (note e') := fun w w' same =>
  ⟨.ok rfl, by
    show (w.note e).veil = (w'.note e').veil
    rw [World.veil_note, World.veil_note, same, h]⟩

theorem alike_event {e : Event} : (event e : Act σ Unit).Alike (event e) := alike_note rfl

theorem alike_log {level : Log.Level} {source text : String} :
    (log level source text : Act σ Unit).Alike (log level source text) := alike_note rfl

theorem alike_logAll (records : List Log.Record) :
    (logAll records : Act σ Unit).Alike (logAll records) := by
  have bare : (records.map Entry.log).map Entry.veil = records.map Entry.log := List.map_map
  exact alike_modify fun w => by simp only [World.veil, List.map_append, bare]

theorem alike_ask {question question' : σ → α × σ} (h : ∀ s, question s = question' s) :
    (ask question : Act σ α).Alike (ask question') := by
  obtain rfl : question = question' := funext h
  exact alike_modifyGet fun _ => rfl

/-- Looking at the state: the second one is the first one with other entries
and other records, and the stores are equal under the veil. -/
theorem twins_get_bind {f f' : World σ → Act σ β}
    (next : ∀ w journal records, w.store.veil = Store.veil { w.store with records } →
      (f w).Twins (f' { w with journal, store := { w.store with records } }) W) :
    (get >>= f : Act σ β).Twins (get >>= f') W := by
  intro w w' same
  have stores : w.store.veil = w'.store.veil := congrArg World.store same
  obtain ⟨journal, records, rfl⟩ := World.exists_of_veil same
  exact next w journal records stores _ _ same

/-- Looking at a record: the second one is the first one with other
credentials, which are equal under the veil. -/
theorem twins_record_bind {f f' : Resource → Act σ β} {k : Nat}
    (next : ∀ r credentials,
      Credentials.veilDocument r.credentials = Credentials.veilDocument credentials →
      (f r).Twins (f' { r with credentials }) W) :
    (record k >>= f : Act σ β).Twins (record k >>= f') W := by
  intro w w' same
  have records : (w.store.record k).veil = (w'.store.record k).veil := by
    rw [← Store.record_veil, ← Store.record_veil]
    exact congrArg (fun w => w.store.record k) same
  obtain ⟨credentials, at_k, alike⟩ := Resource.exists_of_veil records
  have second := next (w.store.record k) credentials alike w w' same
  rw [← at_k] at second
  exact second

theorem alike_editStore {g g' : Store → Store}
    (h : ∀ s s', s.veil = s'.veil → (g s).veil = (g' s').veil) :
    (editStore g : Act σ Unit).Alike (editStore g') := by
  intro w w' same
  have stores := h w.store w'.store (congrArg World.store same)
  refine ⟨.ok rfl, ?_⟩
  show { w.veil with store := (g w.store).veil } = { w'.veil with store := (g' w'.store).veil }
  rw [same, stores]

/-- Changing a record, but for its credentials. -/
theorem alike_editRecord {k : Nat} {g : Resource → Resource} (h : ∀ r, (g r).veil = g r.veil) :
    (editRecord k g : Act σ Unit).Alike (editRecord k g) :=
  alike_editStore fun s s' same => by rw [s.veil_edit k h, s'.veil_edit k h, same]

theorem twins_edit_bind {k : Nat} {g : Resource → Resource} {f f' : Unit → Act σ β}
    (h : ∀ r, (g r).veil = g r.veil) (next : (f ()).Twins (f' ()) W) :
    (editRecord k g >>= f).Twins (editRecord k g >>= f') W :=
  (alike_editRecord h).bind fun _ => next

end Act

open Upkeep.Act

/-! ## 2. Surroundings -/

/-- The host does not tell secrets apart: its answers are the same whatever
the password is and whatever the key is. -/
structure Host.Discreet (h : Host σ) : Prop where
  importKey : ∀ key key' s,
    Credentials.veilMaterial key = Credentials.veilMaterial key' →
      h.importKey key s = h.importKey key' s
  connect : ∀ d d' s, d.veil = d'.veil → h.connect d s = h.connect d' s

/-- Surroundings with one discreet host, in which other tasks do alike. -/
structure Surroundings.Twins (env env' : Surroundings σ) : Prop where
  discreet : env.host.Discreet
  host : env'.host = env.host
  settings : env'.settings = env.settings
  depths : env'.depths = env.depths
  token : env'.token = env.token
  clock : env'.clock = env.clock
  meanwhile : ∀ p, (env.meanwhile p).Alike (env'.meanwhile p)

/-- Sessions in which everything goes alike. -/
structure Session.Twins (s s' : Session σ) : Prop where
  upload : ∀ content path, (s.upload content path).Alike (s'.upload content path)
  run : ∀ command limit, (s.run command limit).Alike (s'.run command limit)
  close : s.close.Alike s'.close

/-- One place of work, with sessions in which everything goes alike. -/
structure Workplace.Twins (p p' : Workplace σ) : Prop where
  session : p.session.Twins p'.session
  directory : p.directory = p'.directory
  limit : p.limit = p'.limit
  incarnation : p.incarnation = p'.incarnation

variable {env env' : Surroundings σ} (h : env.Twins env')

/-! ## 3. Sessions -/

namespace Channel

include h

theorem alike_await (pause : Pause) (stage : Except Problem α) :
    (await env pause stage).Alike (await env' pause stage) :=
  (h.meanwhile pause).bind fun _ => alike_settle stage

theorem alike_sendFile (t : Transfer) (content : Json) (path : String) :
    (sendFile env t content path).Alike (sendFile env' t content path) := by
  unfold sendFile
  refine (alike_await h .sending t.opening).bind fun _ => ?_
  refine alike_event.bind fun _ => Alike.ensuring ?_ ?_
  · refine alike_event.bind fun _ => ?_
    refine (alike_await h .sending t.openingFile).bind fun _ => ?_
    refine alike_event.bind fun _ => Alike.ensuring ?_ ?_
    · exact (alike_await h .sending t.writing).bind fun _ => alike_event
    · exact alike_event.bind fun _ => alike_await h .sending t.closingFile
  · exact alike_event.bind fun _ => alike_await h .sending t.closing

theorem alike_upload (content : Json) (path : String) :
    (upload env content path).Alike (upload env' content path) := by
  unfold upload
  rw [h.host]
  refine (alike_ask fun _ => rfl).bind fun t => ?_
  refine (alike_sendFile h t content path).attempt.bind fun outcome => ?_
  rcases outcome with (f | f | f) | _
  · exact twins_raise _
  · exact twins_raise _
  · dsimp only
    split
    · exact alike_log.bind fun _ => twins_raise _
    · exact twins_raise _
  · exact (alike_settle _).bind fun _ => alike_log

theorem alike_converse (c : Course) (command : String) (limit : Option Decimal.Number) :
    (converse env c command limit).Alike (converse env' c command limit) := by
  unfold converse
  refine alike_event.bind fun _ => ?_
  refine (alike_await h .starting c.opening).bind fun _ => ?_
  refine alike_event.bind fun _ => Alike.ensuring ?_ ?_
  · exact alike_event.bind fun _ => alike_await h .running c.waiting
  · exact alike_event.bind fun _ => alike_await h .finishing c.closing

theorem alike_run (command : String) (limit : Option Decimal.Number) :
    (run env command limit).Alike (run env' command limit) := by
  unfold run
  rw [h.host]
  refine (alike_ask fun _ => rfl).bind fun c => ?_
  refine (alike_converse h c command limit).attempt.bind fun outcome => ?_
  rcases outcome with (f | f | f) | completion
  · exact twins_raise _
  · exact twins_raise _
  · dsimp only
    split
    · exact alike_log.bind fun _ => alike_pure _
    · exact twins_raise _
  · dsimp only
    split
    · exact alike_log.bind fun _ => alike_pure _
    · exact alike_pure _

theorem alike_close : (close env).Alike (close env') := by
  unfold close
  rw [h.host]
  refine alike_event.bind fun _ => ?_
  refine alike_event.bind fun _ => ?_
  refine (alike_ask fun _ => rfl).bind fun outcome => ?_
  exact (alike_note rfl).bind fun _ => alike_await h .closing outcome

end Channel

include h in
theorem Session.twins_over : (Session.over env).Twins (Session.over env') where
  upload := Channel.alike_upload h
  run := Channel.alike_run h
  close := Channel.alike_close h

/-! ## 4. Connections -/

namespace Connection

variable {c c' : Credentials}

include h

/-- Known hosts are no secret. -/
theorem alike_knownHosts (same : c.veil = c'.veil) :
    (knownHosts env c).Alike (knownHosts env' c') := by
  obtain ⟨password, key, rfl, -, -⟩ := Credentials.exists_of_veil same
  unfold knownHosts
  rw [h.host]
  split
  · refine twins_get_bind fun w journal records _ => ?_
    dsimp only
    rcases env.host.importKnownHosts c.knownHosts w.host with (f | f | f) | _
    · exact twins_raise _
    · exact twins_raise _
    · dsimp only
      split <;> exact twins_raise _
    · exact alike_pure _
  · exact alike_log.bind fun _ => alike_pure _

/-- What is offered differs in the secret alone, and whether a key can be used
does not hang on the key. -/
theorem twins_login (same : c.veil = c'.veil) :
    (login env c).Twins (login env' c') fun l l' => l.veil = l'.veil := by
  have keyed := Credentials.hasKey_of_veil same
  obtain ⟨password, key, rfl, passwords, keys⟩ := Credentials.exists_of_veil same
  have material : Credentials.veilMaterial (c.privateKey.getD []) =
      Credentials.veilMaterial (key.getD []) := by
    have covered (k : Option (List UInt8)) : Credentials.veilMaterial (k.getD []) =
        (k.map Credentials.veilMaterial).getD [] := by
      cases k <;> rfl
    rw [covered, keys, ← covered]
  unfold login
  rw [h.host, ← keyed]
  dsimp only
  split
  · refine twins_get_bind fun w journal records _ => ?_
    dsimp only
    rw [← h.discreet.importKey _ _ w.host material]
    rcases env.host.importKey (c.privateKey.getD []) w.host with (f | f | f) | _
    · exact twins_raise _
    · exact twins_raise _
    · dsimp only
      split <;> exact twins_raise _
    · exact twins_pure (by simp [Login.veil, material])
  · exact twins_pure (by simp [Login.veil, passwords])

/-- What is logged of an attempt names the user, the address and the way to
log in, which are no secrets. -/
theorem twins_tryConnect (same : c.veil = c'.veil) (p : Patience) {d d' : Dial}
    (dials : d.veil = d'.veil) (more attempt : Nat) :
    (tryConnect env c p d more attempt).Twins (tryConnect env' c' p d' more attempt)
      Session.Twins := by
  obtain ⟨username, address, method⟩ := Credentials.told_of_veil same
  have dialled : (Entry.event (.connect d)).veil = (Entry.event (.connect d')).veil := by
    simp [Entry.veil, Event.veil, dials]
  unfold tryConnect
  rw [h.host, ← username, ← address, ← method]
  refine (alike_note dialled).bind fun _ => ?_
  refine (h.meanwhile .connecting).bind fun _ => ?_
  refine (alike_ask fun s => h.discreet.connect d d' s dials).bind fun outcome => ?_
  rcases outcome with (f | f | f) | _
  · exact twins_raise _
  · exact twins_raise _
  · dsimp only
    split
    · refine alike_log.bind fun _ => ?_
      cases more with
      | zero => exact alike_log.bind fun _ => twins_raise _
      | succ more =>
        refine alike_event.bind fun _ => ?_
        refine (h.meanwhile .retrying).bind fun _ => ?_
        exact twins_tryConnect same p dials more (attempt + 1)
    · exact twins_raise _
  · refine (alike_note rfl).bind fun _ => ?_
    exact alike_log.bind fun _ => twins_pure (Session.twins_over h)

theorem twins_connect (same : c.veil = c'.veil) (p : Patience) :
    (connect env c p).Twins (connect env' c' p) Session.Twins := by
  unfold connect
  refine (alike_knownHosts h same).bind fun known => ?_
  refine (twins_login h same).bind fun offered offered' logins => ?_
  obtain ⟨password, key, rfl, -, -⟩ := Credentials.exists_of_veil same
  exact twins_tryConnect h same p (by simp [Dial.veil, logins]) _ _

end Connection

/-! ## 5. Scripts -/

namespace Staging

variable {session session' : Session σ} (hs : session.Twins session')

include hs

theorem alike_remove (path : String) : (remove session path).Alike (remove session' path) := by
  unfold remove
  refine (hs.run _ _).bind fun removal => ?_
  split
  · exact alike_log
  · split
    · exact alike_log
    · exact alike_pure ()

include h

theorem alike_execute (script : Script) (m : Manner) :
    (execute env session script m).Alike (execute env' session' script m) := by
  have fresh : (freshPath env m.directory).Alike (freshPath env' m.directory) := by
    unfold freshPath
    rw [h.token]
    exact alike_modifyGet fun _ => rfl
  have logged (status : Int) (result : Execution) :
      (logRun status result : Act σ Unit).Alike (logRun status result) := by
    unfold logRun
    exact alike_log.bind fun _ => alike_log.bind fun _ => alike_log
  unfold execute
  refine (alike_settle _).bind fun content => ?_
  refine fresh.bind fun path => ?_
  refine (hs.upload content path).attempt.bind fun outcome => ?_
  rcases outcome with (f | f | f) | _
  · dsimp only
    split
    · exact alike_pure _
    · exact twins_raise _
  · exact twins_raise _
  · exact twins_raise _
  · refine (hs.run _ _).bind fun result => ?_
    split
    · exact alike_pure _
    · refine (alike_remove hs path).bind fun _ => ?_
      exact (logged _ result).bind fun _ => alike_pure _

end Staging

namespace Lifecycle

variable {place place' : Workplace σ} (hp : place.Twins place')

include h hp

theorem alike_runScript (b : Bundle) (phase : Phase) :
    (runScript env place b phase).Alike (runScript env' place' b phase) := by
  unfold runScript
  rw [hp.directory, hp.limit, hp.incarnation]
  refine (alike_note rfl).bind fun _ => ?_
  refine (Staging.alike_execute h hp.session _ _).attempt.bind fun outcome => ?_
  exact (alike_note rfl).bind fun _ => alike_settle outcome

theorem alike_observe (b : Bundle) (o : Observation) :
    (observe env place b o).Alike (observe env' place' b o) := by
  unfold observe
  split
  · exact alike_log.bind fun _ => alike_pure _
  · refine (alike_runScript h hp b .statusCheck).bind fun e => ?_
    split
    · exact alike_log.bind fun _ => alike_pure _
    · exact alike_log.bind fun _ => alike_pure _

theorem alike_change (phase : Phase) (b : Bundle) (o : Observation) :
    (change env place phase b o).Alike (change env' place' phase b o) := by
  unfold change
  split
  · exact alike_log.bind fun _ => alike_pure _
  · refine (alike_runScript h hp b phase).bind fun e => ?_
    split
    · exact alike_pure _
    · exact alike_log.bind fun _ => alike_pure _

theorem alike_create (b : Bundle) (o : Observation) :
    (create env place b o).Alike (create env' place' b o) := by
  unfold create
  refine (alike_change h hp .init b o).bind fun verdict => ?_
  split <;> exact alike_pure _

theorem alike_delete (b : Bundle) (o : Observation) :
    (delete env place b o).Alike (delete env' place' b o) := by
  unfold delete
  split
  · exact alike_log.bind fun _ => alike_pure _
  · refine (alike_runScript h hp b .cleanup).bind fun e => ?_
    dsimp only
    split
    · refine alike_log.bind fun _ => ?_
      split <;> exact alike_pure _
    · split <;> exact alike_pure _

end Lifecycle

/-! ## 6. The register -/

namespace Register

theorem alike_lock (name : String) : (lock name : Act σ Nat).Alike (lock name) := by
  refine alike_modifyGet fun w => ?_
  simp only [Store.lock, World.veil, Store.veil]
  cases Directory.find? name w.store.locks <;> rfl

/-- Locks are held alike. -/
theorem alike_underLock {name : String} {work work' : Act σ α} (alike : work.Alike work') :
    (underLock name work).Alike (underLock name work') := by
  unfold underLock
  refine (alike_lock name).bind fun l => twins_get_bind fun w journal records _ => ?_
  refine Twins.ite Iff.rfl (fun _ => twins_raise _) fun _ => ?_
  refine Alike.bind (alike_editStore fun _ _ same => congrArg (Store.acquire · l) same) fun _ => ?_
  exact alike.ensuring (alike_editStore fun _ _ same => congrArg (Store.release · l) same)

/-- Registering credentials that differ in their secrets alone. -/
theorem alike_put (name : String) {credentials credentials' : Json} (bundle : Bundle)
    (same : Credentials.veilDocument credentials = Credentials.veilDocument credentials') :
    (put name credentials bundle : Act σ Unit).Alike (put name credentials' bundle) := by
  refine alike_underLock (twins_get_bind fun w journal records _ => ?_)
  dsimp only [Store.find?]
  split
  · refine alike_log.bind fun _ => alike_editStore fun s s' stores => ?_
    have registered (s : Store) (j : Json) :
        (s.register { name, credentials := j, bundle }).veil =
          s.veil.register { name, credentials := Credentials.veilDocument j, bundle } := by
      simp [Store.register, Store.veil, Resource.veil]
    rw [registered, registered, stores, same]
  next k _ =>
    refine Alike.bind (alike_editStore fun s s' stores => ?_) fun _ => alike_log
    let put (r : Resource) : Resource :=
      { r with credentials := Credentials.veilDocument credentials, bundle }
    have first (r : Resource) : Resource.veil { r with credentials, bundle } = put r.veil := rfl
    have second (r : Resource) :
        Resource.veil { r with credentials := credentials', bundle } = put r.veil := by
      simp [Resource.veil, put, same]
    rw [s.veil_edit k first, s'.veil_edit k second, stores]

theorem alike_remove (name : String) : (remove name : Act σ Unit).Alike (remove name) := by
  unfold remove
  refine twins_get_bind fun w journal records _ => ?_
  refine Alike.bind (alike_editStore fun _ _ same => ?_) fun _ => ?_
  · exact congrArg (Store.remove · name) same
  refine Twins.ite Iff.rfl (fun _ => ?_) fun _ => alike_pure ()
  exact twins_get_bind fun w journal records _ => alike_log

theorem alike_markDeleting (name : String) :
    (markDeleting name : Act σ Bool).Alike (markDeleting name) := by
  unfold markDeleting
  refine twins_get_bind fun w journal records _ => ?_
  dsimp only [Store.find?]
  split
  · exact alike_pure _
  · refine (alike_note rfl).bind fun _ => twins_record_bind fun r credentials _ => ?_
    dsimp only
    split
    · refine twins_edit_bind (fun _ => rfl) ?_
      exact alike_log.bind fun _ => alike_pure _
    · exact alike_pure _

theorem alike_shareLock (name other : String) :
    (shareLock name other : Act σ Bool).Alike (shareLock name other) := by
  unfold shareLock
  exact (alike_lock name).bind fun _ => (alike_lock other).bind fun _ => alike_pure _

end Register

/-! ## 7. Passes -/

namespace Pass

theorem alike_finish (k : Nat) (action : Action) (deleted : Bool) :
    (finish k action deleted : Act σ Report).Alike (finish k action deleted) := by
  unfold finish
  refine twins_edit_bind (fun _ => rfl) ?_
  exact twins_record_bind fun r credentials _ => alike_log.bind fun _ => alike_pure _

theorem alike_fail (k : Nat) (action : Action) (failure : Failure) :
    (fail k action failure : Act σ Report).Alike (fail k action failure) := by
  unfold fail
  refine twins_edit_bind (fun _ => rfl) ?_
  exact twins_record_bind fun r credentials _ => alike_log.bind fun _ => alike_pure _

theorem alike_conclude (k : Nat) (action : Action) (outcome : Except Failure Unit) :
    (conclude k action outcome : Act σ Report).Alike (conclude k action outcome) := by
  rcases outcome with failure | _
  · exact alike_fail k action failure
  · exact alike_finish k action false

theorem alike_phase {k : Nat} {act act' : Observation → Act σ (Lifecycle.Verdict α)}
    (alike : ∀ seen, (act seen).Alike (act' seen)) : (phase k act).Alike (phase k act') := by
  unfold phase
  refine twins_record_bind fun r credentials _ => ?_
  refine (alike r.observation).attempt.bind fun outcome => ?_
  rcases outcome with (f | f | f) | ⟨seen, verdict⟩
  · exact alike_pure _
  · exact twins_raise _
  · exact twins_raise _
  · exact twins_edit_bind (fun _ => rfl) (alike_pure _)

theorem alike_refuse (k : Nat) (failure : Failure) :
    (refuse k failure : Act σ Report).Alike (refuse k failure) := by
  unfold refuse
  refine twins_record_bind fun r credentials _ => ?_
  dsimp only
  split
  · exact twins_edit_bind (fun _ => rfl) (alike_fail k _ failure)
  · exact alike_fail k _ failure

include h

theorem alike_touch (k : Nat) : (touch env k).Alike (touch env' k) := by
  unfold touch
  rw [h.clock]
  refine Alike.bind (alike_modifyGet fun _ => rfl) fun n => ?_
  exact alike_editRecord fun _ => rfl

/-- Secrets reach the login, and nothing else, when a session is opened. -/
theorem twins_openSession (k : Nat) :
    (openSession env k).Twins (openSession env' k) Session.Twins := by
  unfold openSession
  rw [h.settings, h.depths]
  refine twins_record_bind fun r credentials same => ?_
  obtain ⟨records, read⟩ := Credentials.ofPayload_of_veil env.depths same
  dsimp only
  rw [← records]
  refine (alike_logAll _).bind fun _ => ?_
  refine (twins_settle (outcomes_iff_map.mpr read)).bind fun c c' same => ?_
  exact Connection.twins_connect h same _

variable {session session' : Session σ} (hs : session.Twins session')

include hs

theorem twins_workplace (k : Nat) :
    (workplace env session k).Twins (workplace env' session' k) where
  session := hs
  directory := by unfold workplace; rw [h.settings]
  limit := by unfold workplace; rw [h.settings]
  incarnation := rfl

theorem alike_respond (k : Nat) (survey : Survey) :
    (respond env k (workplace env session k) survey).Alike
      (respond env' k (workplace env' session' k) survey) := by
  have place := twins_workplace h hs k
  unfold respond
  refine twins_record_bind fun r credentials _ => ?_
  dsimp only
  split
  · refine alike_log.bind fun _ => ?_
    exact (alike_phase fun seen => Lifecycle.alike_create h place r.bundle seen).bind
      (alike_conclude k _)
  · refine alike_log.bind fun _ => ?_
    exact (alike_phase fun seen => Lifecycle.alike_change h place .update r.bundle seen).bind
      (alike_conclude k _)
  · exact (alike_pure _).bind (alike_conclude k _)

theorem alike_sync (k : Nat) : (sync env k session).Alike (sync env' k session') := by
  have place := twins_workplace h hs k
  unfold sync
  refine twins_record_bind fun r credentials _ => ?_
  refine (alike_phase fun seen => Lifecycle.alike_observe h place r.bundle seen).bind
    fun verdict => ?_
  rcases verdict with failure | survey
  · exact alike_fail k _ failure
  · dsimp only
    split
    · exact alike_log.bind fun _ => alike_finish k _ _
    · exact alike_respond h hs k survey

theorem alike_delete (k : Nat) : (delete env k session).Alike (delete env' k session') := by
  have place := twins_workplace h hs k
  unfold delete
  refine twins_edit_bind (fun _ => rfl) ?_
  refine twins_record_bind fun r credentials _ => ?_
  refine (alike_phase fun seen => Lifecycle.alike_delete h place r.bundle seen).bind
    fun verdict => ?_
  rcases verdict with failure | _
  · exact alike_fail k _ failure
  · exact (Register.alike_remove r.name).bind fun _ => alike_finish k _ _

theorem alike_attend (k : Nat) : (attend env k session).Alike (attend env' k session') := by
  unfold attend
  refine twins_record_bind fun r credentials _ => ?_
  dsimp only
  split
  · exact alike_delete h hs k
  · exact alike_sync h hs k

omit hs

theorem alike_work (name : String) (k : Nat) : (work env name k).Alike (work env' name k) := by
  unfold work
  refine twins_record_bind fun r credentials _ => ?_
  dsimp only
  split
  · refine twins_edit_bind (fun _ => rfl) ?_
    exact (Register.alike_remove name).bind fun _ => alike_finish k _ _
  · refine (twins_openSession h k).attempt.bind fun outcome outcome' opened => ?_
    cases opened with
    | ok sessions => exact (alike_attend h sessions k).ensuring sessions.close
    | error p =>
      rcases p with f | f | f
      · exact alike_refuse k f
      · exact twins_raise _
      · exact twins_raise _

theorem alike_body (name : String) (k : Nat) : (body env name k).Alike (body env' name k) := by
  unfold body
  refine twins_record_bind fun r credentials _ => ?_
  refine alike_log.bind fun _ => (alike_touch h k).bind fun _ => ?_
  exact alike_work h name k

/-- A pass comes to the same, whatever the secrets are. -/
theorem alike_run (name : String) : (run env name).Alike (run env' name) := by
  refine Register.alike_underLock (twins_get_bind fun w journal records _ => ?_)
  dsimp only [Store.find?]
  split
  · exact twins_raise _
  · exact alike_body h name _

end Pass

end Upkeep
