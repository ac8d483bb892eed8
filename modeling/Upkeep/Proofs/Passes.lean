/-
Upkeep.Proofs.Passes — everything that a pass can do.

A pass over an incarnation goes one of few ways (`Pass.Took`): it completes
a deletion at once; it cannot open a session, or not even read the
credentials; or it opens a session, and then looks at the resource or clears
it away, and closes the session. Each way is described by the results of the
scripts (`Pass.upshot`, `Pass.clearing`) and by how closing went.
`Pass.takes_run` says that there are no others. On an orderly host more is
known of the results and of the reasons why no session was opened
(`Pass.Went`, `Pass.gives_run`).
-/
import Upkeep.Proofs.Upshot

namespace Upkeep

open Upkeep.Act

variable {σ : Type}

/-! ## 1. Work under a lock -/

/-- The two stores have the same records under the same names. -/
structure Store.Agrees (s s' : Store) : Prop where
  records : s'.records = s.records
  current : s'.current = s.current

namespace Store.Agrees

variable {s s' : Store}

theorem record (h : s.Agrees s') (k : Nat) : s'.record k = s.record k := by
  rw [Store.record, h.records]
  rfl

theorem find? (h : s.Agrees s') (name : String) : s'.find? name = s.find? name := by
  rw [Store.find?, h.current]
  rfl

end Store.Agrees

/-- Making a lock touches no record. -/
theorem Store.agrees_lock (s : Store) (name : String) : s.Agrees (s.lock name).2 := by
  unfold lock
  split <;> exact ⟨rfl, rfl⟩

/-- Work under a lock that is held is not begun. Otherwise its outcome is that
of the work, and the lock is given back in either case. -/
theorem Register.runOn_underLock {α : Type} (name : String) (work : Act σ α) (w : World σ) :
    (underLock name work).runOn w =
      if (w.store.lock name).2.isHeld (w.store.lock name).1 then
        (.error (.fault (.deadlock name)), { w with store := (w.store.lock name).2 })
      else
        let w₁ := { w with store := (w.store.lock name).2.acquire (w.store.lock name).1 }
        ((work.runOn w₁).1, { (work.runOn w₁).2 with
          store := (work.runOn w₁).2.store.release (w.store.lock name).1 }) := by
  show (if (w.store.lock name).2.isHeld (w.store.lock name).1 then
      (raise (.fault (.deadlock name)) : Act σ α)
    else editStore (·.acquire (w.store.lock name).1) >>= fun _ =>
      ensuring work (editStore (·.release (w.store.lock name).1))).runOn
    { w with store := (w.store.lock name).2 } = _
  split
  · rfl
  · exact runOn_ensuring_edit work (·.release (w.store.lock name).1)
      { w with store := (w.store.lock name).2.acquire (w.store.lock name).1 }

/-- While no lock is held, work under a lock does what the work does. -/
theorem Register.gives_underLock {α : Type} {name : String} {work : Act σ α} {w : World σ}
    {Q : World σ → Journal → Except Problem α → World σ → Prop} (idle : w.store.held = [])
    (h : ∀ w₁, w.store.Agrees w₁.store → work.Gives w₁ (Q w₁)) :
    (underLock name work).Gives w fun es o w' =>
      ∃ w₁ w₂, w.store.Agrees w₁.store ∧ Q w₁ es o w₂ ∧ w₂.store.Agrees w'.store := by
  have locked := Store.agrees_lock w.store name
  have unheld : (w.store.lock name).2.held = [] := by
    unfold Store.lock
    split <;> exact idle
  unfold underLock
  refine gives_bind (gives_modifyGet rfl ?_)
  rcases hl : w.store.lock name with ⟨l, s⟩
  rw [hl] at locked unheld
  have free : s.isHeld l = false := by
    rw [Store.isHeld, unheld]
    rfl
  refine gives_get_bind ?_
  rw [if_neg (by simp [free])]
  refine gives_edit_bind ?_
  have agrees : w.store.Agrees (s.acquire l) := ⟨locked.records, locked.current⟩
  refine (h _ agrees).ensuring fun es o w₂ hQ => gives_editStore ?_
  exact ⟨_, w₂, agrees, by simpa [Except.bind] using hQ, rfl, rfl⟩

/-! ## 2. Opening a session -/

/-- The credentials can be read, or what is wrong with them is a
misconfiguration. -/
def Credentials.Decided (depths : Json.Depths) (j : Json) : Prop :=
  ∀ p, (ofPayload (.value j) depths).2 = .error p →
    ∃ why, p = .failure why ∧ why.isMisconfiguration = true

theorem Credentials.Readable.decided {depths : Json.Depths} {j : Json} (h : Readable depths j) :
    Decided depths j := by
  intro p hp
  obtain ⟨c, hc⟩ := h
  rw [hp] at hc
  cases hc

namespace Pass

variable {env : Surroundings σ} {k : Nat}

/-- A session is opened, or a failure says why not, if the credentials are
decided. -/
theorem gives_openSession_refused (h : env.Unobtrusive) (hh : env.host.Orderly) (w : World σ) :
    (openSession env k).Gives w fun es o w' => Connection.Connects env es o w w' ∧
      (Connection.Refused o ∨ ¬ Credentials.Decided env.depths (w.store.record k).credentials) := by
  refine (gives_openSession h k w).and ?_
  unfold openSession
  refine gives_record_bind ?_
  dsimp only
  refine gives_bind (gives_logAll ?_)
  rcases hc : (Credentials.ofPayload (.value (w.store.record k).credentials) env.depths).2 with p | c
  · refine gives_bind (gives_raise ?_)
    by_cases decided : Credentials.Decided env.depths (w.store.record k).credentials
    · obtain ⟨why, rfl, misconfigured⟩ := decided p hc
      exact Or.inl ⟨why, rfl, Or.inl misconfigured⟩
    · exact Or.inr decided
  · refine gives_bind (gives_pure ?_)
    exact ((Connection.gives_connect h c _ _).ends (Connection.ends_connect h hh c _)).mono
      fun _ _ _ hx => Or.inl hx.2

/-! ## 3. The ways of a pass -/

/-- The connection was closed, which the host answered in this way. -/
structure Closed (env : Surroundings σ) (closing : Stage) (es : Journal) (w w' : World σ) :
    Prop where
  exchange : Exchange [.closed closing] es w w'
  close : ∃ s, closing = (env.host.disconnect s).1
  first : ∃ rest, es = .event .disconnect :: rest

/-- The ways of a pass over incarnation `k` with record `r`, whatever the
host does. `C` holds of what came of the scripts, and `D` of what kept a
session from being opened. Whatever is done in a session, closing it comes
last. -/
inductive Took (env : Surroundings σ) (C : Phase → Except Problem Execution → Prop)
    (D : Problem → Prop) (k : Nat) (r : Resource) (es : Journal) (o : Except Problem Report)
    (w w' : World σ) : Prop
  /-- Nothing is left to be tried, and the name is forgotten. -/
  | completed (report : Report) (deleting : r.deleting = true)
      (ready : r.cleanupAttempted = true ∨ r.bundle.cleanup.isGiven = false)
      (returned : o = .ok report) (deleted : report.deleted = true)
      (well : report.failure = none) (silent : es.events = []) (milestones : es.milestones = [])
      (gone : w'.store.find? r.name = none)
  /-- No session could be opened. -/
  | unopened (why : Failure)
      (unready : r.deleting = true → r.cleanupAttempted = false ∧ r.bundle.cleanup.isGiven = true)
      (refused : D (.failure why))
      (reported : Reported k []
        (if (w'.store.record k).deleting && why.isMisconfiguration then r.spent else r) .none
        (.ok (.error why)) es o w w')
  /-- Opening a session raised what is no failure. -/
  | unread (p : Problem)
      (unready : r.deleting = true → r.cleanupAttempted = false ∧ r.bundle.cleanup.isGiven = true)
      (foreign : ∀ why, p ≠ .failure why) (refused : D p) (raised : o = .error p)
      (since : Since k [] r es w w')
  /-- The resource was looked at, and what it needed was done. -/
  | synced {es₁ es₂ : Journal} {o₁ : Except Problem Report} {w₁ : World σ}
      (results : Phase → Except Problem Execution) (closing : Stage) (live : r.deleting = false)
      (came : ∀ p ∈ (upshot r.bundle r.observation results).phases, C p (results p))
      (reported : Reported k
        (.connected :: handed k results (upshot r.bundle r.observation results).phases)
        { r with observation := (upshot r.bundle r.observation results).seen }
        (upshot r.bundle r.observation results).action
        (upshot r.bundle r.observation results).verdict es₁ o₁ w w₁)
      (closed : Closed env closing es₂ w₁ w')
      (journal : es = es₁ ++ es₂) (outcome : o = closing.bind fun _ => o₁)
  /-- The resource was cleared away, or that was tried. -/
  | cleared {es₁ es₂ : Journal} {o₁ : Except Problem Report} {w₁ : World σ}
      (results : Phase → Except Problem Execution) (closing : Stage)
      (unready : r.deleting = true → r.cleanupAttempted = false ∧ r.bundle.cleanup.isGiven = true)
      (asked : r.deleting = true ∨ .requested k ∈ es)
      (came : ∀ p ∈ (clearing r.bundle r.observation results).1, C p (results p))
      (reported : Cleared k
        (.connected :: handed k results (clearing r.bundle r.observation results).1)
        { r.spent with
          observation := seenOf r.observation (clearing r.bundle r.observation results).2 }
        (verdictOf (clearing r.bundle r.observation results).2) es₁ o₁ w w₁)
      (closed : Closed env closing es₂ w₁ w')
      (journal : es = es₁ ++ es₂) (outcome : o = closing.bind fun _ => o₁)

variable {C : Phase → Except Problem Execution → Prop} {D : Problem → Prop}

variable {r : Resource} {es : Journal} {w w₁ : World σ}

/-- Whatever is done in a session, closing it comes last. -/
theorem gives_closing (h : env.Unobtrusive) {act : Act σ Report}
    {Q : Journal → Except Problem Report → World σ → Prop} (hact : act.Gives w₁ Q) :
    (ensuring act (Channel.close env)).Gives w₁ fun es o w' =>
      ∃ es₁ es₂ o₁ w₂ closing, Q es₁ o₁ w₂ ∧ Closed env closing es₂ w₂ w' ∧ es = es₁ ++ es₂ ∧
        o = closing.bind fun _ => o₁ := by
  refine hact.ensuring fun es₁ o₁ w₂ hQ => ?_
  refine ((Channel.gives_close h w₂).and (Channel.gives_close_first h w₂)).mono ?_
  rintro es₂ closing w' ⟨⟨close, exchange⟩, first⟩
  exact ⟨es₁, es₂, o₁, w₂, closing, hQ, ⟨exchange, close, first⟩, rfl, rfl⟩

/-- Whether more is to be tried is decided by how the resource is left. -/
theorem gives_refuse {ms : List Milestone} (since : Since k ms r es w w₁) (why : Failure) :
    (refuse k why).Gives w₁ fun es' o w' =>
      Reported k ms (if (w'.store.record k).deleting && why.isMisconfiguration then r.spent else r)
        .none (.ok (.error why)) (es ++ es') o w w' := by
  unfold refuse
  refine gives_record_bind ?_
  split
  · rename_i giveUp
    have marked := since.edit (f := Resource.spent) fun _ _ => rfl
    have same : ((w₁.store.edit k Resource.spent).record k).deleting =
        (w₁.store.record k).deleting := by
      rw [Store.record_edit_self since.known]
      rfl
    refine gives_edit_bind ((gives_fail marked .none why).mono
      fun es' o w' ⟨reported, kept⟩ => ?_)
    rw [kept, same, if_pos giveUp]
    exact reported
  · rename_i goOn
    refine (gives_fail since .none why).mono fun es' o w' ⟨reported, kept⟩ => ?_
    rw [kept, if_neg goOn]
    exact reported

/-- In a session a resource is cleared away or looked after. -/
theorem takes_session (h : env.Unobtrusive) (since : Since k [.connected] r es w w₁)
    (flag : (w.store.record k).deleting = r.deleting)
    (unready : r.deleting = true → r.cleanupAttempted = false ∧ r.bundle.cleanup.isGiven = true)
    (comes : ∀ p, (Lifecycle.runScript env (workplace env (Session.over env) k) r.bundle p).Ends
      (C p)) :
    (ensuring (attend env k (Session.over env)) (Channel.close env)).Gives w₁ fun es' o w' =>
      Took env C D k r (es ++ es') o w w' := by
  cases deleting : (w₁.store.record k).deleting with
  | false =>
    have live : r.deleting = false := by
      refine Bool.eq_false_iff.mpr fun requested => ?_
      rw [since.stays (flag.trans requested)] at deleting
      cases deleting
    have attended : (attend env k (Session.over env)).Gives w₁ _ :=
      gives_record_bind (by rw [deleting]; exact gives_sync h since comes)
    refine (gives_closing h attended).mono ?_
    rintro es' o w' ⟨es₁, es₂, o₁, w₂, closing, ⟨results, came, reported⟩, closed, rfl, rfl⟩
    exact .synced results closing live came reported closed (by simp) rfl
  | true =>
    have attended : (attend env k (Session.over env)).Gives w₁ _ :=
      gives_record_bind (by rw [deleting]; exact gives_delete h since comes)
    refine (gives_closing h attended).mono ?_
    rintro es' o w' ⟨es₁, es₂, o₁, w₂, closing, ⟨results, came, reported⟩, closed, rfl, rfl⟩
    refine .cleared results closing unready ?_ came reported closed (by simp) rfl
    rcases since.deleting with same | asked
    · exact Or.inl (by rw [← flag, ← same, deleting])
    · exact Or.inr (List.mem_append_left _ asked)

/-- What is due to a resource is done in one of these ways. -/
theorem takes_work (h : env.Unobtrusive) (since : Since k [] r es w w₁)
    (read : w₁.store.record k = r) (flag : (w.store.record k).deleting = r.deleting)
    (silent : es.events = [])
    (opens : (openSession env k).Gives w₁ fun _ o _ => ∀ p, o = .error p → D p)
    (comes : ∀ p, (Lifecycle.runScript env (workplace env (Session.over env) k) r.bundle p).Ends
      (C p)) :
    (work env r.name k).Gives w₁ fun es' o w' => Took env C D k r (es ++ es') o w w' := by
  unfold work
  refine gives_record_bind ?_
  rw [read]
  split
  · rename_i ready
    simp only [Bool.and_eq_true, Bool.or_eq_true, Bool.not_eq_true'] at ready
    refine gives_edit_bind ?_
    have known : k < (w₁.store.edit k Resource.spent).records.length := by
      rw [Store.length_edit]
      exact since.known
    refine (gives_forget known r.name).mono ?_
    rintro es' o w' ⟨⟨report, ho, deleted, well⟩, hm, he, gone⟩
    refine .completed report ready.1 ready.2 ho deleted well ?_ ?_ gone
    · rw [Journal.events_append, silent, he]
      rfl
    · rw [Journal.milestones_append, since.milestones, hm]
      rfl
  · rename_i notReady
    have unready (deleting : r.deleting = true) :
        r.cleanupAttempted = false ∧ r.bundle.cleanup.isGiven = true := by
      simpa [deleting] using notReady
    refine ((gives_openSession h k w₁).and opens).attempt_bind ?_
    rintro es₁ outcome w₂ ⟨connects, refused⟩
    rcases outcome with p | session
    · have arrived := since.exchange connects
      have unread {p : Problem} (foreign : ∀ why, p ≠ .failure why) (refused : D p) :
          (raise p : Act σ Report).Gives w₂ fun es' o w' =>
            Took env C D k r (es ++ (es₁ ++ es')) o w w' :=
        gives_raise (.unread p unready foreign refused rfl (by simpa using arrived))
      rcases p with why | why | f
      · exact (gives_refuse arrived why).mono fun es₂ o w' reported =>
          .unopened why unready (refused _ rfl) (by simpa using reported)
      · exact unread (fun _ hf => by cases hf) (refused _ rfl)
      · exact unread (fun _ hf => by cases hf) (refused _ rfl)
    · obtain ⟨rfl, connected⟩ := connects
      have arrived := since.exchange connected
      exact (takes_session h arrived flag unready comes).mono fun es₂ o w' took => by
        simpa using took

/-- Reading the clock for a resource. -/
theorem gives_touch (w : World σ) :
    (touch env k).Gives w fun es o w' => o = .ok () ∧ es = [] ∧ ∃ time,
      w'.store = w.store.edit k fun r => { r with lastReconciled := time } := by
  unfold touch
  refine gives_bind (gives_modifyGet rfl (gives_editStore ?_))
  exact ⟨rfl, rfl, _, rfl⟩

theorem takes_body (h : env.Unobtrusive) (known : k < w.store.records.length)
    (opens : ∀ w₁, (w₁.store.record k).credentials = (w.store.record k).credentials →
      (openSession env k).Gives w₁ fun _ o _ => ∀ p, o = .error p → D p)
    (comes : ∀ p, (Lifecycle.runScript env (workplace env (Session.over env) k)
      (w.store.record k).bundle p).Ends (C p)) :
    (body env (w.store.record k).name k).Gives w fun es o w' => ∃ time,
      Took env C D k { w.store.record k with lastReconciled := time } es o w w' := by
  unfold body
  refine gives_record_bind (gives_note_bind ?_)
  refine (gives_touch (w.note _)).bind ?_ (fun _ _ _ hx => by cases hx.1)
  rintro es _ w₁ ⟨-, rfl, time, touched⟩
  have read : w₁.store.record k = { w.store.record k with lastReconciled := time } := by
    rw [touched]
    exact Store.record_edit_self known _
  have since (said : Log.Record) : Since k [] { w.store.record k with lastReconciled := time }
      [.log said] w w₁ := {
    milestones := rfl
    find? := fun _ => by rw [touched]; rfl
    known := by rw [touched, Store.length_edit]; exact known
    record := by rw [read]; rfl
    deleting := Or.inl (by rw [read])
    stays := fun asked => by rw [read]; exact asked
    heeded := by simp }
  have opens₁ := opens w₁ (by rw [read])
  exact (takes_work h (since _) read rfl rfl opens₁ comes).mono fun _ _ _ took => ⟨time, took⟩

/-- A pass over a name goes one of these ways. -/
theorem takes_run (h : env.Unobtrusive) {name : String} (sound : w.store.Sound)
    (stored : w.store.find? name = some k)
    (opens : ∀ w₁, (w₁.store.record k).credentials = (w.store.record k).credentials →
      (openSession env k).Gives w₁ fun _ o _ => ∀ p, o = .error p → D p)
    (comes : ∀ p, (Lifecycle.runScript env (workplace env (Session.over env) k)
      (w.store.record k).bundle p).Ends (C p)) :
    (run env name).Gives w fun es o w' => ∃ w₁ w₂, w.store.Agrees w₁.store ∧
      (∃ time, Took env C D k { w.store.record k with lastReconciled := time } es o w₁ w₂) ∧
      w₂.store.Agrees w'.store := by
  obtain ⟨known, hname⟩ := sound.known name k stored
  unfold run
  refine Register.gives_underLock sound.idle fun w₁ same => gives_get_bind ?_
  rw [same.find?, stored, ← hname]
  rw [← same.record k] at opens comes ⊢
  exact takes_body h (by rw [same.records]; exact known) opens comes

/-- A pass over a name goes one of these ways, whatever the host does. -/
theorem takes_run_any (h : env.Unobtrusive) {name : String} (sound : w.store.Sound)
    (stored : w.store.find? name = some k) :
    (run env name).Gives w fun es o w' => ∃ w₁ w₂, w.store.Agrees w₁.store ∧
      (∃ time, Took env (fun _ _ => True) (fun _ => True) k
        { w.store.record k with lastReconciled := time } es o w₁ w₂) ∧
      w₂.store.Agrees w'.store := by
  refine takes_run h sound stored (fun w₁ _ => ?_) fun _ _ => trivial
  exact (gives_openSession h k w₁).mono fun _ _ _ _ _ _ => trivial

/-- After a pass the name is gone, or account was kept of the record to the
end. -/
theorem Took.gone_or_since {r : Resource} {es : Journal} {o : Except Problem Report}
    {w w' : World σ} (took : Took env C D k r es o w w') :
    w'.store.find? r.name = none ∨ ∃ ms r', Since k ms r' es w w' := by
  -- closing the connection is an exchange
  have closed {ms : List Milestone} {r' : Resource} {es₁ es₂ : Journal} {w₁ : World σ}
      {closing : Stage} (since : Since k ms r' es₁ w w₁) (hc : Closed env closing es₂ w₁ w')
      (journal : es = es₁ ++ es₂) : ∃ ms r', Since k ms r' es w w' :=
    ⟨_, r', journal ▸ since.exchange hc.exchange⟩
  cases took with
  | completed _ _ _ _ _ _ _ _ gone => exact Or.inl gone
  | unopened why unready refused reported => exact Or.inr ⟨_, _, reported.2⟩
  | unread p unready foreign refused raised since => exact Or.inr ⟨_, _, since⟩
  | synced results closing live came reported hc journal outcome =>
    obtain ⟨_, since⟩ := reported.exists_since
    exact Or.inr (closed since hc journal)
  | cleared results closing unready asked came reported hc journal outcome =>
    rcases reported.cases with ⟨-, -, -, gone⟩ | ⟨-, reported⟩
    · exact Or.inl ((hc.exchange.find? _).trans gone)
    · obtain ⟨_, since⟩ := reported.exists_since
      exact Or.inr (closed since hc journal)

/-- A problem of the end of the connection takes the place of the report. -/
theorem returned_of_closing {closing : Stage} {o₁ : Except Problem Report} {report : Report}
    (h : (closing.bind fun _ => o₁) = .ok report) : o₁ = .ok report := by
  rcases closing with p | _
  · cases h
  · exact h

/-- A pass hands over scripts of its own incarnation only, and of one that is
being deleted only the cleanup script. -/
theorem Took.scripts {r : Resource} {es : Journal} {o : Except Problem Report} {w w' : World σ}
    (took : Took env C D k r es o w w') {j : Nat} {p : Phase} (handed : (j, p) ∈ es.scripts) :
    j = k ∧ (r.deleting = true → p = .cleanup) := by
  have none (passed : es.milestones = []) : j = k ∧ (r.deleting = true → p = .cleanup) := by
    rw [Journal.scripts, passed] at handed
    cases handed
  cases took with
  | completed _ _ _ _ _ _ _ milestones _ => exact none milestones
  | unopened why unready refused reported => exact none reported.milestones
  | unread p unready foreign refused raised since => exact none since.milestones
  | synced results closing live came reported closed journal outcome =>
    rw [scripts_of_handed results closing (by
      rw [journal, Journal.milestones_append, reported.milestones, closed.exchange.milestones])]
      at handed
    obtain ⟨q, -, hq⟩ := List.mem_map.mp handed
    cases hq
    exact ⟨rfl, fun deleting => by rw [live] at deleting; cases deleting⟩
  | cleared results closing unready asked came reported closed journal outcome =>
    rw [scripts_of_handed results closing (by
      rw [journal, Journal.milestones_append, reported.milestones, closed.exchange.milestones])]
      at handed
    obtain ⟨q, hq, same⟩ := List.mem_map.mp handed
    cases same
    exact ⟨rfl, fun _ => (mem_play hq).1⟩

/-! ## 4. The ways of a pass on an orderly host -/

/-- What may come of the scripts of a bundle on an orderly host. -/
def Comes (b : Bundle) (p : Phase) : Except Problem Execution → Prop :=
  Staging.Comes (b.script p) b.vars

/-- The ways of a pass over incarnation `k` with record `r` on an orderly
host. -/
inductive Went (env : Surroundings σ) (k : Nat) (r : Resource) (es : Journal)
    (o : Except Problem Report) (w w' : World σ) : Prop
  /-- Nothing is left to be tried, and the name is forgotten. -/
  | completed (report : Report) (deleting : r.deleting = true)
      (ready : r.cleanupAttempted = true ∨ r.bundle.cleanup.isGiven = false)
      (returned : o = .ok report) (deleted : report.deleted = true)
      (well : report.failure = none) (silent : es.events = []) (milestones : es.milestones = [])
      (gone : w'.store.find? r.name = none)
  /-- No session could be opened. -/
  | unopened (why : Failure)
      (unready : r.deleting = true → r.cleanupAttempted = false ∧ r.bundle.cleanup.isGiven = true)
      (refused : Credentials.Decided env.depths r.credentials →
        why.isMisconfiguration = true ∨ why.isConnection = true)
      (reported : Reported k []
        (if (w'.store.record k).deleting && why.isMisconfiguration then r.spent else r) .none
        (.ok (.error why)) es o w w')
  /-- The credentials could not be made sense of, and that is no failure. -/
  | unread (p : Problem)
      (unready : r.deleting = true → r.cleanupAttempted = false ∧ r.bundle.cleanup.isGiven = true)
      (undecided : ¬ Credentials.Decided env.depths r.credentials)
      (raised : o = .error p) (milestones : es.milestones = [])
  /-- The resource was looked at, and what it needed was done. -/
  | synced {es₁ es₂ : Journal} {o₁ : Except Problem Report} {w₁ : World σ}
      (results : Phase → Except Problem Execution) (closing : Stage) (live : r.deleting = false)
      (came : ∀ p ∈ (upshot r.bundle r.observation results).phases, Comes r.bundle p (results p))
      (reported : Reported k
        (.connected :: handed k results (upshot r.bundle r.observation results).phases)
        { r with observation := (upshot r.bundle r.observation results).seen }
        (upshot r.bundle r.observation results).action
        (upshot r.bundle r.observation results).verdict es₁ o₁ w w₁)
      (closed : Exchange [.closed closing] es₂ w₁ w')
      (close : ∃ s, closing = (env.host.disconnect s).1)
      (journal : es = es₁ ++ es₂) (outcome : o = closing.bind fun _ => o₁)
  /-- The resource was cleared away, or that was tried. -/
  | cleared {es₁ es₂ : Journal} {o₁ : Except Problem Report} {w₁ : World σ}
      (results : Phase → Except Problem Execution) (closing : Stage)
      (unready : r.deleting = true → r.cleanupAttempted = false ∧ r.bundle.cleanup.isGiven = true)
      (asked : r.deleting = true ∨ .requested k ∈ es)
      (came : ∀ p ∈ (clearing r.bundle r.observation results).1, Comes r.bundle p (results p))
      (reported : Cleared k
        (.connected :: handed k results (clearing r.bundle r.observation results).1)
        { r.spent with
          observation := seenOf r.observation (clearing r.bundle r.observation results).2 }
        (verdictOf (clearing r.bundle r.observation results).2) es₁ o₁ w w₁)
      (closed : Exchange [.closed closing] es₂ w₁ w')
      (close : ∃ s, closing = (env.host.disconnect s).1)
      (journal : es = es₁ ++ es₂) (outcome : o = closing.bind fun _ => o₁)

/-- What may keep a session on an orderly host from being opened. -/
def Refuses (depths : Json.Depths) (j : Json) (p : Problem) : Prop :=
  (∃ why, p = .failure why ∧ (why.isMisconfiguration = true ∨ why.isConnection = true)) ∨
    ¬ Credentials.Decided depths j

theorem Took.went {r : Resource} {es : Journal} {o : Except Problem Report} {w w' : World σ}
    (took : Took env (Comes r.bundle) (Refuses env.depths r.credentials) k r es o w w') :
    Went env k r es o w w' := by
  cases took with
  | completed report deleting ready returned deleted well silent milestones gone =>
    exact .completed report deleting ready returned deleted well silent milestones gone
  | unopened why unready refused reported =>
    refine .unopened why unready (fun decided => ?_) reported
    obtain ⟨_, hw, trouble⟩ := refused.resolve_right (not_not_intro decided)
    cases hw
    exact trouble
  | unread p unready foreign refused raised since =>
    refine .unread p unready ?_ raised since.milestones
    exact refused.resolve_left fun ⟨why, hwhy, _⟩ => foreign why hwhy
  | synced results closing live came reported closed journal outcome =>
    exact .synced results closing live came reported closed.exchange closed.close journal outcome
  | cleared results closing unready asked came reported closed journal outcome =>
    exact .cleared results closing unready asked came reported closed.exchange closed.close journal
      outcome

/-- A pass over a name goes one of these ways. -/
theorem gives_run (h : env.Unobtrusive) (hh : env.host.Orderly) {w : World σ} {name : String}
    (sound : w.store.Sound) (stored : w.store.find? name = some k) :
    (run env name).Gives w fun es o w' => ∃ w₁ w₂, w.store.Agrees w₁.store ∧
      (∃ time, Went env k { w.store.record k with lastReconciled := time } es o w₁ w₂) ∧
      w₂.store.Agrees w'.store := by
  refine (takes_run (D := Refuses env.depths (w.store.record k).credentials) h sound stored
    (fun w₁ same => ?_) fun p => Lifecycle.ends_runScript h hh rfl _ p).mono ?_
  · refine (gives_openSession_refused h hh w₁).mono ?_
    rintro es o w' ⟨-, refused⟩ p rfl
    rw [same] at refused
    exact refused
  · rintro es o w' ⟨w₁, w₂, before, ⟨time, took⟩, after⟩
    exact ⟨w₁, w₂, before, ⟨time, took.went⟩, after⟩

end Pass

end Upkeep
