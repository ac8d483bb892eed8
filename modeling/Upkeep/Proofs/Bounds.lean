/-
Upkeep.Proofs.Bounds — what a pass stays within.

Apart from talking to a host, a pass does few things to the state: it passes
milestones, it edits the record of its own incarnation, and it may forget
the name. No edit touches what was requested of the resource, and only in a
session is another output stored with it.

A relation between states that lasts and that all of this stays within is a
bound of the pass. There are two kinds: `SessionBounds` allow for the output
that scripts leave, `Bounds` do not have to. `Pass.keeps_body` puts them
together: what happens in a session is within the one, and what happens
before a connection is established is within the other.
-/
import Upkeep.Proofs.Passes

namespace Upkeep

open Upkeep.Act

variable {σ α : Type}

/-! ## 1. Edits -/

/-- The same is requested of the resource. -/
structure Resource.SameRequest (r r' : Resource) : Prop where
  name : r'.name = r.name
  credentials : r'.credentials = r.credentials
  bundle : r'.bundle = r.bundle
  deleting : r'.deleting = r.deleting

theorem Resource.SameRequest.refl (r : Resource) : r.SameRequest r := ⟨rfl, rfl, rfl, rfl⟩

theorem Resource.SameRequest.trans {r r' r'' : Resource} (h : r.SameRequest r')
    (h' : r'.SameRequest r'') : r.SameRequest r'' where
  name := h'.name.trans h.name
  credentials := h'.credentials.trans h.credentials
  bundle := h'.bundle.trans h.bundle
  deleting := h'.deleting.trans h.deleting

/-- The output of the last script is the same, and so is whether the resource
is known to have been created. -/
structure Observation.SameOutput (o o' : Observation) : Prop where
  stdout : o'.stdout = o.stdout
  stderr : o'.stderr = o.stderr
  exitCode : o'.exitCode = o.exitCode
  created : o'.created = o.created

theorem Observation.SameOutput.refl (o : Observation) : o.SameOutput o := ⟨rfl, rfl, rfl, rfl⟩

theorem Observation.SameOutput.trans {o o' o'' : Observation} (h : o.SameOutput o')
    (h' : o'.SameOutput o'') : o.SameOutput o'' where
  stdout := h'.stdout.trans h.stdout
  stderr := h'.stderr.trans h.stderr
  exitCode := h'.exitCode.trans h.exitCode
  created := h'.created.trans h.created

/-- The edit leaves alone what is requested of a resource and the output of
its scripts. -/
structure Resource.Quiet (f : Resource → Resource) : Prop where
  request : ∀ r : Resource, r.SameRequest (f r)
  output : ∀ r : Resource, r.observation.SameOutput (f r).observation

/-- The milestone is not about the scripts of another incarnation. -/
def Milestone.Of (k : Nat) : Milestone → Prop
  | .script j _ | .result j _ _ => j = k
  | .connected | .closed _ => True

namespace Pass

theorem quiet_finish (action : Action) :
    Resource.Quiet fun r => { r with lastAction := action, lastError := none } :=
  ⟨fun _ => ⟨rfl, rfl, rfl, rfl⟩, fun _ => ⟨rfl, rfl, rfl, rfl⟩⟩

theorem quiet_failed (action : Action) (why : Failure) : Resource.Quiet (failed action why) :=
  ⟨fun _ => ⟨rfl, rfl, rfl, rfl⟩, fun _ => ⟨rfl, rfl, rfl, rfl⟩⟩

theorem quiet_spent : Resource.Quiet Resource.spent :=
  ⟨fun _ => ⟨rfl, rfl, rfl, rfl⟩, fun _ => ⟨rfl, rfl, rfl, rfl⟩⟩

theorem quiet_touch (time : Option String) :
    Resource.Quiet fun r => { r with lastReconciled := time } :=
  ⟨fun _ => ⟨rfl, rfl, rfl, rfl⟩, fun _ => ⟨rfl, rfl, rfl, rfl⟩⟩

/-! ## 2. Bounds -/

/-- What a pass over incarnation `k` of a name does outside of a session
stays within the relation. The name that is forgotten was read earlier. -/
structure Bounds (env : Surroundings σ) (name : String) (k : Nat)
    (R : Journal → World σ → World σ → Prop) : Prop extends env.Within R where
  milestone : ∀ {m : Milestone} (w : World σ), m.Of k →
    R [.milestone m] w (w.note (.milestone m))
  edit : ∀ {f : Resource → Resource}, Resource.Quiet f → ∀ w : World σ,
    R [] w { w with store := w.store.edit k f }
  forget : ∀ {n : String} {es : Journal} {w w' : World σ},
    n = name ∨ n = (w.store.record k).name → R es w w' →
      R es w { w' with store := w'.store.remove n }

/-- What a pass does in a session stays within the relation, too. -/
structure SessionBounds (env : Surroundings σ) (name : String) (k : Nat)
    (R : Journal → World σ → World σ → Prop) : Prop extends Bounds env name k R where
  observe : ∀ (seen : Observation) (w : World σ),
    R [] w { w with store := w.store.edit k fun r => { r with observation := seen } }

variable {env : Surroundings σ} {name : String} {k : Nat}
  {R S : Journal → World σ → World σ → Prop}

namespace Bounds

theorem keeps_milestone (h : Bounds env name k R) {m : Milestone} (own : m.Of k) :
    (note (.milestone m) : Act σ Unit).Keeps R := fun w => gives_note (h.milestone w own)

theorem keeps_edit (h : Bounds env name k R) {f : Resource → Resource} (quiet : Resource.Quiet f) :
    (editRecord k f : Act σ Unit).Keeps R := fun w => gives_editStore (h.edit quiet w)

theorem keeps_finish (h : Bounds env name k R) (action : Action) (deleted : Bool) :
    (finish k action deleted : Act σ Report).Keeps R := by
  have lasts := h.lasts
  unfold finish
  refine (h.keeps_edit (quiet_finish action)).bind lasts fun _ => ?_
  refine (keeps_record lasts k).bind lasts fun r => ?_
  exact h.log.bind lasts fun _ => keeps_pure lasts _

theorem keeps_fail (h : Bounds env name k R) (action : Action) (why : Failure) :
    (fail k action why : Act σ Report).Keeps R := by
  have lasts := h.lasts
  unfold fail
  refine (h.keeps_edit (quiet_failed action why)).bind lasts fun _ => ?_
  refine (keeps_record lasts k).bind lasts fun r => ?_
  exact h.log.bind lasts fun _ => keeps_pure lasts _

theorem keeps_conclude (h : Bounds env name k R) (action : Action)
    (outcome : Except Failure Unit) : (conclude k action outcome : Act σ Report).Keeps R := by
  rcases outcome with why | _
  · exact h.keeps_fail action why
  · exact h.keeps_finish action false

theorem keeps_refuse (h : Bounds env name k R) (why : Failure) :
    (refuse k why : Act σ Report).Keeps R := by
  have lasts := h.lasts
  unfold refuse
  refine (keeps_record lasts k).bind lasts fun r => ?_
  split
  · exact (h.keeps_edit quiet_spent).bind lasts fun _ => h.keeps_fail .none why
  · exact h.keeps_fail .none why

theorem keeps_touch (h : Bounds env name k R) : (touch env k).Keeps R := by
  have lasts := h.lasts
  unfold touch
  refine Keeps.bind lasts (fun w => gives_modifyGet rfl (h.beside w _ _ .same)) fun n => ?_
  exact h.keeps_edit (quiet_touch _)

/-- The name that was read in `w` is forgotten. -/
theorem keeps_remove (h : Bounds env name k R) {n : String} {es : Journal} {w w' : World σ}
    (named : n = name ∨ n = (w.store.record k).name) (before : R es w w') :
    (Register.remove n : Act σ Unit).Gives w' fun es' _ w'' => R (es ++ es') w w'' := by
  have gone := h.forget named before
  unfold Register.remove
  refine gives_get_bind (gives_edit_bind ?_)
  split
  · refine gives_get_bind (gives_note ?_)
    exact h.lasts.trans gone (h.aside _ rfl)
  · refine gives_pure ?_
    rw [List.append_nil]
    exact gone

/-! ## 3. Opening a session -/

/-- The relation holds, and a connection was established. -/
def Connected (R : Journal → World σ → World σ → Prop) (es : Journal) (w w' : World σ) : Prop :=
  R es w w' ∧ .connected ∈ es.milestones

theorem arrives (h : Bounds env name k R) : Connection.Arrives R (Connected R) where
  connected w := ⟨h.milestone w trivial, List.mem_cons_self ..⟩
  after first second := by
    refine ⟨h.lasts.trans first second.1, ?_⟩
    rw [Journal.milestones_append]
    exact List.mem_append_right _ second.2
  before first second := by
    refine ⟨h.lasts.trans first.1 second, ?_⟩
    rw [Journal.milestones_append]
    exact List.mem_append_left _ first.2

theorem reaches_openSession (h : Bounds env name k R) (w : World σ) :
    (openSession env k).Gives w fun es o w' =>
      Connection.Reaches env R (Connected R) es o w w' := by
  have within := h.toWithin
  unfold openSession
  refine gives_record_bind ?_
  refine Connection.Reaches.bind within h.arrives (h.logAll _) (fun _ w => ?_) w
  refine Connection.Reaches.bind within h.arrives (keeps_settle h.lasts _) (fun c w => ?_) w
  exact Connection.reaches_connect within h.arrives c _ w

end Bounds

end Pass

/-! ## 4. Phases -/

namespace Lifecycle

variable {env : Surroundings σ} {name : String} {k : Nat}
  {R : Journal → World σ → World σ → Prop}

theorem keeps_runScript (h : Pass.Bounds env name k R) (b : Bundle) (p : Phase) :
    (runScript env (Pass.workplace env (Session.over env) k) b p).Keeps R := by
  have lasts := h.lasts
  unfold runScript
  refine (h.keeps_milestone (m := .script k p) rfl).bind lasts fun _ => ?_
  refine (Staging.keeps_execute h.toWithin _ _).attempt.bind lasts fun outcome => ?_
  refine (h.keeps_milestone (m := .result k p outcome) rfl).bind lasts fun _ => ?_
  exact keeps_settle lasts _

theorem keeps_observe (h : Pass.Bounds env name k R) (b : Bundle) (o : Observation) :
    (observe env (Pass.workplace env (Session.over env) k) b o).Keeps R := by
  have lasts := h.lasts
  unfold observe
  split
  · exact h.log.bind lasts fun _ => keeps_pure lasts _
  · refine (keeps_runScript h b _).bind lasts fun e => ?_
    split
    · exact h.log.bind lasts fun _ => keeps_pure lasts _
    · exact h.log.bind lasts fun _ => keeps_pure lasts _

theorem keeps_change (h : Pass.Bounds env name k R) (p : Phase) (b : Bundle) (o : Observation) :
    (change env (Pass.workplace env (Session.over env) k) p b o).Keeps R := by
  have lasts := h.lasts
  unfold change
  split
  · exact h.log.bind lasts fun _ => keeps_pure lasts _
  · refine (keeps_runScript h b p).bind lasts fun e => ?_
    split
    · exact keeps_pure lasts _
    · exact h.log.bind lasts fun _ => keeps_pure lasts _

theorem keeps_create (h : Pass.Bounds env name k R) (b : Bundle) (o : Observation) :
    (create env (Pass.workplace env (Session.over env) k) b o).Keeps R := by
  unfold create
  refine (keeps_change h .init b o).bind h.lasts fun v => ?_
  split
  · exact keeps_pure h.lasts _
  · exact keeps_pure h.lasts _

theorem keeps_delete (h : Pass.Bounds env name k R) (b : Bundle) (o : Observation) :
    (delete env (Pass.workplace env (Session.over env) k) b o).Keeps R := by
  have lasts := h.lasts
  unfold delete
  split
  · exact h.log.bind lasts fun _ => keeps_pure lasts _
  · refine (keeps_runScript h b .cleanup).bind lasts fun e => ?_
    dsimp only
    split
    · refine h.log.bind lasts fun _ => ?_
      split <;> exact keeps_pure lasts _
    · split <;> exact keeps_pure lasts _

end Lifecycle

/-! ## 5. Sessions -/

namespace Pass

namespace SessionBounds

variable {env : Surroundings σ} {name : String} {k : Nat}
  {R : Journal → World σ → World σ → Prop}

/-- What a phase saw is stored. -/
theorem keeps_phase (h : SessionBounds env name k R)
    {act : Observation → Act σ (Lifecycle.Verdict α)} (hact : ∀ o, (act o).Keeps R) :
    (phase k act).Keeps R := by
  have lasts := h.lasts
  unfold phase
  refine (keeps_record lasts k).bind lasts fun r => ?_
  refine (hact _).attempt.bind lasts fun outcome => ?_
  rcases outcome with p | ⟨seen, verdict⟩
  · rcases p with f | f | f
    · exact keeps_pure lasts _
    · exact keeps_raise lasts _
    · exact keeps_raise lasts _
  · refine Keeps.bind lasts ?_ fun _ => keeps_pure lasts _
    exact fun w => gives_editStore (h.observe seen w)

theorem keeps_respond (h : SessionBounds env name k R) (survey : Survey) :
    (respond env k (workplace env (Session.over env) k) survey).Keeps R := by
  have lasts := h.lasts
  unfold respond
  refine (keeps_record lasts k).bind lasts fun r => ?_
  have ends := h.keeps_conclude (nextAction r.bundle r.observation)
  dsimp only
  split
  · refine h.log.bind lasts fun _ => ?_
    exact (h.keeps_phase (Lifecycle.keeps_create h.toBounds r.bundle)).bind lasts ends
  · refine h.log.bind lasts fun _ => ?_
    exact (h.keeps_phase (Lifecycle.keeps_change h.toBounds .update r.bundle)).bind lasts ends
  · exact (keeps_pure lasts _).bind lasts ends

theorem keeps_sync (h : SessionBounds env name k R) :
    (sync env k (Session.over env)).Keeps R := by
  have lasts := h.lasts
  unfold sync
  refine (keeps_record lasts k).bind lasts fun r => ?_
  refine (h.keeps_phase (Lifecycle.keeps_observe h.toBounds r.bundle)).bind lasts
    fun outcome => ?_
  rcases outcome with why | survey
  · exact h.keeps_fail .none why
  · dsimp only
    split
    · exact h.log.bind lasts fun _ => h.keeps_finish .none false
    · exact h.keeps_respond survey

/-- The name that is forgotten at the end was read before the cleanup script
was run. -/
theorem keeps_delete (h : SessionBounds env name k R) :
    (delete env k (Session.over env)).Keeps R := by
  intro w
  unfold delete
  refine gives_edit_bind (gives_record_bind ?_)
  have spent := h.edit quiet_spent w
  have named : ((w.store.edit k Resource.spent).record k).name = (w.store.record k).name := by
    rw [Store.record_edit]
    split <;> rfl
  have cleared := h.keeps_phase (Lifecycle.keeps_delete h.toBounds
    ((w.store.edit k Resource.spent).record k).bundle)
  refine (cleared.after h.lasts spent).bind ?_ fun _ _ _ hR => hR
  rintro es outcome w' hR
  rcases outcome with why | _
  · exact (h.keeps_fail .delete why).after h.lasts hR
  · refine (h.keeps_remove (Or.inr named) hR).bind (fun es' _ w'' gone => ?_) fun _ _ _ hR => hR
    refine ((h.keeps_finish .delete true).after h.lasts gone).mono fun es'' _ _ done => ?_
    rwa [← List.append_assoc]

theorem keeps_attend (h : SessionBounds env name k R) :
    (attend env k (Session.over env)).Keeps R := by
  unfold attend
  refine (keeps_record h.lasts k).bind h.lasts fun r => ?_
  split
  · exact h.keeps_delete
  · exact h.keeps_sync

theorem keeps_close (h : SessionBounds env name k R) : (Channel.close env).Keeps R := by
  have lasts := h.lasts
  unfold Channel.close
  refine (h.event _).bind lasts fun _ => (h.event _).bind lasts fun _ => ?_
  refine (h.ask fun _ => .disconnect).bind lasts fun outcome => ?_
  refine (h.keeps_milestone (m := .closed outcome) trivial).bind lasts fun _ => ?_
  exact Channel.keeps_await h.toWithin _ _

end SessionBounds

/-! ## 6. The pass -/

/-- What happens outside of a session stays within `R`, what happens in one
within `S`, and a connection lets the second come after the first. -/
structure Joined (env : Surroundings σ) (name : String) (k : Nat)
    (R S : Journal → World σ → World σ → Prop) : Prop where
  outside : Bounds env name k R
  session : SessionBounds env name k S
  join : ∀ {es es' : Journal} {w w' w'' : World σ}, R es w w' → .connected ∈ es.milestones →
    S es' w' w'' → R (es ++ es') w w''

/-- Bounds of sessions are bounds of passes. -/
theorem SessionBounds.joined (h : SessionBounds env name k R) : Joined env name k R R where
  outside := h.toBounds
  session := h
  join first _ second := h.lasts.trans first second

namespace Joined

theorem keeps_work (h : Joined env name k R S) : (work env name k).Keeps R := by
  have outside := h.outside
  have lasts := outside.lasts
  intro w
  unfold work
  refine gives_record_bind ?_
  split
  · refine gives_edit_bind ?_
    refine (outside.keeps_remove (Or.inl rfl) (outside.edit quiet_spent w)).bind ?_
      fun _ _ _ hR => hR
    exact fun es _ w' gone => (outside.keeps_finish .delete true).after lasts gone
  · refine (outside.reaches_openSession w).attempt_bind fun es opened w' reached => ?_
    rcases opened with p | session
    · rcases p with why | f | f
      · exact (outside.keeps_refuse why).after lasts reached
      · exact (keeps_raise lasts _).after lasts reached
      · exact (keeps_raise lasts _).after lasts reached
    · obtain ⟨rfl, before, connected⟩ := reached
      refine (h.session.keeps_attend.ensuring h.session.lasts h.session.keeps_close w').mono ?_
      exact fun _ _ _ hS => h.join before connected hS

theorem keeps_body (h : Joined env name k R S) : (body env name k).Keeps R := by
  have lasts := h.outside.lasts
  unfold body
  refine (keeps_record lasts k).bind lasts fun r => ?_
  refine h.outside.log.bind lasts fun _ => ?_
  exact h.outside.keeps_touch.bind lasts fun _ => h.keeps_work

end Joined

end Pass

/-! ## 7. Under the lock -/

/-- Work under a lock stays within a relation that locks have nothing to do
with, if the work does, also when the lock is not free. -/
theorem Register.gives_underLock_of_relock {name : String} {work : Act σ α}
    {R : Journal → World σ → World σ → Prop} {w : World σ} (lasts : Lasts R)
    (relock : ∀ (w : World σ) (s : Store), w.store.Agrees s → R [] w { w with store := s })
    (hwork : ∀ w₁, w.store.Agrees w₁.store → work.Gives w₁ fun es _ w' => R es w₁ w') :
    (underLock name work).Gives w fun es _ w' => R es w w' := by
  have locked := Store.agrees_lock w.store name
  unfold underLock
  refine gives_bind (gives_modifyGet rfl ?_)
  rcases hl : w.store.lock name with ⟨l, s⟩
  rw [hl] at locked
  refine gives_get_bind ?_
  dsimp only
  split
  · exact gives_raise (relock w s locked)
  · have held : w.store.Agrees (s.acquire l) := ⟨locked.records, locked.current⟩
    refine gives_edit_bind ((hwork _ held).ensuring fun es _ w₂ hR => gives_editStore ?_)
    have released := relock w₂ (w₂.store.release l) ⟨rfl, rfl⟩
    exact lasts.trans (relock w _ held) (lasts.trans hR released)

/-- A pass stays within a relation that locks have nothing to do with, if
what is done under the lock does. -/
theorem Pass.gives_run_of_body {env : Surroundings σ} {name : String}
    {R : Journal → World σ → World σ → Prop} {w : World σ} (lasts : Lasts R)
    (relock : ∀ (w : World σ) (s : Store), w.store.Agrees s → R [] w { w with store := s })
    (hbody : ∀ k, w.store.find? name = some k → (body env name k).Keeps R) :
    (run env name).Gives w fun es _ w' => R es w w' := by
  unfold run
  refine Register.gives_underLock_of_relock lasts relock fun w₁ same => gives_get_bind ?_
  rw [same.find?]
  cases stored : w.store.find? name with
  | none => exact gives_raise (lasts.refl w₁)
  | some k => exact hbody k stored w₁

end Upkeep
