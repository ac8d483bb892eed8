/-
Upkeep.Proofs.Performing — whatever the service does is a run.

The store changes only in the ways that `Step` lists, whatever is requested,
whatever the host answers, and whatever deletions are requested in pauses
(`Service.invariant_moves`). That a cleanup script is handed over only if
cleanup has not been tried is the one condition that no single act can see:
it holds because the store was lawful when the pass began. So the relation
that acts stay within, `Moves`, takes a lawful store for granted.
-/
import Upkeep.Proofs.Histories
import Upkeep.Proofs.Run

namespace Upkeep

open Upkeep.Act

variable {σ : Type} {P : Json → Prop}

/-- From a lawful store it is a run. -/
def Moves (P : Json → Prop) (es : Journal) (w w' : World σ) : Prop :=
  w.store.Lawful → Run P es w w'

namespace Moves

variable {es es' : Journal} {w w' w'' : World σ}

theorem lasts : Lasts (σ := σ) (Moves P) where
  refl w _ := .refl w
  trans h h' lawful := (h lawful).trans (h' ((h lawful).lawful lawful))

theorem idle (h : Exchange [] es w w') : Moves P es w w' := fun _ => .idle h

theorem exchange {ms : List Milestone} (h : Exchange ms es w w')
    (quiet : ∀ k, .script k .cleanup ∉ ms) : Moves P es w w' := fun _ => .exchange h quiet

theorem edit {k : Nat} {f : Resource → Resource} (alike : ∀ r, Resource.Alike r (f r))
    (store : w'.store = w.store.edit k f) : Moves P [] w w' := fun _ =>
  .step (.edit k f alike store)

end Moves

theorem Act.Keeps.moves {α : Type} {act : Act σ α} (h : act.Keeps (Exchange [])) :
    act.Keeps (Moves P) := fun w =>
  (h w).mono fun _ _ _ => Moves.idle

/-! ## 1. Registration -/

namespace Register

theorem keeps_lock (name : String) : (lock name : Act σ Nat).Keeps (Moves P) := fun _ =>
  gives_modifyGet rfl fun _ => .step (.lock name rfl)

theorem keeps_remove (name : String) : (remove name : Act σ Unit).Keeps (Moves P) := by
  have lasts := Moves.lasts (σ := σ) (P := P)
  unfold remove
  refine (keeps_get lasts).bind lasts fun _ => ?_
  refine Keeps.bind lasts (fun _ => gives_editStore fun _ => .step (.remove name rfl)) fun _ => ?_
  split
  · exact (keeps_get lasts).bind lasts fun _ => keeps_log.moves
  · exact keeps_pure lasts _

/-- Work under a lock is a run if the work is one. -/
theorem keeps_underLock {α : Type} {name : String} {work : Act σ α}
    (h : work.Keeps (Moves P)) : (underLock name work).Keeps (Moves P) := by
  intro w
  unfold underLock
  refine (keeps_lock (P := P) name w).bind (fun es l w₁ h₁ => ?_) (fun _ _ _ h₁ => h₁)
  refine gives_get_bind ?_
  split
  · exact gives_raise (by simpa using h₁)
  · rename_i free
    refine gives_edit_bind ?_
    refine (h _).ensuring fun es' o w₂ h₂ => gives_editStore fun lawful => ?_
    have start := h₁ lawful
    have worked := h₂ (start.lawful lawful)
    simpa using start.trans (.holding l (by simpa using free) rfl worked rfl)

theorem keeps_put (name : String) (credentials : Json) (bundle : Bundle)
    (admitted : P credentials) : (put name credentials bundle : Act σ Unit).Keeps (Moves P) := by
  have lasts := Moves.lasts (σ := σ) (P := P)
  refine keeps_underLock fun w => gives_get_bind ?_
  split
  · rename_i unknown
    refine (keeps_log w).bind (fun es _ w₁ hx => ?_) (fun _ _ _ hx => .idle hx)
    refine gives_editStore fun _ => (Run.idle hx).trans (.step ?_)
    exact .register { name, credentials, bundle } (by rw [hx.find?]; exact unknown) admitted
      rfl rfl rfl
  · rename_i k _
    refine gives_edit_bind (gives_note fun _ => ?_)
    exact (Run.step (.replace k credentials bundle admitted rfl)).trans (.idle (.note rfl))

end Register

/-! ## 2. Passes -/

namespace Pass

variable {env : Surroundings σ}

theorem keeps_say (level : Log.Level) (text : String) :
    (say level text : Act σ Unit).Keeps (Moves P) := keeps_log.moves

theorem keeps_editRecord {k : Nat} {f : Resource → Resource}
    (alike : ∀ r, Resource.Alike r (f r)) : (editRecord k f : Act σ Unit).Keeps (Moves P) :=
  fun _ => gives_editStore (.edit alike rfl)

theorem keeps_finish (k : Nat) (action : Action) (deleted : Bool) :
    (finish k action deleted : Act σ Report).Keeps (Moves P) := by
  have lasts := Moves.lasts (σ := σ) (P := P)
  unfold finish
  refine Keeps.bind lasts (keeps_editRecord ?_) fun _ => ?_
  · exact fun _ => ⟨rfl, rfl, rfl, rfl, rfl⟩
  · refine (keeps_record lasts k).bind lasts fun _ => ?_
    exact (keeps_say _ _).bind lasts fun _ => keeps_pure lasts _

theorem keeps_fail (k : Nat) (action : Action) (failure : Failure) :
    (fail k action failure : Act σ Report).Keeps (Moves P) := by
  have lasts := Moves.lasts (σ := σ) (P := P)
  unfold fail
  refine Keeps.bind lasts (keeps_editRecord ?_) fun _ => ?_
  · exact fun _ => ⟨rfl, rfl, rfl, rfl, rfl⟩
  · refine (keeps_record lasts k).bind lasts fun _ => ?_
    exact (keeps_say _ _).bind lasts fun _ => keeps_pure lasts _

theorem keeps_conclude (k : Nat) (action : Action) (outcome : Except Failure Unit) :
    (conclude k action outcome : Act σ Report).Keeps (Moves P) := by
  rcases outcome with failure | _
  · exact keeps_fail k action failure
  · exact keeps_finish k action false

theorem keeps_touch (k : Nat) : (touch env k).Keeps (Moves P) := by
  have lasts := Moves.lasts (σ := σ) (P := P)
  unfold touch
  refine Keeps.bind lasts (fun _ => gives_modifyGet rfl (.idle (.of_store rfl rfl))) fun _ => ?_
  refine keeps_editRecord ?_
  exact fun _ => ⟨rfl, rfl, rfl, rfl, rfl⟩

/-- What a phase saw is an edit. -/
theorem moves_remember {α : Type} (k : Nat) (o : Except Problem (Lifecycle.Verdict α))
    (w : World σ) : Moves P [] w (remember k o w) := by
  rcases o with p | ⟨seen, verdict⟩
  · exact Moves.lasts.refl w
  · have alike (r : Resource) : r.Alike { r with observation := seen } :=
      ⟨rfl, rfl, rfl, rfl, rfl⟩
    exact .edit alike rfl

/-- A phase other than cleanup is an exchange, and what it saw an edit. -/
theorem gives_phase_moves {α : Type} {k j : Nat} {p : Phase} (hp : p ≠ .cleanup)
    {act : Observation → Act σ (Lifecycle.Verdict α)} {script : Script}
    {skipped : Observation → Lifecycle.Verdict α}
    {judged : Observation → Execution → Lifecycle.Verdict α}
    (h : ∀ seen w, (act seen).Gives w
      (Lifecycle.Played (fun _ => True) j p script (skipped seen) (judged seen) · · w ·)) :
    (phase k act).Keeps (Moves P) := by
  intro w
  refine (gives_phase (h _ w)).mono ?_
  rintro es o _ ⟨out, w₁, played, -, rfl⟩
  have moved : Moves P es w w₁ := by
    rcases played with ⟨outcome, -, -, -, hx⟩ | ⟨-, -, hx⟩
    · refine .exchange hx fun i => ?_
      simp [hp.symm]
    · exact .idle hx
  simpa using Moves.lasts.trans moved (moves_remember k out w₁)

theorem keeps_respond (h : env.Unobtrusive) (k : Nat) (survey : Survey) :
    (respond env k (workplace env (Session.over env) k) survey).Keeps (Moves P) := by
  have lasts := Moves.lasts (σ := σ) (P := P)
  unfold respond
  refine (keeps_record lasts k).bind lasts fun r => ?_
  dsimp only
  split
  · refine (keeps_say _ _).bind lasts fun _ => ?_
    exact Keeps.bind lasts (gives_phase_moves (by decide) fun seen w =>
      Lifecycle.gives_create h rfl r.bundle (fun _ => trivial) seen w) (keeps_conclude k _)
  · refine (keeps_say _ _).bind lasts fun _ => ?_
    exact Keeps.bind lasts (gives_phase_moves (by decide) fun seen w =>
      Lifecycle.gives_update h rfl r.bundle (fun _ => trivial) seen w) (keeps_conclude k _)
  · exact Keeps.bind lasts (keeps_pure lasts _) (keeps_conclude k _)

theorem keeps_sync (h : env.Unobtrusive) (k : Nat) :
    (sync env k (Session.over env)).Keeps (Moves P) := by
  have lasts := Moves.lasts (σ := σ) (P := P)
  unfold sync
  refine (keeps_record lasts k).bind lasts fun r => ?_
  refine Keeps.bind lasts (gives_phase_moves (by decide) fun seen w =>
    Lifecycle.gives_observe h rfl r.bundle (fun _ => trivial) seen w) fun verdict => ?_
  rcases verdict with failure | survey
  · exact keeps_fail k _ failure
  · dsimp only
    split
    · exact (keeps_say _ _).bind lasts fun _ => keeps_finish k _ _
    · exact keeps_respond h k survey

theorem moves_giveUp {k : Nat} {w : World σ} (deleting : (w.store.record k).deleting = true) :
    Moves P [] w { w with store := w.store.edit k Resource.spent } := fun _ =>
  .step (.giveUp k deleting rfl)

/-- The cleanup script of what is being deleted may be handed over if that
has not been tried. -/
theorem gives_delete_moves (h : env.Unobtrusive) (k : Nat) {w : World σ}
    (deleting : (w.store.record k).deleting = true) :
    (delete env k (Session.over env)).Gives w fun es _ w' =>
      (w.store.record k).cleanupAttempted = false → Moves P es w w' := by
  have lasts := Moves.lasts (σ := σ) (P := P)
  unfold delete
  refine gives_edit_bind (gives_record_bind ?_)
  refine (gives_phase (Lifecycle.gives_delete (C := fun _ => True) h rfl _
    (fun _ => trivial) _ _)).bind ?_ ?_
  all_goals
    rintro es o _ ⟨out, w₁, played, -, rfl⟩
    have moved (untried : (w.store.record k).cleanupAttempted = false) :
        Moves P es w (remember k out w₁) := by
      have handed : Moves P es w w₁ := by
        rcases played with ⟨outcome, -, -, -, hx⟩ | ⟨-, -, hx⟩
        · exact fun _ => .step (.cleanup k outcome deleting untried rfl hx)
        · exact fun _ => (Run.step (.giveUp k deleting rfl)).trans (.idle hx)
      simpa using lasts.trans handed (moves_remember k out w₁)
  · rcases o with failure | _
    · exact (keeps_fail k .delete failure _).mono fun _ _ _ hx untried =>
        lasts.trans (moved untried) hx
    · have last (name : String) := (Register.keeps_remove (P := P) name).bind lasts fun _ =>
        keeps_finish (σ := σ) k .delete true
      exact (last _ _).mono fun _ _ _ hx untried => lasts.trans (moved untried) hx
  · exact moved

/-- Opening a session is an exchange, and the session is one over the
surroundings. -/
theorem gives_openSession (h : env.Unobtrusive) (k : Nat) (w : World σ) :
    (openSession env k).Gives w fun es o w' => Connection.Connects env es o w w' := by
  unfold openSession
  refine gives_record_bind ?_
  have arrives := Connection.arrives_exchange (σ := σ)
  refine Connection.Reaches.bind h.within arrives (keeps_logAll _) (fun _ w => ?_) w
  refine Connection.Reaches.bind h.within arrives (keeps_settle Exchange.lasts _) (fun c w => ?_) w
  exact Connection.gives_connect h c _ w

theorem keeps_close (h : env.Unobtrusive) : (Channel.close env).Keeps (Moves P) := fun w =>
  (Channel.gives_close h w).mono fun _ _ _ hx => .exchange hx.2 fun _ => by simp

theorem keeps_refuse (k : Nat) (failure : Failure) :
    (refuse k failure : Act σ Report).Keeps (Moves P) := by
  have lasts := Moves.lasts (σ := σ) (P := P)
  intro w
  unfold refuse
  refine gives_record_bind ?_
  split
  · rename_i misconfigured
    have deleting : (w.store.record k).deleting = true := by
      simp only [Bool.and_eq_true] at misconfigured
      exact misconfigured.1
    exact gives_edit_bind ((keeps_fail k .none failure).after lasts (moves_giveUp deleting))
  · exact keeps_fail k .none failure w

/-- What is due to a resource is a run. -/
theorem keeps_work (h : env.Unobtrusive) (name : String) (k : Nat) :
    (work env name k).Keeps (Moves P) := by
  have lasts := Moves.lasts (σ := σ) (P := P)
  intro w
  unfold work
  refine gives_record_bind ?_
  split
  · rename_i ready
    have deleting : (w.store.record k).deleting = true := by
      simp only [Bool.and_eq_true] at ready
      exact ready.1
    refine gives_edit_bind (Keeps.after lasts ?_ (moves_giveUp deleting))
    exact (Register.keeps_remove name).bind lasts fun _ => keeps_finish k .delete true
  · rename_i notReady
    refine (gives_openSession h k w).attempt_bind fun es outcome w₁ hx => ?_
    rcases outcome with p | session
    · have moved : Moves P es w w₁ := .idle hx
      rcases p with failure | failure | f
      · exact (keeps_refuse k failure).after lasts moved
      · exact gives_raise (by simpa using moved)
      · exact gives_raise (by simpa using moved)
    · obtain ⟨rfl, hx⟩ := hx
      have moved : Moves P es w w₁ := .exchange hx fun _ => by simp
      have untried (lawful : w.store.Lawful) (deleting : (w₁.store.record k).deleting = true) :
          (w₁.store.record k).cleanupAttempted = false := by
        rw [hx.attempted]
        rcases hd : (w.store.record k).deleting
        · -- what was not being deleted when the pass began has not been cleaned up
          exact Bool.eq_false_iff.mpr fun ha => by simp [lawful k ha] at hd
        · simp only [hd, Bool.true_and, Bool.or_eq_true, not_or, Bool.not_eq_true] at notReady
          exact notReady.1
      refine Gives.ensuring (P := fun es' _ w' => w.store.Lawful → Moves P es' w₁ w')
        ?_ fun es' _ w₂ h₂ => ?_
      · unfold attend
        refine gives_record_bind ?_
        split
        · rename_i deleting
          exact (gives_delete_moves h k deleting).mono fun _ _ _ hx lawful =>
            hx (untried lawful deleting)
        · exact (keeps_sync h k w₁).mono fun _ _ _ hx _ => hx
      · refine (keeps_close (P := P) h w₂).mono fun _ _ _ hx lawful => ?_
        exact lasts.trans moved (lasts.trans (h₂ lawful) hx) lawful

theorem keeps_body (h : env.Unobtrusive) (name : String) (k : Nat) :
    (body env name k).Keeps (Moves P) := by
  have lasts := Moves.lasts (σ := σ) (P := P)
  unfold body
  refine (keeps_record lasts k).bind lasts fun _ => ?_
  refine (keeps_say _ _).bind lasts fun _ => ?_
  exact (keeps_touch k).bind lasts fun _ => keeps_work h name k

/-- A pass is a run. -/
theorem keeps_run (h : env.Unobtrusive) (name : String) : (run env name).Keeps (Moves P) := by
  refine Register.keeps_underLock fun w => gives_get_bind ?_
  split
  · exact keeps_raise Moves.lasts _ w
  · exact keeps_body h name _ w

end Pass

/-! ## 3. Histories -/

namespace Service

/-- The store changes only by runs, whatever is requested. -/
theorem invariant_moves {env : Surroundings σ} (h : env.Unobtrusive)
    (readable : ∀ j, Credentials.Readable env.depths j → P j) : Invariant env P (Moves P) where
  lasts := Moves.lasts
  aside := Moves.idle
  readable := readable
  put := Register.keeps_put
  remove := Register.keeps_remove
  lock := Register.keeps_lock
  pass := Pass.keeps_run h

variable {env : Surroundings σ}

/-- What the requests write is added to the journal, and they are a run. -/
theorem run_serve (h : env.Unobtrusive) (readable : ∀ j, Credentials.Readable env.depths j → P j)
    (requests : List Request) (w : World σ) (lawful : w.store.Lawful)
    (admitted : ∀ r ∈ requests, r.Admits P) :
    ∃ written, (serve env w requests).journal = w.journal ++ written ∧
      Run P written w (serve env w requests) := by
  obtain ⟨written, hj, moved⟩ := exists_serve (invariant_moves h readable) requests w admitted
  exact ⟨written, hj, moved lawful⟩

/-- Whatever is requested of the service is a run. -/
theorem exists_run_serve (h : env.Unobtrusive) {w : World σ} (lawful : w.store.Lawful)
    (requests : List Request) :
    ∃ written, (serve env w requests).journal = w.journal ++ written ∧
      Run (fun _ => True) written w (serve env w requests) :=
  run_serve h (fun _ _ => trivial) requests w lawful (admits_any requests)

/-- Whatever is requested of the service, its store stays sound. -/
theorem sound_serve (h : env.Unobtrusive) (host : σ) (requests : List Request) :
    (serve env (start host) requests).store.Sound := by
  obtain ⟨_, _, run⟩ := exists_run_serve (w := start host) h Store.sound_empty.lawful requests
  exact run.sound Store.sound_empty

end Service

end Upkeep
