/-
Upkeep.Proofs.Creation — a resource without a status check is created once.

Without a status check, all that is known of a resource is whether it was
created, and that is one flag of its record. A pass that connects runs the
init script as long as the flag is not set, and nothing afterwards
(`Pass.Tried`). The flag is set by the passes alone that complete a creation,
and nothing else changes it, so it stands for the history of the incarnation
(`Standing`): it is set if and only if one of the visits so far completed a
creation (`Visit.Creates`).
-/
import Upkeep.Proofs.Chronicle

namespace Upkeep

open Upkeep.Act

variable {σ : Type}

/-! ## 1. Passes without a status check -/

/-- The script ran and exited with status zero. -/
def Succeeds : Except Problem Execution → Bool
  | .ok e => e.succeeded
  | .error _ => false

/-- A success of the init script of an incarnation. -/
def Milestone.isCreation (k : Nat) : Milestone → Bool
  | .result j .init outcome => j == k && Succeeds outcome
  | _ => false

/-- How often the init script of an incarnation succeeded. -/
def Journal.creations (k : Nat) (j : Journal) : Nat := j.milestones.countP (Milestone.isCreation k)

theorem Journal.creations_append (k : Nat) (a b : Journal) :
    (a ++ b).creations k = a.creations k + b.creations k := by
  rw [creations, milestones_append, List.countP_append]
  rfl

/-- A creation is a result of the init script. -/
theorem Journal.exists_of_creations {k : Nat} {j : Journal} (h : 0 < j.creations k) :
    ∃ outcome, .result k .init outcome ∈ j.milestones ∧ Succeeds outcome = true := by
  obtain ⟨m, hm, success⟩ := List.countP_pos_iff.mp h
  unfold Milestone.isCreation at success
  split at success
  · rename_i i outcome
    simp only [Bool.and_eq_true, beq_iff_eq] at success
    exact ⟨outcome, success.1 ▸ hm, success.2⟩
  · exact absurd success Bool.false_ne_true

theorem Journal.creations_of_apart {k : Nat} {j : Journal}
    (h : ∀ outcome, .result k .init outcome ∉ j.milestones) : j.creations k = 0 := by
  refine Nat.eq_zero_of_not_pos fun made => ?_
  obtain ⟨outcome, hm, -⟩ := exists_of_creations made
  exact h outcome hm

namespace Pass

section Upshots

variable {b : Bundle} {o : Observation} {results : Phase → Except Problem Execution}

theorem look_unchecked (missing : b.statusCheck.isGiven = false) :
    look b o results =
      ([], .ok ((Lifecycle.surveyUnchecked o).1, .ok (Lifecycle.surveyUnchecked o).2)) := by
  unfold look Lifecycle.play
  rw [missing]
  rfl

/-- What was created is as it should be. -/
theorem upshot_created (missing : b.statusCheck.isGiven = false) (created : o.created = true) :
    upshot b o results = ⟨[], { o with readiness := .ready }, .none, .ok (.ok ())⟩ := by
  unfold upshot
  rw [look_unchecked missing]
  simp [verdictOf, seenOf, Lifecycle.surveyUnchecked, created]

/-- A creation sets the flag if its script succeeds. -/
theorem created_of_settled (created : o.created = false) (outcome : Except Problem Execution) :
    (seenOf o (outcome.map fun e => Lifecycle.settled (Lifecycle.changed .init o e))).created =
      Succeeds outcome := by
  rcases outcome with p | e
  · exact created
  · show (Lifecycle.settled (Lifecycle.changed .init o e)).1.created = e.succeeded
    unfold Lifecycle.changed
    cases success : e.succeeded with
    | true => rfl
    | false =>
      obtain ⟨stdout, stderr, status | why⟩ := e
      · have nonzero : status ≠ 0 := by
          rintro rfl
          cases success
        simp [Lifecycle.settled, Execution.check, nonzero, Observation.record, created]
      · exact created

/-- What was not created is created, and the flag says how that went. -/
theorem upshot_absent (results : Phase → Except Problem Execution)
    (missing : b.statusCheck.isGiven = false) (created : o.created = false) :
    (upshot b o results).phases = (if b.init.isGiven then [.init] else []) ∧
      (upshot b o results).seen.created = (!b.init.isGiven || Succeeds (results .init)) := by
  have absent : nextAction b (Lifecycle.surveyUnchecked o).1 = .create := by
    simp [nextAction, Lifecycle.surveyUnchecked, created]
  have came : upshot b o results = response b (Lifecycle.surveyUnchecked o).1 results := by
    unfold upshot
    rw [look_unchecked missing]
    simp [verdictOf, seenOf, Lifecycle.surveyUnchecked, created]
  rw [came]
  unfold response Lifecycle.play
  rw [absent]
  cases given : b.init.isGiven with
  | false => exact ⟨rfl, rfl⟩
  | true =>
    exact ⟨rfl, created_of_settled (o := (Lifecycle.surveyUnchecked o).1) created (results .init)⟩

end Upshots

variable {env : Surroundings σ} {C : Phase → Except Problem Execution → Prop}
  {D : Problem → Prop} {k : Nat} {r : Resource} {es : Journal} {o : Except Problem Report}
  {w w' : World σ}

/-- However a pass ends, what it reports changes neither the flag nor whether
cleanup was tried. -/
theorem Reported.exists_kept {ms : List Milestone} {action : Action}
    {verdict : Except Problem (Except Failure Unit)}
    (h : Reported k ms r action verdict es o w w') :
    ∃ r', Since k ms r' es w w' ∧ r'.observation.created = r.observation.created ∧
      r'.cleanupAttempted = r.cleanupAttempted := by
  rcases verdict with p | (why | _)
  · exact ⟨_, h.2, rfl, rfl⟩
  · exact ⟨_, h.2, rfl, rfl⟩
  · exact ⟨_, h.2, rfl, rfl⟩

/-- What a pass hands over that creates a resource, if it has to be created
and there is a script for that. -/
def creating (k : Nat) (r : Resource) (outcome : Except Problem Execution) : List Milestone :=
  if r.observation.created || !r.bundle.init.isGiven then []
  else [.script k .init, .result k .init outcome]

/-- The ways of a pass over a resource without a status check that is not
being deleted when it begins. -/
inductive Tried (k : Nat) (r : Resource) (es : Journal) (o : Except Problem Report)
    (w w' : World σ) : Prop
  /-- No connection was established. -/
  | apart (silent : es.milestones = [])
      (created : (w'.store.record k).observation.created = r.observation.created)
  /-- The resource was created, or found to have been. -/
  | looked (outcome : Except Problem Execution) (closing : Stage)
      (passed : es.milestones = .connected :: creating k r outcome ++ [.closed closing])
      (created : (w'.store.record k).observation.created =
        (r.observation.created || !r.bundle.init.isGiven || Succeeds outcome))
      (attempted : (w'.store.record k).cleanupAttempted = r.cleanupAttempted)
      (stays : w'.store.find? r.name = w.store.find? r.name)
      (told : r.observation.created = true → ∀ report, o = .ok report →
        report.action = .none ∧ report.readiness = .ready ∧ report.failure = none)
  /-- Its deletion was requested in the meantime, and it was cleared away. -/
  | cleared (asked : .requested k ∈ es) (results : Phase → Except Problem Execution)
      (closing : Stage) (passed : es.milestones = .connected ::
        handed k results (clearing r.bundle r.observation results).1 ++ [.closed closing])
      (done : w'.store.find? r.name = none ∨ (w'.store.record k).cleanupAttempted = true)

/-- A resource that is not being deleted is looked after in one of these
ways. -/
theorem Took.tried (took : Took env C D k r es o w w') (live : r.deleting = false)
    (missing : r.bundle.statusCheck.isGiven = false) : Tried k r es o w w' := by
  cases took with
  | completed _ deleting =>
    rw [live] at deleting
    cases deleting
  | unopened why unready refused reported =>
    obtain ⟨r', since, created, -⟩ := reported.exists_kept
    refine .apart since.milestones ?_
    rw [since.record, Resource.flagged_observation, created]
    split <;> rfl
  | unread p unready foreign refused raised since =>
    exact .apart since.milestones (by rw [since.record]; rfl)
  | @synced es₁ es₂ o₁ w₁ results closing _ came reported closed journal outcome =>
    obtain ⟨r', since, created, attempted⟩ := reported.exists_kept
    have passed : es.milestones = .connected ::
        handed k results (upshot r.bundle r.observation results).phases ++ [.closed closing] := by
      rw [journal, Journal.milestones_append, reported.milestones, closed.exchange.milestones]
    have flag : (w'.store.record k).observation.created =
        (upshot r.bundle r.observation results).seen.created := by
      have kept := (since.exchange closed.exchange).record
      rw [kept, Resource.flagged_observation, created]
    have tried : (w'.store.record k).cleanupAttempted = r.cleanupAttempted := by
      rw [closed.exchange.attempted, since.record]
      exact attempted
    have stays := (closed.exchange.find? r.name).trans (since.find? r.name)
    cases done : r.observation.created with
    | true =>
      rw [upshot_created missing done] at passed flag reported
      refine .looked (.error (.fault ⟨.runtime, ""⟩)) closing ?_ ?_ tried stays ?_
      · rw [passed, creating, done]
        rfl
      · rw [flag, done]
        rfl
      · rintro - report returned
        obtain ⟨told, -⟩ := reported
        rw [returned_of_closing (outcome.symm.trans returned)] at told
        cases told
        exact ⟨rfl, rfl, rfl⟩
    | false =>
      obtain ⟨phases, seen⟩ := upshot_absent results missing done
      rw [phases] at passed
      refine .looked (results .init) closing ?_ ?_ tried stays ?_
      · rw [passed, creating, done]
        cases r.bundle.init.isGiven <;> rfl
      · rw [flag, seen, done]
        rfl
      · intro created
        rw [done] at created
        cases created
  | @cleared es₁ es₂ o₁ w₁ results closing unready asked came reported closed journal outcome =>
    refine .cleared (asked.resolve_left (by simp [live])) results closing ?_ ?_
    · rw [journal, Journal.milestones_append, reported.milestones, closed.exchange.milestones]
    · rcases reported.cases with ⟨-, -, -, gone⟩ | ⟨-, reported⟩
      · exact Or.inl ((closed.exchange.find? _).trans gone)
      · obtain ⟨r', since, -, attempted⟩ := reported.exists_kept
        right
        rw [closed.exchange.attempted, since.record]
        exact attempted

/-- Results are there of the scripts alone that were handed over. -/
theorem mem_of_result_mem_handed {results : Phase → Except Problem Execution}
    {phases : List Phase} {j : Nat} {p : Phase} {outcome : Except Problem Execution}
    (h : .result j p outcome ∈ handed k results phases) : p ∈ phases := by
  obtain ⟨q, hq, hm⟩ := List.mem_flatMap.mp h
  rcases List.mem_cons.mp hm with first | rest
  · cases first
  · cases List.mem_singleton.mp rest
    exact hq

/-- Clearing a resource away is no creation. -/
theorem creations_of_clearing {results : Phase → Except Problem Execution} {closing : Stage}
    (j : Nat) (passed : es.milestones = .connected ::
      handed k results (clearing r.bundle r.observation results).1 ++ [.closed closing]) :
    es.creations j = 0 := by
  refine Journal.creations_of_apart fun outcome hm => ?_
  rw [passed] at hm
  rcases List.mem_append.mp hm with begun | closed
  · rcases List.mem_cons.mp begun with connected | handed
    · cases connected
    · obtain ⟨same, -⟩ := mem_play (mem_of_result_mem_handed handed)
      cases same
  · cases List.mem_singleton.mp closed

theorem creations_of_silent (j : Nat) (silent : es.milestones = []) : es.creations j = 0 :=
  Journal.creations_of_apart fun _ hm => by
    rw [silent] at hm
    cases hm

/-- What is being deleted is not created. -/
theorem Took.creations (took : Took env C D k r es o w w') (deleting : r.deleting = true)
    (j : Nat) : es.creations j = 0 := by
  cases took with
  | completed _ _ _ _ _ _ _ milestones _ => exact creations_of_silent j milestones
  | unopened why unready refused reported => exact creations_of_silent j reported.milestones
  | unread p unready foreign refused raised since => exact creations_of_silent j since.milestones
  | synced results closing live =>
    rw [deleting] at live
    cases live
  | cleared results closing unready asked came reported closed journal outcome =>
    have passed : es.milestones = .connected ::
        handed k results (clearing r.bundle r.observation results).1 ++ [.closed closing] := by
      rw [journal, Journal.milestones_append, reported.milestones, closed.exchange.milestones]
    exact creations_of_clearing j passed

section Creating

variable {outcome : Except Problem Execution} {closing : Stage}

/-- The script that creates a resource succeeds at most once in a pass. -/
theorem creations_of_creating
    (passed : es.milestones = .connected :: creating k r outcome ++ [.closed closing]) :
    es.creations k =
      if r.observation.created || !r.bundle.init.isGiven || !Succeeds outcome then 0 else 1 := by
  rw [Journal.creations, passed, creating]
  cases r.observation.created <;> cases r.bundle.init.isGiven <;> cases hs : Succeeds outcome <;>
    simp [Milestone.isCreation, hs]

/-- A pass has one result of the script that creates a resource. -/
theorem eq_of_mem_creating {result : Except Problem Execution}
    (h : .result k .init result ∈ Milestone.connected :: creating k r outcome ++ [.closed closing]) :
    result = outcome := by
  unfold creating at h
  split at h
  · simp at h
  · simpa using h

end Creating

/-- What a pass over a resource without a status check does. -/
theorem gives_tried (h : env.Unobtrusive) {name : String} (sound : w.store.Sound)
    (stored : w.store.find? name = some k)
    (missing : (w.store.record k).bundle.statusCheck.isGiven = false) :
    (run env name).Gives w fun es o w' => w'.store.Sound ∧ k < w'.store.records.length ∧
      (.requested k ∈ es → (w'.store.record k).deleting = true) ∧
      ((w.store.record k).deleting = true →
        (w'.store.record k).deleting = true ∧ es.creations k = 0) ∧
      ((w.store.record k).deleting = false → Tried k (w.store.record k) es o w w') := by
  have moves : (run env name).Gives w fun es _ w' => Moves (fun _ => True) es w w' :=
    keeps_run h name w
  obtain ⟨known, -⟩ := sound.known name k stored
  refine (moves.and (takes_run_any h sound stored)).mono ?_
  rintro es o w' ⟨moved, w₁, w₂, before, ⟨time, took⟩, after⟩
  have passed := moved sound.lawful
  refine ⟨passed.sound sound, Nat.lt_of_lt_of_le known passed.grows, passed.heeded known,
    fun deleting => ⟨(passed.guarded k).deleting deleting, took.creations deleting k⟩,
    fun live => ?_⟩
  cases took.tried live missing with
  | apart silent created => exact .apart silent (by rw [after.record]; exact created)
  | looked outcome closing passed created attempted stays told =>
    refine .looked outcome closing passed ?_ ?_ ?_ told
    · rw [after.record]
      exact created
    · rw [after.record]
      exact attempted
    · rw [after.find?, ← before.find?]
      exact stays
  | cleared asked results closing passed done =>
    refine .cleared asked results closing passed ?_
    rw [after.find?, after.record]
    exact done

end Pass

/-! ## 2. Visits -/

namespace Visit

/-- The pass is not one of a deletion: that was not requested before, and in
the end cleanup was not tried. -/
def Live (env : Surroundings σ) (v : Visit σ) (k : Nat) : Prop :=
  (v.record k).deleting = false ∧ (v.after env).store.find? v.name = some k ∧
    ((v.after env).store.record k).cleanupAttempted = false

/-- The pass completes a creation: it connects, and its init script succeeds,
if there is one. -/
def Creates (env : Surroundings σ) (v : Visit σ) (k : Nat) : Prop :=
  v.Over k ∧ v.Live env k ∧ v.Connects env ∧
    ((v.record k).bundle.init.isGiven = true → ∃ outcome,
      .result k .init outcome ∈ (v.written env).milestones ∧ Succeeds outcome = true)

variable {env : Surroundings σ} {v : Visit σ} {k : Nat}

theorem not_creates_of_silent (silent : (v.written env).milestones = []) : ¬ v.Creates env k := by
  intro creates
  have connects := creates.2.2.1
  rw [Connects, silent] at connects
  cases connects

/-- A visit to what was not created completes the creation if and only if its
script succeeds or is missing. -/
theorem creates_iff {outcome : Except Problem Execution} {closing : Stage} (here : v.Over k)
    (live : v.Live env k) (absent : (v.record k).observation.created = false)
    (passed : (v.written env).milestones =
      .connected :: Pass.creating k (v.record k) outcome ++ [.closed closing]) :
    v.Creates env k ↔ (!(v.record k).bundle.init.isGiven || Succeeds outcome) = true := by
  constructor
  · rintro ⟨-, -, -, succeeds⟩
    cases given : (v.record k).bundle.init.isGiven with
    | false => rfl
    | true =>
      obtain ⟨result, hm, success⟩ := succeeds given
      rw [passed] at hm
      rw [← Pass.eq_of_mem_creating hm, success]
      rfl
  · intro came
    refine ⟨here, live, ?_, fun given => ⟨outcome, ?_, by simpa [given] using came⟩⟩
    · rw [Connects, passed]
      exact List.mem_cons_self ..
    · rw [passed, Pass.creating]
      simp [absent, given]

end Visit

/-- What is known of incarnation `k` after some visits. -/
inductive Standing (env : Surroundings σ) (visits : List (Visit σ)) (k : Nat) (journal : Journal)
    (w : World σ) : Prop
  /-- It has not begun. -/
  | unborn (beyond : w.store.records.length ≤ k) (unmade : journal.creations k = 0)
      (never : ∀ v ∈ visits, ¬ v.Creates env k)
  /-- No creation was completed. -/
  | absent (known : k < w.store.records.length) (live : (w.store.record k).deleting = false)
      (flag : (w.store.record k).observation.created = false)
      (unmade : journal.creations k = 0) (never : ∀ v ∈ visits, ¬ v.Creates env k)
  /-- A creation was completed. -/
  | created (known : k < w.store.records.length) (live : (w.store.record k).deleting = false)
      (flag : (w.store.record k).observation.created = true)
      (once : journal.creations k ≤ 1) (done : ∃ v ∈ visits, v.Creates env k)
  /-- Its deletion was requested. -/
  | leaving (known : k < w.store.records.length) (deleting : (w.store.record k).deleting = true)
      (once : journal.creations k ≤ 1)

namespace Standing

variable {env : Surroundings σ} {visits : List (Visit σ)} {k : Nat} {journal es : Journal}
  {w w' : World σ}

theorem once (h : Standing env visits k journal w) : journal.creations k ≤ 1 := by
  cases h with
  | unborn _ unmade => omega
  | absent _ _ _ unmade => omega
  | created _ _ _ once => exact once
  | leaving _ _ once => exact once

/-- A request for its deletion ends what may be said of the flag. -/
theorem of_once (known : k < w.store.records.length) (once : journal.creations k ≤ 1)
    (live : (w.store.record k).deleting = false → Standing env visits k journal w) :
    Standing env visits k journal w := by
  cases deleting : (w.store.record k).deleting with
  | true => exact .leaving known deleting once
  | false => exact live deleting

/-- Until its deletion is requested, the flag tells whether a creation was
completed. -/
theorem created_iff (h : Standing env visits k journal w) (begun : k < w.store.records.length)
    (live : (w.store.record k).deleting = false) :
    (w.store.record k).observation.created = true ↔ ∃ v ∈ visits, v.Creates env k := by
  cases h with
  | unborn beyond => exact absurd begun (Nat.not_lt_of_le beyond)
  | absent _ _ flag _ never =>
    exact ⟨fun created => absurd (flag.symm.trans created) Bool.false_ne_true,
      fun ⟨v, hv, creates⟩ => absurd creates (never v hv)⟩
  | created _ _ flag _ done => exact ⟨fun _ => done, fun _ => flag⟩
  | leaving _ deleting => exact absurd (live.symm.trans deleting) Bool.false_ne_true

/-- Something in which nothing was created, visits that create nothing
included. -/
theorem uneventful (h : Standing env visits k journal w) (quiet : es.creations k = 0)
    (grows : k < w.store.records.length → k < w'.store.records.length)
    (created : k < w.store.records.length →
      (w'.store.record k).observation.created = (w.store.record k).observation.created)
    (fresh : w.store.records.length ≤ k → k < w'.store.records.length →
      (w'.store.record k).observation.created = false)
    (kept : (w.store.record k).deleting = true → (w'.store.record k).deleting = true)
    {more : List (Visit σ)} (idle : ∀ v ∈ more, ¬ v.Creates env k) :
    Standing env (visits ++ more) k (journal ++ es) w' := by
  have count : (journal ++ es).creations k = journal.creations k := by
    rw [Journal.creations_append, quiet, Nat.add_zero]
  have never (before : ∀ v ∈ visits, ¬ v.Creates env k) :
      ∀ v ∈ visits ++ more, ¬ v.Creates env k := fun v hv =>
    (List.mem_append.mp hv).elim (before v) (idle v)
  cases h with
  | unborn beyond unmade before =>
    rw [← count] at unmade
    by_cases known : k < w'.store.records.length
    · exact .of_once known (by omega) fun live =>
        .absent known live (fresh beyond known) unmade (never before)
    · exact .unborn (Nat.le_of_not_lt known) unmade (never before)
  | absent known _ flag unmade before =>
    rw [← count] at unmade
    exact .of_once (grows known) (by omega) fun live =>
      .absent (grows known) live ((created known).trans flag) unmade (never before)
  | created known _ flag once done =>
    rw [← count] at once
    obtain ⟨v, hv, creates⟩ := done
    exact .of_once (grows known) once fun live =>
      .created (grows known) live ((created known).trans flag) once
        ⟨v, List.mem_append_left _ hv, creates⟩
  | leaving known deleting once =>
    rw [← count] at once
    exact .leaving (grows known) (kept deleting) once

/-- What leaves the incarnation alone, visits to others included. -/
theorem untouched (h : Standing env visits k journal w) (hu : Untouched k es w w')
    (more : List (Visit σ)) (elsewhere : ∀ v ∈ more, ¬ v.Over k) :
    Standing env (visits ++ more) k (journal ++ es) w' := by
  have quiet : es.creations k = 0 :=
    Journal.creations_of_apart fun outcome hm => hu.apart _ hm rfl
  exact h.uneventful quiet (fun known => Nat.lt_of_lt_of_le known hu.grows) hu.created hu.fresh
    hu.deleting fun v hv creates => elsewhere v hv creates.1

/-- A visit that creates the incarnation, or finds that it was created. -/
theorem looked {v : Visit σ} {outcome : Except Problem Execution} {closing : Stage}
    (h : Standing env visits k journal v.before) (here : v.Over k) (alive : v.Live env k)
    (begun : k < v.before.store.records.length) (known : k < (v.after env).store.records.length)
    (passed : (v.written env).milestones =
      .connected :: Pass.creating k (v.record k) outcome ++ [.closed closing])
    (flagged : ((v.after env).store.record k).observation.created =
      ((v.record k).observation.created || !(v.record k).bundle.init.isGiven ||
        Succeeds outcome)) :
    Standing env (visits ++ [v]) k (journal ++ v.written env) (v.after env) := by
  have count := Journal.creations_append k journal (v.written env)
  have made := Pass.creations_of_creating passed
  cases h with
  | unborn beyond => exact absurd begun (Nat.not_lt_of_le beyond)
  | absent _ _ flag unmade before =>
    have absent : (v.record k).observation.created = false := flag
    rw [absent, Bool.false_or] at made flagged
    have completes := v.creates_iff here alive absent passed
    have once : (journal ++ v.written env).creations k ≤ 1 := by
      rw [count, made, unmade]
      split <;> omega
    refine .of_once known once fun live => ?_
    cases came : !(v.record k).bundle.init.isGiven || Succeeds outcome with
    | true =>
      exact .created known live (flagged.trans came) once
        ⟨v, List.mem_append_right _ (List.mem_singleton_self v), completes.mpr came⟩
    | false =>
      have failed : (v.record k).bundle.init.isGiven = true ∧ Succeeds outcome = false := by
        simpa using came
      refine .absent known live (flagged.trans came) ?_ fun u hu creates => ?_
      · rw [count, made, unmade, failed.1, failed.2]
        rfl
      · rcases List.mem_append.mp hu with old | new
        · exact before u old creates
        · rw [List.mem_singleton.mp new] at creates
          exact Bool.false_ne_true (came.symm.trans (completes.mp creates))
  | created _ _ flag once done =>
    have set : (v.record k).observation.created = true := flag
    rw [set] at made flagged
    obtain ⟨u, hu, creates⟩ := done
    have still : (journal ++ v.written env).creations k ≤ 1 := by
      rw [count, made]
      exact once
    exact .of_once known still fun live =>
      .created known live flagged still ⟨u, List.mem_append_left _ hu, creates⟩
  | leaving _ deleting => exact absurd (alive.1.symm.trans deleting) Bool.false_ne_true

/-- A visit to the incarnation. -/
theorem visited {v : Visit σ} (h : Standing env visits k journal v.before)
    (quiet : env.Unobtrusive) (sound : v.before.store.Sound) (here : v.Over k)
    (missing : (v.record k).bundle.statusCheck.isGiven = false) :
    Standing env (visits ++ [v]) k (journal ++ v.written env) (v.after env) := by
  obtain ⟨known, named⟩ := sound.known v.name k here
  obtain ⟨-, known', heeded, leaves, tried⟩ :=
    Visit.of_gives (Pass.gives_tried quiet sound here missing)
  have count := Journal.creations_append k journal (v.written env)
  have once := h.once
  cases live : (v.record k).deleting with
  | true =>
    obtain ⟨deleting, none⟩ := leaves live
    exact .leaving known' deleting (by omega)
  | false =>
    cases tried live with
    | apart silent created =>
      refine h.uneventful (Pass.creations_of_silent k silent) (fun _ => known') (fun _ => created)
        (fun beyond => absurd known (Nat.not_lt_of_le beyond)) (fun deleting => (leaves deleting).1)
        fun u hu => ?_
      rw [List.mem_singleton.mp hu]
      exact Visit.not_creates_of_silent silent
    | looked outcome closing passed created attempted stays told =>
      have untried : (v.record k).cleanupAttempted = false :=
        Bool.eq_false_iff.mpr fun tried =>
          Bool.false_ne_true (live.symm.trans (sound.lawful k tried))
      have alive : v.Live env k := ⟨live, (named ▸ stays).trans here, attempted.trans untried⟩
      exact h.looked here alive known known' passed created
    | cleared asked results closing passed done =>
      have none := Pass.creations_of_clearing k passed
      exact .leaving known' (heeded asked) (by omega)

end Standing

/-! ## 3. Chronicles -/

namespace Chronicle

variable {env : Surroundings σ} {host : σ} {visits : List (Visit σ)} {journal : Journal}
  {w : World σ}

theorem sound (h : Chronicle env host visits journal w) (quiet : env.Unobtrusive) :
    w.store.Sound := by
  have moved {α : Type} {act : Act σ α} {w : World σ} (sound : w.store.Sound)
      (hact : act.Keeps (Moves fun _ => True)) : (act.runOn w).2.store.Sound := by
    obtain ⟨_, _, moves⟩ := hact w
    exact (moves sound.lawful).sound sound
  induction h with
  | start => exact Store.sound_empty
  | aside _ exchange ih => exact (Run.idle (P := fun _ => True) exchange).sound ih
  | put _ name credentials bundle _ ih =>
    exact moved ih (Register.keeps_put name credentials bundle trivial)
  | remove _ name _ ih => exact moved ih (Register.keeps_remove name)
  | lock _ name ih => exact moved ih (Register.keeps_lock name)
  | pass _ name ih => exact moved ih (Pass.keeps_run quiet name)

/-- What is known of an incarnation after a history, if there was no status
check whenever it was visited. -/
theorem standing (h : Chronicle env host visits journal w) (quiet : env.Unobtrusive) {k : Nat}
    (missing : ∀ v ∈ visits, v.Over k → (v.record k).bundle.statusCheck.isGiven = false) :
    Standing env visits k journal w := by
  -- what is written is determined, so it is what the acts are known to write
  have aside {α : Type} {act : Act σ α} {visits : List (Visit σ)} {journal es : Journal}
      {w : World σ} (standing : Standing env visits k journal w) (hact : act.Keeps (Untouched k))
      (added : (act.runOn w).2.journal = w.journal ++ es) :
      Standing env visits k (journal ++ es) (act.runOn w).2 := by
    obtain ⟨es', added', untouched⟩ := hact w
    obtain rfl := List.append_cancel_left (added'.symm.trans added)
    simpa using standing.untouched untouched [] nofun
  induction h with
  | start => exact .unborn (Nat.zero_le k) rfl nofun
  | aside _ exchange ih =>
    simpa using (ih missing).untouched (.of_exchange exchange) [] nofun
  | put _ name credentials bundle added ih =>
    exact aside (ih missing) (Register.untouched_put k name credentials bundle) added
  | remove _ name added ih => exact aside (ih missing) (Register.untouched_remove k name) added
  | lock _ name ih =>
    have quietly : (Register.lock name : Act σ Nat).Keeps (Untouched k) := fun w =>
      gives_modifyGet rfl (.of_agrees rfl (Store.agrees_lock w.store name))
    simpa using aside (ih missing) quietly (List.append_nil _).symm
  | @pass visits journal w h name ih =>
    have before := ih fun v hv => missing v (List.mem_append_left _ hv)
    by_cases here : w.store.find? name = some k
    · exact before.visited quiet (h.sound quiet) here
        (missing ⟨name, w⟩ (List.mem_append_right _ (List.mem_singleton.mpr rfl)) here)
    · have elsewhere : (Pass.run env name).Gives w fun es _ w' => Untouched k es w w' := by
        refine Pass.gives_run_of_body Untouched.lasts (fun _ _ same => .of_agrees rfl same)
          fun j hj => ?_
        have hne : j ≠ k := by
          rintro rfl
          exact here hj
        exact (Pass.sessionBounds_untouched quiet hne).joined.keeps_body
      refine before.untouched (Visit.of_gives (v := ⟨name, w⟩) elsewhere) _ fun v hv => ?_
      rw [List.mem_singleton.mp hv]
      exact here

end Chronicle

/-- How a visit goes that is not one of a deletion: without a status check,
all that counts is whether a creation was completed before. -/
theorem Standing.visit {env : Surroundings σ} {earlier : List (Visit σ)} {k : Nat}
    {past : Journal} {v : Visit σ} (standing : Standing env earlier k past v.before)
    (quiet : env.Unobtrusive) (sound : v.before.store.Sound) (here : v.Over k)
    (live : v.Live env k) (missing : (v.record k).bundle.statusCheck.isGiven = false) :
    ((∃ u ∈ earlier, u.Creates env k) → (v.written env).scripts = [] ∧
      (v.Connects env → ∀ report, v.outcome env = .ok report →
        report.action = .none ∧ report.readiness = .ready ∧ report.failure = none)) ∧
    ((∀ u ∈ earlier, ¬ u.Creates env k) → v.Connects env →
      (v.written env).scripts = if (v.record k).bundle.init.isGiven then [(k, .init)] else []) := by
  obtain ⟨known, named⟩ := sound.known v.name k here
  obtain ⟨-, -, -, -, tried⟩ := Visit.of_gives (Pass.gives_tried quiet sound here missing)
  have flag := standing.created_iff known live.1
  cases tried live.1 with
  | apart silent created =>
    have unconnected : ¬ v.Connects env := by
      rw [Visit.Connects, silent]
      exact List.not_mem_nil
    exact ⟨fun _ => ⟨by rw [Journal.scripts, silent]; rfl, fun connects => absurd connects unconnected⟩,
      fun _ connects => absurd connects unconnected⟩
  | looked outcome closing passed created attempted stays told =>
    refine ⟨fun done => ⟨?_, fun _ => told (flag.mpr done)⟩, fun never _ => ?_⟩
    · rw [Journal.scripts, passed, Pass.creating, flag.mpr done]
      rfl
    · have unset : (v.before.store.record k).observation.created = false :=
        Bool.eq_false_iff.mpr fun set => by
          obtain ⟨u, hu, creates⟩ := flag.mp set
          exact never u hu creates
      rw [Journal.scripts, passed, Pass.creating, unset, Visit.record]
      cases (v.before.store.record k).bundle.init.isGiven <;> rfl
  | cleared asked results closing passed done =>
    rcases done with gone | attempted
    · rw [named, live.2.1] at gone
      cases gone
    · exact absurd (live.2.2.symm.trans attempted) Bool.false_ne_true

namespace Service

/-- A resource without a status check is created once, whatever the host
does, whatever else is requested, and whatever happens to the other
resources.

Every history has a chronicle. Follow the visits to one incarnation that had
no status check whenever it was visited, and leave out those that are about
its deletion. Until a visit completes a creation, every visit that connects
hands over the init script once, if there is one, and no other script.
Afterwards no visit hands over any script, and a report of one that connects
says that nothing was to be done and that the resource is ready. So the init
script succeeds at most once. -/
theorem created_once (env : Surroundings σ) (marks : Pause → World σ → List String) (host : σ) :
    (∀ requests, ∃ visits, Chronicle (env.marking marks) host visits
      (serve (env.marking marks) (start host) requests).journal
      (serve (env.marking marks) (start host) requests)) ∧
    ∀ visits journal w, Chronicle (env.marking marks) host visits journal w → ∀ k,
      (∀ v ∈ visits, v.Over k → (v.record k).bundle.statusCheck.isGiven = false) →
      (∀ earlier v later, visits = earlier ++ v :: later → v.Over k →
        v.Live (env.marking marks) k →
        ((∃ u ∈ earlier, u.Creates (env.marking marks) k) →
          (v.written (env.marking marks)).scripts = [] ∧
          (v.Connects (env.marking marks) → ∀ report, v.outcome (env.marking marks) = .ok report →
            report.action = .none ∧ report.readiness = .ready ∧ report.failure = none)) ∧
        ((∀ u ∈ earlier, ¬ u.Creates (env.marking marks) k) → v.Connects (env.marking marks) →
          (v.written (env.marking marks)).scripts =
            if (v.record k).bundle.init.isGiven then [(k, .init)] else [])) ∧
      journal.creations k ≤ 1 := by
  have quiet := env.unobtrusive_marking marks
  refine ⟨exists_chronicle quiet host, fun visits journal w h k missing =>
    ⟨fun earlier v later split here live => ?_, (h.standing quiet missing).once⟩⟩
  obtain ⟨past, before⟩ := h.before split
  have mem {u : Visit σ} (hu : u ∈ earlier ++ v :: later) : u ∈ visits := split ▸ hu
  have standing := before.standing quiet fun u hu => missing u (mem (List.mem_append_left _ hu))
  exact standing.visit quiet (before.sound quiet) here live
    (missing v (mem (List.mem_append_right _ (List.mem_cons_self ..))) here)

/-- The init script fails and is run again, and when it has succeeded nothing
is run any more. -/
theorem created_once_again :
    let env := Host.obliging.counted.marking fun _ _ => []
    let w := ((Register.put "web" Credentials.sample { init := .text "mkdir /srv" }).runOn
      (start [1, 0, 0])).2
    let first : Visit (List Int) := ⟨"web", w⟩
    let second : Visit (List Int) := ⟨"web", first.after env⟩
    let third : Visit (List Int) := ⟨"web", second.after env⟩
    (∃ journal, Chronicle env [1, 0, 0] [first, second, third] journal (third.after env) ∧
      journal.creations 0 ≤ 1) ∧
    (first.written env).scripts = [(0, .init)] ∧ (second.written env).creations 0 = 1 ∧
    (third.written env).scripts = [] := by
  intro env w first second third
  have begun : Chronicle env [1, 0, 0] [] _ w :=
    Chronicle.start.put "web" Credentials.sample _ (List.nil_append _).symm
  have told := ((begun.pass "web").pass "web").pass "web"
  obtain ⟨-, follows⟩ := created_once Host.obliging.counted (fun _ _ => []) [1, 0, 0]
  have missing : ∀ v ∈ [first, second, third], v.Over 0 →
      (v.record 0).bundle.statusCheck.isGiven = false := by
    intro v hv _
    simp only [List.mem_cons, List.not_mem_nil, or_false] at hv
    rcases hv with rfl | rfl | rfl <;> decide +kernel
  obtain ⟨visit, once⟩ := follows _ _ _ told 0 missing
  have connects₁ : first.Connects env := Journal.connected_mem_of_any (by decide +kernel)
  have connects₂ : second.Connects env := Journal.connected_mem_of_any (by decide +kernel)
  have live₂ : second.Live env 0 := ⟨by decide +kernel, by decide +kernel, by decide +kernel⟩
  have made : (second.written env).creations 0 = 1 := by decide +kernel
  have creates : second.Creates env 0 :=
    ⟨by unfold Visit.Over; decide +kernel, live₂, connects₂, fun _ =>
      Journal.exists_of_creations (by rw [made]; exact Nat.one_pos)⟩
  refine ⟨⟨_, told, once⟩, ?_, made, ?_⟩
  · have given : (first.record 0).bundle.init.isGiven = true := by decide +kernel
    have ran := (visit [] first [second, third] rfl (by unfold Visit.Over; decide +kernel)
      ⟨by decide +kernel, by decide +kernel, by decide +kernel⟩).2
        (fun _ hu => absurd hu List.not_mem_nil) connects₁
    rw [ran, if_pos given]
  · exact ((visit [first, second] third [] rfl (by unfold Visit.Over; decide +kernel)
      ⟨by decide +kernel, by decide +kernel, by decide +kernel⟩).1
        ⟨second, List.mem_cons_of_mem _ (List.mem_cons_self ..), creates⟩).1

end Service

end Upkeep
