/-
Upkeep.Proofs.Turns — what the four phases of a resource leave in its
observation, whatever comes of their scripts.

A phase hands over its script first and then decides by the result alone, so
in any surroundings and with any session its outcome is a function of that
result (`outcome_turn`). The functions of `Proofs.Phases` say which one.

* `Lifecycle.observe_agrees` — what a look at a resource tells its caller is
  what the observation says afterwards, but for one case: a resource that had
  been created and is now reported absent stays marked as created.
* `Lifecycle.turns_lawful` — any sequence of turns on one observation. Each
  turn may begin in any state, so whatever happens in between is allowed.
  Which fields a turn may change, and why, is `Lawful`; the output is that of
  the last script that had a result (`output_seenAfter`, by induction on the
  sequence).

A script that raises has no result: its turn raises too and leaves the
observation alone.
-/
import Upkeep.Proofs.Upshot

namespace Upkeep

open Upkeep.Act

variable {σ : Type}

namespace Execution

/-- What an observation keeps of a result. -/
def output (e : Execution) : String × String × Option Int := (e.stdout, e.stderr, e.status?)

theorem succeeded_iff {e : Execution} : e.succeeded = true ↔ e.status? = some 0 := by
  simp [succeeded]

/-- Only a command that exited with zero passes the check. -/
@[simp] theorem isOk_check (e : Execution) (phase : String) (fatal : Bool) :
    (e.check phase fatal).isOk = e.succeeded := by
  unfold check succeeded status?
  cases e.ending with
  | failed why => rfl
  | exited status => by_cases zero : status = 0 <;> simp [zero, Except.isOk, Except.toBool]

end Execution

/-- The status check has found the resource. -/
def Readiness.found : Readiness → Bool
  | .ready | .needsRemediation => true
  | .unknown | .absent | .fatal => false

theorem Readiness.found_iff {r : Readiness} :
    r.found = true ↔ r = .ready ∨ r = .needsRemediation := by
  cases r <;> simp [found]

/-- A status check that exited says something about the resource. -/
theorem classify_ne_unknown (status : Int) : classify (some status) ≠ .unknown := by
  simp only [classify]
  split
  · simp
  · split
    · simp
    · split <;> simp

namespace Observation

/-- What is known of the last script. -/
def output (o : Observation) : String × String × Option Int := (o.stdout, o.stderr, o.exitCode)

/-! What is recorded of a result. -/

@[simp] theorem created_record (o : Observation) (e : Execution) (r : Option Readiness) :
    (o.record e r).created = o.created := rfl

@[simp] theorem readiness_record (o : Observation) (e : Execution) (r : Option Readiness) :
    (o.record e r).readiness = r.getD o.readiness := rfl

end Observation

namespace Lifecycle

/-! ## 1. Outcomes by results -/

section Outcomes

variable (env : Surroundings σ) (place : Workplace σ) (b : Bundle) (o : Observation)
  (w : World σ)

/-- After an act, a last one that always returns. -/
theorem outcome_bind {α β : Type} (act : Act σ α) {last : α → Act σ β} (judged : α → β)
    (returns : ∀ a w, ((last a).runOn w).1 = .ok (judged a)) (w : World σ) :
    ((act >>= last).runOn w).1 = (act.runOn w).1.map judged := by
  rw [runOn_bind]
  rcases act.runOn w with ⟨p | a, w'⟩
  · rfl
  · exact returns a w'

theorem outcome_observe :
    ((observe env place b o).runOn w).1 =
      if b.statusCheck.isGiven then
        ((runScript env place b .statusCheck).runOn w).1.map (observed o)
      else .ok ((surveyUnchecked o).1, .ok (surveyUnchecked o).2) := by
  unfold observe
  cases b.statusCheck.isGiven with
  | false => rfl
  | true =>
    apply outcome_bind
    intro e w
    unfold observed
    cases e.ending with
    | failed why => rfl
    | exited status => rfl

theorem outcome_change (p : Phase) :
    ((change env place p b o).runOn w).1 =
      if (b.script p).isGiven then
        ((runScript env place b p).runOn w).1.map (changed p o)
      else .ok (o, .ok ()) := by
  unfold change
  cases (b.script p).isGiven with
  | false => rfl
  | true =>
    apply outcome_bind
    intro e w
    unfold changed
    cases e.succeeded with
    | false => rfl
    | true => rfl

theorem outcome_create :
    ((create env place b o).runOn w).1 =
      if b.init.isGiven then
        ((runScript env place b .init).runOn w).1.map fun e => settled (changed .init o e)
      else .ok (settled (o, .ok ())) := by
  unfold create
  apply (outcome_bind (change env place .init b o) settled ?_ w).trans
  · rw [outcome_change, show b.script .init = b.init from rfl]
    split
    · cases ((runScript env place b .init).runOn w).1 with
      | error p => rfl
      | ok e => rfl
    · rfl
  · intro v w
    rcases v with ⟨seen, why | _⟩
    · rfl
    · rfl

theorem outcome_delete :
    ((delete env place b o).runOn w).1 =
      if b.cleanup.isGiven then
        ((runScript env place b .cleanup).runOn w).1.map (cleared o)
      else .ok (o, .ok ()) := by
  unfold delete
  cases b.cleanup.isGiven with
  | false => rfl
  | true =>
    apply outcome_bind
    intro e w
    unfold cleared
    cases e.succeeded with
    | false => cases e.check Phase.cleanup.word false <;> rfl
    | true => cases e.check Phase.cleanup.word false <;> rfl

end Outcomes

/-! ## 2. What a look tells -/

/-- A look that returns: the observation has the readiness that is told,
what is up to date exists, and whether the resource is marked as created
agrees with whether it is said to exist; except that no report of its
absence takes back that it had been created. -/
theorem observe_agrees {env : Surroundings σ} {place : Workplace σ} {b : Bundle}
    {o seen : Observation} {w : World σ} {survey : Survey}
    (returned : ((observe env place b o).runOn w).1 = .ok (seen, .ok survey)) :
    seen.readiness = survey.readiness ∧ (survey.upToDate = true → survey.present = true) ∧
      (seen.created = survey.present ↔ ¬ (o.created = true ∧ survey.readiness = .absent)) := by
  rw [outcome_observe] at returned
  split at returned
  · cases result : ((runScript env place b .statusCheck).runOn w).1 with
    | error p =>
      rw [result] at returned
      cases returned
    | ok e =>
      rw [result] at returned
      have told : observed o e = (seen, .ok survey) := Except.ok.inj returned
      unfold observed at told
      cases ending : e.ending with
      | failed why =>
        rw [ending] at told
        cases told
      | exited status =>
        rw [ending] at told
        simp only [surveyChecked] at told
        split at told
        · cases told
        · split at told
          · cases told
            simp_all
          · cases told
            simp_all
  · cases returned
    cases created : o.created with
    | false => simp [surveyUnchecked, created]
    | true => simp [surveyUnchecked, created]

/-- What a look that returned has seen, and what it tells. -/
def told? : Except Problem (Verdict Survey) → Option (Observation × Survey)
  | .ok (seen, .ok survey) => some (seen, survey)
  | _ => none

theorem told?_eq_some_iff {out : Except Problem (Verdict Survey)} {seen : Observation}
    {survey : Survey} : told? out = some (seen, survey) ↔ out = .ok (seen, .ok survey) := by
  rcases out with p | ⟨o, why | s⟩ <;> simp [told?]

/-- A place on a host that accepts everything. -/
def anyplace : Workplace (List Int) := { session := Session.over Host.obliging.counted }

/-- The scripts of a resource, by their names. -/
def bodies : Bundle :=
  { init := .text "init", statusCheck := .text "check", update := .text "update"
    cleanup := .text "cleanup" }

/-- A look at a resource that has just been found to be as it should be. -/
theorem observe_agrees_ready :
    ∃ seen survey, ((observe Host.obliging.counted anyplace bodies {}).runOn { host := [0] }).1 =
        .ok (seen, .ok survey) ∧
      survey.upToDate = true ∧ survey.present = true ∧ seen.readiness = .ready ∧
      seen.created = true := by
  have told : told? ((observe Host.obliging.counted anyplace bodies {}).runOn { host := [0] }).1 =
      some ({ exitCode := some 0, readiness := .ready, created := true },
        ⟨true, true, .ready, some 0⟩) := by
    decide +kernel
  have returned := told?_eq_some_iff.mp told
  obtain ⟨readiness, present, agrees⟩ := observe_agrees returned
  exact ⟨_, _, returned, rfl, present rfl, readiness, agrees.mpr (by simp)⟩

/-- Two looks at one resource: it is as it should be, and then it is absent,
but stays marked as created. -/
theorem created_outlasts_absence :
    let first := (observe Host.obliging.counted anyplace bodies {}).runOn { host := [0, 0, 100] }
    ∃ seen survey, first.1 = .ok (seen, .ok survey) ∧ seen.created = true ∧
      ∃ later report,
        ((observe Host.obliging.counted anyplace bodies seen).runOn first.2).1 =
          .ok (later, .ok report) ∧
        report.readiness = .absent ∧ report.present = false ∧ later.created = true := by
  intro first
  have told : told? first.1 = some ({ exitCode := some 0, readiness := .ready, created := true },
      ⟨true, true, .ready, some 0⟩) := by
    decide +kernel
  refine ⟨_, _, told?_eq_some_iff.mp told, rfl, ?_⟩
  have again : told? ((observe Host.obliging.counted anyplace bodies
      { exitCode := some 0, readiness := .ready, created := true }).runOn first.2).1 =
      some ({ exitCode := some 100, readiness := .absent, created := true },
        ⟨false, false, .absent, some 100⟩) := by
    decide +kernel
  exact ⟨_, _, told?_eq_some_iff.mp again, rfl, rfl, rfl⟩

/-! ## 3. One turn -/

/-- One of the four phases, by its script. What a look tells its caller is
left out. -/
def turn (env : Surroundings σ) (place : Workplace σ) (b : Bundle) (o : Observation) :
    Phase → Act σ (Verdict Unit)
  | .statusCheck => do
    let (seen, verdict) ← observe env place b o
    return (seen, verdict.map fun _ => ())
  | .init => create env place b o
  | .update => update env place b o
  | .cleanup => delete env place b o

/-- What a turn comes to without a script. -/
def skipped (o : Observation) : Phase → Verdict Unit
  | .statusCheck => ((surveyUnchecked o).1, .ok ())
  | .init => settled (o, .ok ())
  | .update | .cleanup => (o, .ok ())

/-- What a turn comes to by the result of its script. -/
def judged (o : Observation) (e : Execution) : Phase → Verdict Unit
  | .statusCheck => ((observed o e).1, (observed o e).2.map fun _ => ())
  | .init => settled (changed .init o e)
  | .update => changed .update o e
  | .cleanup => cleared o e

theorem outcome_turn (env : Surroundings σ) (place : Workplace σ) (b : Bundle) (o : Observation)
    (p : Phase) (w : World σ) :
    ((turn env place b o p).runOn w).1 =
      if (b.script p).isGiven then
        ((runScript env place b p).runOn w).1.map fun e => judged o e p
      else .ok (skipped o p) := by
  cases p with
  | statusCheck =>
    unfold turn
    apply (outcome_bind (observe env place b o) (fun v => (v.1, v.2.map fun _ => ())) ?_ w).trans
    · rw [outcome_observe, show b.script .statusCheck = b.statusCheck from rfl]
      split
      · cases ((runScript env place b .statusCheck).runOn w).1 with
        | error p => rfl
        | ok e => rfl
      · rfl
    · intro v w
      rfl
  | init => exact outcome_create env place b o w
  | update => exact outcome_change env place b o w .update
  | cleanup => exact outcome_delete env place b o w

/-! What a turn leaves behind, by the result of its script. -/

theorem observed_fst (o : Observation) (e : Execution) :
    (observed o e).1 =
      { o.record e (some (classify e.status?)) with
        created := o.created || (classify e.status?).found } := by
  obtain ⟨stdout, stderr, status | why⟩ := e
  · simp only [observed, surveyChecked, Execution.status?]
    cases seen : classify (some status) with
    | unknown => exact absurd seen (classify_ne_unknown status)
    | absent => simp [Readiness.found]; rfl
    | ready => simp [Readiness.found]
    | needsRemediation => simp [Readiness.found]
    | fatal => simp [Readiness.found]; rfl
  · simp [observed, Execution.status?, classify, Readiness.found]
    rfl

/-- A look that finds the resource returns. -/
theorem isOk_observed (o : Observation) (e : Execution)
    (found : (classify e.status?).found = true) : (observed o e).2.isOk = true := by
  obtain ⟨stdout, stderr, status | why⟩ := e
  · simp only [observed, surveyChecked, Execution.status?] at found ⊢
    cases seen : classify (some status) with
    | ready => rfl
    | needsRemediation => rfl
    | unknown => simp [seen, Readiness.found] at found
    | absent => simp [seen, Readiness.found] at found
    | fatal => simp [seen, Readiness.found] at found
  · simp [Execution.status?, classify, Readiness.found] at found

theorem changed_fst (p : Phase) (o : Observation) (e : Execution) :
    (changed p o e).1 = o.record e (if e.succeeded then none else some .fatal) := by
  unfold changed
  cases e.succeeded <;> rfl

@[simp] theorem isOk_changed (p : Phase) (o : Observation) (e : Execution) :
    (changed p o e).2.isOk = e.succeeded := by
  unfold changed
  cases well : e.succeeded with
  | true => rfl
  | false => simp [well]

theorem settled_fst (v : Verdict Unit) :
    (settled v).1 = { v.1 with created := v.1.created || v.2.isOk } := by
  rcases v with ⟨seen, why | _⟩
  · simp [settled, Except.isOk, Except.toBool]
  · simp [settled, Except.isOk, Except.toBool]

theorem cleared_fst (o : Observation) (e : Execution) :
    (cleared o e).1 = { o.record e with created := o.created && !e.succeeded } := by
  rw [← e.isOk_check Phase.cleanup.word false]
  unfold cleared
  cases e.check Phase.cleanup.word false with
  | ok => simp [Except.isOk, Except.toBool]
  | error why =>
    simp [Except.isOk, Except.toBool]
    rfl

@[simp] theorem isOk_cleared (o : Observation) (e : Execution) :
    (cleared o e).2.isOk = e.succeeded := by
  rw [← e.isOk_check Phase.cleanup.word false]
  unfold cleared
  cases e.check Phase.cleanup.word false <;> rfl

/-- What one turn may do to an observation: by its phase, whether there is a
script, the result that the script had, and whether the turn returns. -/
structure Lawful (p : Phase) (given : Bool) (executed? : Option Execution) (returns : Bool)
    (o o' : Observation) : Prop where
  output : o'.output = (executed?.map Execution.output).getD o.output
  /-- A script that raised leaves nothing behind. -/
  raised : given = true → executed? = none → o' = o
  /-- A look classifies the resource by its script. -/
  looked : ∀ e, p = .statusCheck → executed? = some e → o'.readiness = classify e.status?
  /-- Without a script it is classified by what is known. -/
  assumed : p = .statusCheck → given = false →
    o'.readiness = if o.created then .ready else .absent
  /-- A change that did not go well. -/
  failed : ∀ e, p = .init ∨ p = .update → executed? = some e → e.succeeded = false →
    o'.readiness = .fatal
  /-- Nothing else changes the readiness. -/
  steady : o'.readiness ≠ o.readiness → p = .statusCheck ∨
    (p = .init ∨ p = .update) ∧ ∃ e, executed? = some e ∧ e.succeeded = false
  /-- How a resource comes to be marked as created. -/
  became : o.created = false → o'.created = true →
    (p = .statusCheck ∧ ∃ e, executed? = some e ∧
      (classify e.status? = .ready ∨ classify e.status? = .needsRemediation)) ∨
    (p = .init ∧ returns = true)
  created : p = .init → returns = true → o'.created = true
  cleared : ∀ e, p = .cleanup → executed? = some e → e.status? = some 0 → o'.created = false
  kept : p = .update ∨ (p = .cleanup ∧ given = false) ∨ returns = false → o'.created = o.created

theorem output_judged (o : Observation) (e : Execution) (p : Phase) :
    (judged o e p).1.output = e.output := by
  cases p with
  | statusCheck => simp only [judged, observed_fst]; rfl
  | init => simp only [judged, settled_fst, changed_fst]; rfl
  | update => simp only [judged, changed_fst]; rfl
  | cleanup => simp only [judged, cleared_fst]; rfl

theorem readiness_judged (o : Observation) (e : Execution) (p : Phase) :
    (judged o e p).1.readiness = match p with
      | .statusCheck => classify e.status?
      | .init | .update => if e.succeeded then o.readiness else .fatal
      | .cleanup => o.readiness := by
  cases p with
  | statusCheck => simp [judged, observed_fst]
  | cleanup => simp [judged, cleared_fst]
  | init => cases well : e.succeeded <;> simp [judged, changed_fst, well]
  | update => cases well : e.succeeded <;> simp [judged, changed_fst, well]

theorem created_judged (o : Observation) (e : Execution) (p : Phase) :
    (judged o e p).1.created = match p with
      | .statusCheck => o.created || (classify e.status?).found
      | .init => o.created || e.succeeded
      | .update => o.created
      | .cleanup => o.created && !e.succeeded := by
  cases p <;> simp [judged, observed_fst, settled_fst, changed_fst, cleared_fst]

/-- A turn that changes the resource returns if its script went well. -/
theorem isOk_judged (o : Observation) (e : Execution) {p : Phase} (changes : p ≠ .statusCheck) :
    (judged o e p).2.isOk = e.succeeded := by
  cases p with
  | statusCheck => exact absurd rfl changes
  | init => simp [judged]
  | update => simp [judged]
  | cleanup => simp [judged]

/-- A look that finds the resource returns. -/
theorem isOk_judged_look (o : Observation) (e : Execution)
    (found : (classify e.status?).found = true) : (judged o e .statusCheck).2.isOk = true := by
  have ok := isOk_observed o e found
  simp only [judged]
  cases told : (observed o e).2 with
  | ok survey => rfl
  | error why => simp [told, Except.isOk, Except.toBool] at ok

theorem lawful_judged (o : Observation) (e : Execution) (p : Phase) :
    Lawful p true (some e) (judged o e p).2.isOk o (judged o e p).1 where
  output := output_judged o e p
  raised _ absent := by cases absent
  looked e' look same := by
    cases same
    rw [readiness_judged, look]
  assumed _ missing := by cases missing
  failed e' change same ill := by
    cases same
    rw [readiness_judged]
    rcases change with rfl | rfl <;> simp [ill]
  steady differs := by
    rw [readiness_judged] at differs
    cases p <;> simp_all
  became before after := by
    cases p with
    | statusCheck =>
      simp only [created_judged, before, Bool.false_or] at after
      exact .inl ⟨rfl, e, rfl, Readiness.found_iff.mp after⟩
    | init =>
      simp only [created_judged, before, Bool.false_or] at after
      exact .inr ⟨rfl, by rw [isOk_judged o e (by decide), after]⟩
    | update => simp [created_judged, before] at after
    | cleanup => simp [created_judged, before] at after
  created creates returns := by
    subst creates
    rw [isOk_judged o e (by decide)] at returns
    simp [created_judged, returns]
  cleared e' clears same zero := by
    cases same
    rw [created_judged, clears]
    simp [Execution.succeeded_iff.mpr zero]
  kept why := by
    rw [created_judged]
    cases p with
    | statusCheck =>
      obtain ⟨⟨⟩⟩ | ⟨⟨⟩, -⟩ | raises := why
      cases found : (classify e.status?).found with
      | false => simp
      | true => simp [isOk_judged_look o e found] at raises
    | init =>
      obtain ⟨⟨⟩⟩ | ⟨⟨⟩, -⟩ | raises := why
      rw [isOk_judged o e (by decide)] at raises
      simp [raises]
    | update => rfl
    | cleanup =>
      obtain ⟨⟨⟩⟩ | ⟨-, ⟨⟩⟩ | raises := why
      rw [isOk_judged o e (by decide)] at raises
      simp [raises]

theorem lawful_raised (o : Observation) (p : Phase) : Lawful p true none false o o where
  output := rfl
  raised _ _ := rfl
  looked _ _ absent := by cases absent
  assumed _ missing := by cases missing
  failed _ _ absent := by cases absent
  steady differs := absurd rfl differs
  became before after := by simp [before] at after
  created _ returns := by cases returns
  cleared _ _ absent := by cases absent
  kept _ := rfl

theorem lawful_skipped (o : Observation) (p : Phase) :
    Lawful p false none true o (skipped o p).1 where
  output := by cases p <;> rfl
  raised given := by cases given
  looked _ _ absent := by cases absent
  assumed look _ := by
    subst look
    rfl
  failed _ _ absent := by cases absent
  steady differs := by
    cases p with
    | statusCheck => exact .inl rfl
    | init => exact absurd rfl differs
    | update => exact absurd rfl differs
    | cleanup => exact absurd rfl differs
  became before after := by
    cases p with
    | init => exact .inr ⟨rfl, rfl⟩
    | statusCheck => simp [skipped, surveyUnchecked, before] at after
    | update => simp [skipped, before] at after
    | cleanup => simp [skipped, before] at after
  created creates _ := by
    subst creates
    rfl
  cleared _ _ absent := by cases absent
  kept why := by
    cases p with
    | init => simp at why
    | statusCheck => rfl
    | update => rfl
    | cleanup => rfl

/-! ## 4. Sequences of turns -/

/-- A phase that is played in some state. -/
structure Turn (σ : Type) where
  phase : Phase
  bundle : Bundle
  start : World σ

namespace Turn

variable (env : Surroundings σ) (place : Workplace σ) (t : Turn σ)

/-- The script that the turn is about. -/
def script : Script := t.bundle.script t.phase

/-- The result of the script, if there is one that did not raise. -/
def executed? : Option Execution :=
  if t.script.isGiven then ((runScript env place t.bundle t.phase).runOn t.start).1.toOption
  else none

/-- How the turn ends. -/
def ended (o : Observation) : Except Problem (Verdict Unit) :=
  ((turn env place t.bundle o t.phase).runOn t.start).1

/-- Whether the turn returns normally. -/
def returns (o : Observation) : Bool :=
  match t.ended env place o with
  | .ok (_, verdict) => verdict.isOk
  | .error _ => false

/-- The observation after the turn. -/
def seen (o : Observation) : Observation := Pass.seenOf o (t.ended env place o)

/-- One step: whatever is known before a turn, the turn is lawful. -/
theorem lawful (o : Observation) :
    Lawful t.phase t.script.isGiven (t.executed? env place) (t.returns env place o) o
      (t.seen env place o) := by
  unfold executed? returns seen ended script
  rw [outcome_turn]
  cases (t.bundle.script t.phase).isGiven with
  | false =>
    have returns : (skipped o t.phase).2.isOk = true := by cases t.phase <;> rfl
    simpa [Pass.seenOf, returns] using lawful_skipped o t.phase
  | true =>
    cases ((runScript env place t.bundle t.phase).runOn t.start).1 with
    | ok e => exact lawful_judged o e t.phase
    | error p => exact lawful_raised o t.phase

end Turn

/-- The observation after a sequence of turns. -/
def seenAfter (env : Surroundings σ) (place : Workplace σ) (first : Observation)
    (turns : List (Turn σ)) : Observation :=
  turns.foldl (fun o t => t.seen env place o) first

/-- The results of the scripts of a sequence of turns, as far as they had any. -/
def executions (env : Surroundings σ) (place : Workplace σ) (turns : List (Turn σ)) :
    List Execution :=
  turns.filterMap (·.executed? env place)

/-- What each turn either writes or leaves alone is in the end what was
written last. -/
theorem last_written {env : Surroundings σ} {place : Workplace σ} {α : Type}
    {field : Observation → α} {write : Turn σ → Option α}
    (step : ∀ o t, field (t.seen env place o) = (write t).getD (field o)) (first : Observation)
    (turns : List (Turn σ)) :
    field (seenAfter env place first turns) =
      ((turns.filterMap write).getLast?).getD (field first) := by
  induction turns generalizing first with
  | nil => rfl
  | cons t rest ih =>
    show field (seenAfter env place (t.seen env place first) rest) = _
    rw [ih, step]
    cases written : write t with
    | none =>
      rw [List.filterMap_cons_none written]
      rfl
    | some a =>
      rw [List.filterMap_cons_some written, List.getLast?_cons]
      rfl

/-- The output is that of the last script that had a result. -/
theorem output_seenAfter (env : Surroundings σ) (place : Workplace σ) (first : Observation)
    (turns : List (Turn σ)) :
    (seenAfter env place first turns).output =
      ((executions env place turns).getLast?.map Execution.output).getD first.output := by
  have step (o : Observation) (t : Turn σ) := (t.lawful env place o).output
  rw [last_written step, executions, ← List.getLast?_map, List.map_filterMap]

/-- After each turn of any sequence of them, with any bundles and whatever
comes of their scripts. -/
theorem turns_lawful (env : Surroundings σ) (place : Workplace σ) (first : Observation)
    (earlier : List (Turn σ)) (t : Turn σ) :
    let before := seenAfter env place first earlier
    let after := seenAfter env place first (earlier ++ [t])
    Lawful t.phase t.script.isGiven (t.executed? env place) (t.returns env place before)
      before after ∧
    after.output =
      ((executions env place (earlier ++ [t])).getLast?.map Execution.output).getD
        first.output := by
  intro before after
  have step : after = t.seen env place before := by
    simp [after, before, seenAfter]
  constructor
  · rw [step]
    exact t.lawful env place before
  · exact output_seenAfter env place first (earlier ++ [t])

/-- A resource is created, found to need an update, and cannot be updated. -/
def attempts : List (Turn (List Int)) :=
  [⟨.init, bodies, { host := [0] }⟩, ⟨.statusCheck, bodies, { host := [3] }⟩,
    ⟨.update, bodies, { host := [5] }⟩]

/-- A cleanup script that exits with zero. -/
def clearing : Turn (List Int) := ⟨.cleanup, bodies, { host := [0] }⟩

/-- The cleanup takes back that the resource had been created, and leaves it
to the next look to say that nothing is wrong any more. -/
theorem turns_lawful_cleared :
    let env := Host.obliging.counted
    let after := seenAfter env anyplace {} (attempts ++ [clearing])
    (seenAfter env anyplace {} attempts).readiness = .fatal ∧
      (seenAfter env anyplace {} attempts).created = true ∧
      after.readiness = .fatal ∧ after.created = false ∧ after.output = ("", "", some 0) := by
  intro env after
  have fatal : (seenAfter env anyplace {} attempts).readiness = .fatal := by decide +kernel
  have made : (seenAfter env anyplace {} attempts).created = true := by decide +kernel
  have exited : (clearing.executed? env anyplace).map Execution.output = some ("", "", some 0) := by
    decide +kernel
  obtain ⟨law, output⟩ := turns_lawful env anyplace {} attempts clearing
  obtain ⟨e, he, zero⟩ := Option.map_eq_some_iff.mp exited
  have status : e.status? = some 0 := congrArg (·.2.2) zero
  refine ⟨fatal, made, ?_, law.cleared e rfl he status, ?_⟩
  · rw [← fatal]
    apply Decidable.byContradiction
    intro changed
    obtain ⟨⟨⟩⟩ | ⟨⟨⟨⟩⟩ | ⟨⟨⟩⟩, -⟩ := law.steady changed
  · rw [output, executions, List.filterMap_append, List.filterMap_cons_some he]
    simp [zero]

end Lifecycle

end Upkeep
