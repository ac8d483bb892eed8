/-
Upkeep.Proofs.Published — what is shown of a resource after a pass.

A pass that returns a report leaves the same in the record of the resource:
the last action, the classification, and what failed (`Resource.Tells`). The
message of the observation is the one field that a pass does not write
itself when nothing fails. It is cleared by the result of a script, so it
tells of this pass if any script was handed over, and otherwise it is the
message that an earlier pass has left (`Pass.run_tells`).
-/
import Upkeep.Proofs.Passes

namespace Upkeep

open Upkeep.Act

variable {σ : Type}

/-- What is shown of the resource is what the report says; `quiet` is the
message that is shown if nothing failed. -/
structure Resource.Tells (r : Resource) (report : Report) (quiet : String) : Prop where
  lastAction : r.lastAction = report.action
  readiness : r.observation.readiness = report.readiness
  trouble : match report.failure with
    | some why => r.lastError = some s!"{why.category.word}: {why.message}" ∧
        r.observation.message = why.message
    | none => r.lastError = none ∧ r.observation.message = quiet

/-! ## 1. The message that is left -/

namespace Pass

variable {b : Bundle} {o : Observation} {results : Phase → Except Problem Execution}

/-- The message after some scripts that went well: none of them leaves one. -/
def messageAfter (phases : List Phase) (before : String) : String :=
  if phases = [] then before else ""

theorem messageAfter_append (a c : List Phase) (before : String) :
    messageAfter (a ++ c) before = messageAfter c (messageAfter a before) := by
  cases a with
  | nil => rfl
  | cons p a =>
    unfold messageAfter
    rw [if_neg (List.cons_ne_nil _ _), if_neg (by simp)]
    split <;> rfl

/-- A phase that goes well clears the message if it hands over a script. -/
theorem play_message {α : Type} {p : Phase} {script : Script} {skipped : Lifecycle.Verdict α}
    {judged : Execution → Lifecycle.Verdict α} {a : α}
    (kept : skipped.1.message = o.message)
    (cleared : ∀ e a, (judged e).2 = .ok a → (judged e).1.message = "")
    (well : verdictOf (Lifecycle.play p script skipped judged results).2 = .ok (.ok a)) :
    (seenOf o (Lifecycle.play p script skipped judged results).2).message =
      messageAfter (Lifecycle.play p script skipped judged results).1 o.message := by
  unfold Lifecycle.play at well ⊢
  split at well
  · rename_i given
    rw [if_pos given]
    rcases hr : results p with q | e
    · rw [hr] at well
      rcases q with why | why | f <;> cases well
    · rw [hr] at well
      exact cleared e a (Except.ok.inj well)
  · rename_i missing
    rw [if_neg missing]
    exact kept

/-- A command that exited leaves no message. -/
theorem record_message_of_exited {e : Execution} {status : Int} (he : e.ending = .exited status)
    (readiness : Option Readiness) : (o.record e readiness).message = "" := by
  simp [Observation.record, Execution.failure?, he]

theorem observed_message (e : Execution) (survey : Survey)
    (well : (Lifecycle.observed o e).2 = .ok survey) : (Lifecycle.observed o e).1.message = "" := by
  unfold Lifecycle.observed at well ⊢
  rcases he : e.ending with status | why
  · have silent := record_message_of_exited (o := o) he (some (classify (some status)))
    simp only [Lifecycle.surveyChecked]
    split
    · exact silent
    · split
      · exact silent
      · exact silent
  · rw [he] at well
    cases well

theorem changed_message {p : Phase} (e : Execution) (done : Unit)
    (well : (Lifecycle.changed p o e).2 = .ok done) : (Lifecycle.changed p o e).1.message = "" := by
  rcases he : e.ending with status | why
  · unfold Lifecycle.changed
    split <;> exact record_message_of_exited he _
  · have failed : e.succeeded = false := by
      simp [Execution.succeeded, Execution.status?, he]
    simp [Lifecycle.changed, failed, Execution.check, he] at well

theorem look_message {survey : Survey} (well : verdictOf (look b o results).2 = .ok (.ok survey)) :
    (seenOf o (look b o results).2).message = messageAfter (look b o results).1 o.message :=
  play_message rfl observed_message well

theorem response_message (well : (response b o results).verdict = .ok (.ok ())) :
    (response b o results).seen.message =
      messageAfter (response b o results).phases o.message := by
  unfold response at well ⊢
  cases action : nextAction b o with
  | create =>
    rw [action] at well
    refine play_message (Lifecycle.settled_message _) (fun e a judged => ?_) well
    rw [Lifecycle.settled_snd] at judged
    rw [Lifecycle.settled_message]
    exact changed_message e a judged
  | update =>
    rw [action] at well
    exact play_message rfl changed_message well
  | none => rfl
  | delete => rfl
  | fail => rfl

/-- A pass that goes well clears the message if it hands over a script. -/
theorem upshot_message (well : (upshot b o results).verdict = .ok (.ok ())) :
    (upshot b o results).seen.message =
      messageAfter (upshot b o results).phases o.message := by
  unfold upshot at well ⊢
  dsimp only at well ⊢
  rcases hv : verdictOf (look b o results).2 with p | (why | survey)
  · rw [hv] at well
    cases well
  · rw [hv] at well
    cases well
  · rw [hv] at well
    have looked := look_message hv
    by_cases upToDate : survey.upToDate = true
    · simp only [upToDate, if_true]
      exact looked
    · simp only [upToDate, Bool.false_eq_true, if_false] at well ⊢
      rw [messageAfter_append, ← looked]
      exact response_message well

/-! ## 2. What is found after a pass -/

variable {k : Nat} {ms ms' : List Milestone} {r : Resource} {es es' : Journal} {w w₁ w' : World σ}

/-- Whatever the host does to the end of the connection, the record tells
what the report says. -/
theorem Reported.tells {action : Action} {verdict : Except Problem (Except Failure Unit)}
    {o₁ : Except Problem Report} {report : Report} {quiet : String}
    (h : Reported k ms r action verdict es o₁ w w₁) (closed : Exchange ms' es' w₁ w')
    (returned : o₁ = .ok report) (well : verdict = .ok (.ok ()) → r.observation.message = quiet) :
    (w'.store.record k).Tells report quiet := by
  rcases verdict with p | (why | _)
  · rw [h.1] at returned
    cases returned
  · obtain ⟨ho, since⟩ := h
    rw [ho] at returned
    cases returned
    rw [(since.exchange closed).record]
    exact ⟨rfl, rfl, rfl, rfl⟩
  · obtain ⟨ho, since⟩ := h
    rw [ho] at returned
    cases returned
    rw [(since.exchange closed).record]
    exact ⟨rfl, rfl, rfl, well rfl⟩

/-- A pass that returns a report and leaves the resource leaves the same in
its record. -/
theorem Took.tells {env : Surroundings σ} {C : Phase → Except Problem Execution → Prop}
    {D : Problem → Prop} {o : Except Problem Report} (took : Took env C D k r es o w w')
    {report : Report} (returned : o = .ok report) (still : w'.store.find? r.name = some k) :
    (w'.store.record k).Tells report (if es.scripts = [] then r.observation.message else "") := by
  cases took with
  | completed _ _ _ _ _ _ _ _ gone =>
    rw [gone] at still
    cases still
  | unopened why unready refused reported =>
    exact reported.tells (Exchange.lasts.refl w') returned fun h => by cases h
  | unread p unready foreign refused raised =>
    rw [raised] at returned
    cases returned
  | @synced es₁ es₂ o₁ w₁ results closing live came reported closed journal outcome =>
    rw [outcome] at returned
    refine reported.tells closed.exchange (returned_of_closing returned) fun well => ?_
    have passed : es.scripts = (upshot r.bundle r.observation results).phases.map (k, ·) := by
      refine scripts_of_handed results closing ?_
      rw [journal, Journal.milestones_append, reported.milestones, closed.exchange.milestones]
    rw [passed]
    simp only [List.map_eq_nil_iff]
    exact upshot_message well
  | @cleared es₁ es₂ o₁ w₁ results closing unready asked came reported closed journal outcome =>
    rw [outcome] at returned
    rcases reported.cases with ⟨-, -, -, gone⟩ | ⟨failed, reported⟩
    · rw [closed.exchange.find?] at still
      rw [show w₁.store.find? r.name = none from gone] at still
      cases still
    · exact reported.tells closed.exchange (returned_of_closing returned) fun well =>
        absurd well failed

/-- What is shown of a resource agrees with the last pass over it, whatever
happened before and whatever the host does: if the pass returns a report and
the resource is still there, its record has the action and the
classification that are reported, and what failed, if anything did. If
nothing failed, the message is empty if a script was handed over, and else
it is the one from before the pass. -/
theorem run_tells (env : Surroundings σ) (marks : Pause → World σ → List String) (host : σ)
    (requests : List Request) {name : String} {k : Nat} :
    let w := Service.serve (env.marking marks) (Service.start host) requests
    w.store.find? name = some k →
      (run (env.marking marks) name).Gives w fun es o w' =>
        ∀ report r, o = .ok report → w'.store.get? name = some r →
          r.Tells report
            (if es.scripts = [] then (w.store.record k).observation.message else "") := by
  intro w stored
  have quiet := env.unobtrusive_marking marks
  have sound : w.store.Sound := Service.sound_serve quiet host requests
  obtain ⟨-, named⟩ := sound.known name k stored
  refine (takes_run_any quiet sound stored).mono ?_
  rintro es o w' ⟨w₁, w₂, before, ⟨time, took⟩, after⟩ report r returned left
  rw [Store.get?, after.find?] at left
  obtain ⟨j, found, rfl⟩ := Option.map_eq_some_iff.mp left
  have still : w₂.store.find? name = some k := by
    rcases took.gone_or_since with gone | ⟨_, _, since⟩
    · rw [← named, show w₂.store.find? (w.store.record k).name = none from gone] at found
      cases found
    · rw [since.find?, before.find?, stored]
  obtain rfl : k = j := Option.some.inj (still.symm.trans found)
  rw [after.record]
  exact took.tells returned (by rw [← named] at still; exact still)

/-- A status check that calls for an operator is told by the record. -/
theorem run_tells_fatal :
    let env := Host.obliging.counted.marking fun _ _ => []
    let w := Service.serve env (Service.start [1])
      [.put "web" Credentials.sample { statusCheck := .text "test -d /srv" }]
    w.store.find? "web" = some 0 ∧ (run env "web").Gives w fun es o w' =>
      es.scripts = [(0, .statusCheck)] ∧ ∃ report r, o = .ok report ∧
        report.readiness = .fatal ∧ w'.store.get? "web" = some r ∧ r.Tells report "" := by
  intro env w
  have stored : w.store.find? "web" = some 0 := by decide +kernel
  refine ⟨stored, ?_⟩
  obtain ⟨es, hj, tells⟩ := run_tells Host.obliging.counted (fun _ _ => []) [1] _ stored
  have scripts : es.scripts = [(0, .statusCheck)] := by
    rw [Act.eq_drop_of_added hj]
    decide +kernel
  have fatal : ((run env "web").runOn w).1.toOption.map Report.readiness = some .fatal := by
    decide +kernel
  have found : (((run env "web").runOn w).2.store.get? "web").isSome = true := by decide +kernel
  obtain ⟨r, hr⟩ := Option.isSome_iff_exists.mp found
  refine ⟨es, hj, scripts, ?_⟩
  rcases ho : ((run env "web").runOn w).1 with p | report
  · rw [ho] at fatal
    cases fatal
  · rw [ho] at fatal
    have told := tells report r ho hr
    rw [if_neg (by rw [scripts]; exact List.cons_ne_nil _ _)] at told
    exact ⟨report, r, rfl, Option.some.inj fatal, hr, told⟩

/-- The host refuses three connections, and the message about that stays with
a resource without scripts after a pass that reports no failure. -/
theorem message_stays_without_scripts :
    let env := Host.hesitant.counted
    let w := Service.serve env (Service.start 3)
      [.put "web" Credentials.sample {}, .reconcile "web"]
    let pass := (run env "web").runOn w
    w.store.find? "web" = some 0 ∧
    (∃ report, pass.1 = .ok report ∧ report.failure = none) ∧
    pass.2.store.find? "web" = some 0 ∧ (pass.2.store.record 0).lastError = none ∧
    (pass.2.store.record 0).observation.message ≠ "" := by
  intro env w pass
  refine ⟨by decide +kernel, ?_, by decide +kernel, by decide +kernel, by decide +kernel⟩
  have well : (pass.1.toOption.map fun report => report.failure.isNone) = some true := by
    decide +kernel
  rcases ho : pass.1 with p | report
  · rw [ho] at well
    cases well
  · rw [ho] at well
    exact ⟨report, rfl, Option.isNone_iff_eq_none.mp (Option.some.inj well)⟩

end Pass

end Upkeep
