/-
Upkeep.Proofs.Deletion — how passes over a resource end that is being
deleted.

Such a pass ends in one of three ways: the name is gone (`Gone`), the host
could not be reached and nothing has changed (`Unreached`), or the deletion
is stuck until the next pass (`Stuck`), because the cleanup script failed or
something is wrong with the credentials. After that the next pass completes
the deletion without asking a host, whatever was requested in between
(`Pass.deletion_in_two_passes`).

A cleanup script that has no octets, such as half of a surrogate pair, makes a
fourth way that is not meant to be: it is put on the host, what is wrong with
it is raised, and nothing is recorded (`Stranded`,
`Pass.deletion_stranded_of_half`). The next pass completes that deletion too.
-/
import Upkeep.Proofs.Passes

namespace Upkeep

open Upkeep.Act

variable {σ : Type}

namespace Pass

/-! ## 1. What comes of the cleanup script -/

section Clearing

variable {b : Bundle} {o : Observation} {results : Phase → Except Problem Execution}

/-- What keeps a cleanup script from running is what its phase ends with. -/
theorem cleared_of_failed {e : Execution} {why : Failure} (failed : e.ending = .failed why) :
    Lifecycle.cleared o e = (o.record e, .error why) := by
  simp only [Lifecycle.cleared, Execution.check, failed]

/-- A cleanup script that has a result goes well, or fails in a way that may
clear by itself and leaves the classification as it is. -/
theorem cleared_cases {e : Execution} (passing : ∀ why, e.ending = .failed why → why.Passing) :
    (Lifecycle.cleared o e).2 = .ok () ∨
    ∃ why, Lifecycle.cleared o e = (o.record e, .error why) ∧ why.Passing := by
  unfold Lifecycle.cleared Execution.check
  rcases he : e.ending with status | why
  · by_cases zero : status = 0
    · exact Or.inl (by simp only [zero, if_true])
    · refine Or.inr ⟨.exited ⟨status, e.stdout, e.stderr, Phase.cleanup.word, false⟩, ?_,
        Failure.passing_of_exited rfl⟩
      simp only [zero, if_false]
  · exact Or.inr ⟨why, rfl, passing why he⟩

/-- The ways in which clearing a resource away can end on an orderly host. A
script that no host could take does not end well: it fails to be put on the
host, or what is wrong with it is raised. -/
theorem clearing_cases (given : b.cleanup.isGiven = true)
    (came : ∀ p ∈ (clearing b o results).1, Comes b p (results p)) :
    (clearing b o results).1 = [.cleanup] ∧
    ((verdictOf (clearing b o results).2 = .ok (.ok ()) ∧
      Staging.refusal? b.cleanup b.vars = none) ∨
    (∃ why, verdictOf (clearing b o results).2 = .ok (.error why) ∧ why.Passing ∧
      (seenOf o (clearing b o results).2).readiness = o.readiness ∧
      ((Staging.refusal? b.cleanup b.vars).isSome = true → why.isTransfer = true)) ∨
    ∃ f, verdictOf (clearing b o results).2 = .error (.fault f) ∧
      Staging.refusal? b.cleanup b.vars = some f) := by
  have played : clearing b o results =
      ([.cleanup], (results .cleanup).map (Lifecycle.cleared o)) := if_pos given
  rw [played] at came ⊢
  refine ⟨rfl, ?_⟩
  have hc := came .cleanup (List.mem_singleton_self _)
  rcases hr : results .cleanup with p | e
  · rw [hr] at hc
    obtain ⟨f, rfl, refused⟩ := hc
    exact Or.inr (Or.inr ⟨f, rfl, refused⟩)
  · rw [hr] at hc
    have unsent {why : Failure} (failed : (Lifecycle.cleared o e).2 = .error why)
        (refused : (Staging.refusal? b.cleanup b.vars).isSome = true) : why.isTransfer = true := by
      obtain ⟨trouble, ended, transfer⟩ := hc.unsent refused
      rw [cleared_of_failed ended] at failed
      cases failed
      exact transfer
    rcases cleared_cases (o := o) hc.passing with well | ⟨why, failed, passing⟩
    · refine Or.inl ⟨congrArg Except.ok well, Option.not_isSome_iff_eq_none.mp fun refused => ?_⟩
      obtain ⟨trouble, ended, -⟩ := hc.unsent refused
      rw [cleared_of_failed ended] at well
      cases well
    · refine Or.inr (Or.inl ⟨why, ?_, passing, ?_, unsent (congrArg Prod.snd failed)⟩)
      · exact congrArg (fun v : Lifecycle.Verdict Unit => Except.ok v.2) failed
      · exact congrArg (fun v : Lifecycle.Verdict Unit => v.1.readiness) failed

end Clearing

/-! ## 2. Three ways to end -/

/-- The name is gone, and no further pass is due. -/
structure Gone (name : String) (o : Except Problem Report) (w' : World σ) : Prop where
  gone : w'.store.find? name = none
  report : ∃ report, o = .ok report ∧ report.deleted = true ∧ report.requeue = false

/-- The host could not be reached: no script was handed over, the resource is
as far as it was, and another pass is due. -/
structure Unreached (name : String) (k : Nat) (es : Journal) (o : Except Problem Report)
    (w w' : World σ) : Prop where
  stored : w'.store.find? name = some k
  attempted : (w'.store.record k).cleanupAttempted = (w.store.record k).cleanupAttempted
  readiness : (w'.store.record k).observation.readiness = (w.store.record k).observation.readiness
  milestones : es.milestones = []
  report : ∃ report why, o = .ok report ∧ report.failure = some why ∧ why.isConnection = true ∧
    report.requeue = true

/-- The deletion is stuck until the next pass: the cleanup script failed, in
a way that may clear by itself; or no session could be opened with the
credentials as they are. -/
structure Stuck (name : String) (k : Nat) (es : Journal) (o : Except Problem Report)
    (w w' : World σ) : Prop where
  stored : w'.store.find? name = some k
  attempted : (w'.store.record k).cleanupAttempted = true
  lastError : (w'.store.record k).lastError.isSome = true
  report : ∃ report why, o = .ok report ∧ report.failure = some why ∧ report.requeue = true ∧
    ((es.scripts = [(k, .cleanup)] ∧ why.isTransient = true ∧
        (w'.store.record k).observation.readiness = (w.store.record k).observation.readiness) ∨
      (es.milestones = [] ∧ why.isMisconfiguration = true))

/-- The cleanup script is one that no host could take, and what is wrong with
it was raised: the resource is still there, nothing is recorded with it but
that cleanup was tried, and there is no report. -/
structure Stranded (name : String) (k : Nat) (es : Journal) (o : Except Problem Report)
    (w w' : World σ) : Prop where
  stored : w'.store.find? name = some k
  attempted : (w'.store.record k).cleanupAttempted = true
  lastError : (w'.store.record k).lastError = (w.store.record k).lastError
  scripts : es.scripts = [(k, .cleanup)]
  raised : ∃ f, Staging.refusal? (w.store.record k).bundle.cleanup (w.store.record k).bundle.vars =
    some f ∧ o = .error (.fault f)

variable {env : Surroundings σ} {k : Nat} {r : Resource} {es : Journal}
  {o : Except Problem Report} {w w' : World σ}

/-- A report of something that is gone asks for no further pass. -/
theorem requeue_of_deleted {report : Report} (deleted : report.deleted = true) :
    report.requeue = false := by
  unfold Report.requeue
  rw [deleted]
  rfl

/-- A report of something that is still being deleted asks for another
pass. -/
theorem requeue_of_deleting {report : Report} (left : report.deleted = false)
    (deleting : report.deleting = true) : report.requeue = true := by
  unfold Report.requeue
  rw [left, deleting]
  rfl

/-- A failure of the connection leaves the classification of a resource that
is being deleted as it is, and so does any that passes. -/
theorem readinessAfter_of_passing {action : Action} {why : Failure} {r : Resource}
    (passing : why.Passing) (deleting : r.deleting = true) :
    readinessAfter action why r = r.observation.readiness := by
  simp [readinessAfter, passing.notMisconfiguration, passing.notFatalExit, deleting]

/-- A pass over a resource that is being deleted ends in one of the three
ways, or with a script that no host could take. -/
theorem Went.deletion {time : Option String}
    (went : Went env k { w.store.record k with lastReconciled := time } es o w w')
    (closes : ∀ s, (env.host.disconnect s).1 = .ok ())
    (decided : Credentials.Decided env.depths (w.store.record k).credentials)
    (stored : w.store.find? (w.store.record k).name = some k)
    (deleting : (w.store.record k).deleting = true) :
    let name := (w.store.record k).name
    Gone name o w' ∨ Unreached name k es o w w' ∨ Stuck name k es o w w' ∨
      Stranded name k es o w w' := by
  cases went with
  | completed report _ _ returned deleted _ _ _ gone =>
    exact Or.inl ⟨gone, report, returned, deleted, requeue_of_deleted deleted⟩
  | unopened why unready refused reported =>
    obtain ⟨ho, since⟩ := reported
    have still := since.stays deleting
    rw [still] at ho since
    obtain ⟨found, tried, told, left⟩ := failed_found since stored
    cases misconfigured : why.isMisconfiguration with
    | true =>
      rw [misconfigured] at tried
      refine Or.inr (Or.inr (Or.inl ⟨found, tried, ?_, _, why, ho, rfl, ?_, ?_⟩))
      · rw [told]
        rfl
      · exact requeue_of_deleting rfl rfl
      · exact Or.inr ⟨since.milestones, misconfigured⟩
    | false =>
      have connection : why.isConnection = true :=
        (refused decided).resolve_left (by simp [misconfigured])
      have category : why.category = .connection := eq_of_beq connection
      have passing : why.Passing := Failure.passing_of_category (by simp [category])
      rw [misconfigured] at ho tried left
      refine Or.inr (Or.inl ⟨found, tried, ?_, since.milestones, _, why, ho, rfl, connection, ?_⟩)
      · rw [left]
        exact readinessAfter_of_passing passing rfl
      · exact requeue_of_deleting rfl rfl
  | unread p unready undecided => exact absurd decided undecided
  | synced results closing live =>
    rw [deleting] at live
    cases live
  | @cleared es₁ es₂ o₁ w₁ results closing unready _ came reported closed close journal outcome =>
    obtain ⟨s, rfl⟩ := close
    rw [closes] at closed outcome
    obtain rfl : o = o₁ := outcome
    subst journal
    obtain ⟨phases, ways⟩ := clearing_cases (unready deleting).2 came
    rw [phases] at reported
    rcases ways with ⟨well, -⟩ | ⟨why, failed, passing, unchanged, -⟩ | ⟨f, raised, refused⟩
    · rw [well] at reported
      obtain ⟨⟨report, ho, deleted, -⟩, -, gone⟩ := reported
      exact Or.inl ⟨(closed.find? _).trans gone, report, ho, deleted, requeue_of_deleted deleted⟩
    · rw [failed] at reported
      obtain ⟨ho, since⟩ := reported
      have still := since.stays deleting
      rw [still] at ho since
      have after := since.exchange closed
      obtain ⟨found, tried, told, left⟩ := failed_found after stored
      refine Or.inr (Or.inr (Or.inl ⟨found, tried, ?_, _, why, ho, rfl, ?_, ?_⟩))
      · rw [told]
        rfl
      · exact requeue_of_deleting rfl rfl
      · refine Or.inl ⟨?_, passing.isTransient, ?_⟩
        · rw [Journal.scripts, after.milestones]
          rfl
        · rw [left, ← unchanged]
          exact readinessAfter_of_passing passing rfl
    · rw [raised] at reported
      obtain ⟨ho, since⟩ := reported
      have after := since.exchange closed
      refine Or.inr (Or.inr (Or.inr
        ⟨(after.find? _).trans stored, ?_, ?_, ?_, f, refused, ho⟩))
      · rw [after.record]
        rfl
      · rw [after.record]
        rfl
      · rw [Journal.scripts, after.milestones]
        rfl

/-- The pass reports that the script could not be put on the host. -/
def Untransferred (o : Except Problem Report) : Prop :=
  ∃ report why, o = .ok report ∧ report.failure = some why ∧ why.isTransfer = true

/-- A cleanup script that no host could take is not put on the host, or what
is wrong with it is raised. -/
theorem Went.unsent (went : Went env k r es o w w')
    (closes : ∀ s, (env.host.disconnect s).1 = .ok ()) (deleting : r.deleting = true)
    (refused : (Staging.refusal? r.bundle.cleanup r.bundle.vars).isSome = true)
    (handed : (k, .cleanup) ∈ es.scripts) : Untransferred o ∨ ∃ p, o = .error p := by
  have none (passed : es.milestones = []) : False := by
    rw [Journal.scripts, passed] at handed
    cases handed
  cases went with
  | completed _ _ _ _ _ _ _ milestones => exact (none milestones).elim
  | unopened why _ _ reported => exact (none reported.milestones).elim
  | unread p _ _ raised => exact Or.inr ⟨p, raised⟩
  | synced results closing live =>
    rw [deleting] at live
    cases live
  | @cleared es₁ es₂ o₁ w₁ results closing unready _ came reported closed close journal outcome =>
    obtain ⟨s, rfl⟩ := close
    rw [closes] at outcome
    obtain rfl : o = o₁ := outcome
    obtain ⟨-, ways⟩ := clearing_cases (unready deleting).2 came
    rcases ways with ⟨-, sendable⟩ | ⟨why, failed, -, -, transfer⟩ | ⟨f, raised, -⟩
    · rw [sendable] at refused
      cases refused
    · rw [failed] at reported
      exact Or.inl ⟨_, why, reported.1, rfl, transfer refused⟩
    · rw [raised] at reported
      exact Or.inr ⟨_, reported.1⟩

/-! ## 3. Two passes -/

section Agreement

variable {name : String} {w₁ w₂ : World σ}

theorem Gone.agrees (h : Gone name o w₂) (after : w₂.store.Agrees w'.store) : Gone name o w' where
  gone := (after.find? name).trans h.gone
  report := h.report

theorem Unreached.agrees (h : Unreached name k es o w₁ w₂) (before : w.store.Agrees w₁.store)
    (after : w₂.store.Agrees w'.store) : Unreached name k es o w w' where
  stored := (after.find? name).trans h.stored
  attempted := by rw [after.record, h.attempted, before.record]
  readiness := by rw [after.record, h.readiness, before.record]
  milestones := h.milestones
  report := h.report

theorem Stuck.agrees (h : Stuck name k es o w₁ w₂) (before : w.store.Agrees w₁.store)
    (after : w₂.store.Agrees w'.store) : Stuck name k es o w w' where
  stored := (after.find? name).trans h.stored
  attempted := by rw [after.record, h.attempted]
  lastError := by rw [after.record, h.lastError]
  report := by
    rw [after.record, ← before.record]
    exact h.report

theorem Stranded.agrees (h : Stranded name k es o w₁ w₂) (before : w.store.Agrees w₁.store)
    (after : w₂.store.Agrees w'.store) : Stranded name k es o w w' where
  stored := (after.find? name).trans h.stored
  attempted := by rw [after.record, h.attempted]
  lastError := by rw [after.record, h.lastError, before.record]
  scripts := h.scripts
  raised := by
    rw [← before.record]
    exact h.raised

end Agreement

end Pass

end Upkeep
