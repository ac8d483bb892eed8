/-
Upkeep.Proofs.Escape — what a pass raises instead of returning a report.

A pass catches what a host reports wherever it works with it, with one
exception: the connection is closed after everything else, and what closing
it raises takes the place of the report. The only other thing that is
raised is what is wrong with a script that no host could take.
`Pass.run_raises_iff` says so for every state that requests can lead to, and
that any failure that is reported is recorded with the resource.
-/
import Upkeep.Proofs.Table

namespace Upkeep

open Upkeep.Act

variable {σ : Type}

namespace Pass

/-! ## 1. Scripts and verdicts -/

section Verdicts

variable {b : Bundle} {o : Observation} {results : Phase → Except Problem Execution}

theorem Upshot.Reports.verdict_ne {u : Upshot} {row : Row} (h : u.Reports row) (p : Problem) :
    u.verdict ≠ .error p := by
  obtain ⟨-, rest⟩ := h
  intro hv
  rw [hv] at rest
  split at rest
  · cases rest.1
  · cases rest.1

/-- A pass comes to a problem if and only if one of its scripts does. -/
theorem upshot_raises (came : ∀ q ∈ (upshot b o results).phases, Comes b q (results q))
    (p : Problem) :
    (upshot b o results).verdict = .error p ↔
      ∃ q ∈ (upshot b o results).phases, results q = .error p := by
  constructor
  · intro hv
    obtain ⟨-, ⟨-, reports⟩ | ⟨before, q, f, last, -, hf, -, raised⟩⟩ := upshot_decided came
    · exact absurd hv (reports.verdict_ne p)
    · rw [raised] at hv
      cases hv
      exact ⟨q, last ▸ List.mem_append_right _ (List.mem_singleton_self q), hf⟩
  · rintro ⟨q, hq, hr⟩
    have hc := came q hq
    rw [hr] at hc
    obtain ⟨f, rfl, -⟩ := hc
    obtain ⟨-, -, -, raised⟩ := upshot_of_fault hq hr
    exact raised

/-- Clearing away comes to a problem if and only if its script does. -/
theorem clearing_raises (came : ∀ q ∈ (clearing b o results).1, Comes b q (results q))
    (p : Problem) :
    verdictOf (clearing b o results).2 = .error p ↔
      ∃ q ∈ (clearing b o results).1, results q = .error p := by
  constructor
  · intro hv
    cases given : b.cleanup.isGiven with
    | false =>
      rw [clearing, Lifecycle.play, given] at hv
      cases hv
    | true =>
      have played : clearing b o results =
          ([.cleanup], (results .cleanup).map (Lifecycle.cleared o)) := if_pos given
      rw [played] at came hv ⊢
      refine ⟨.cleanup, List.mem_singleton_self _, ?_⟩
      have hc := came .cleanup (List.mem_singleton_self _)
      rcases hr : results .cleanup with q | e
      · rw [hr] at hc hv
        obtain ⟨f, rfl, -⟩ := hc
        cases hv
        rfl
      · rw [hr] at hv
        cases hv
  · rintro ⟨q, hq, hr⟩
    have hc := came q hq
    rw [hr] at hc
    obtain ⟨f, rfl, -⟩ := hc
    exact (play_of_fault hq hr).2

end Verdicts

/-! ## 2. Reports -/

variable {env : Surroundings σ} {k : Nat} {r : Resource} {ms : List Milestone} {es : Journal}
  {o : Except Problem Report} {w w' : World σ}

/-- A failure that is reported is recorded with the resource. -/
def Recorded (name : String) (k : Nat) (o : Except Problem Report) (w' : World σ) : Prop :=
  ∀ report why, o = .ok report → report.failure = some why →
    w'.store.find? name = some k ∧
    (w'.store.record k).lastError = some s!"{why.category.word}: {why.message}"

theorem Reported.raises {action : Action} {verdict : Except Problem (Except Failure Unit)}
    (h : Reported k ms r action verdict es o w w') (p : Problem) :
    o = .error p ↔ verdict = .error p := by
  rcases verdict with q | (why | _)
  · rw [h.1]
    exact ⟨fun hp => by cases hp; rfl, fun hp => by cases hp; rfl⟩
  · rw [h.1]
    exact ⟨nofun, nofun⟩
  · rw [h.1]
    exact ⟨nofun, nofun⟩

theorem Reported.recorded {action : Action} {verdict : Except Problem (Except Failure Unit)}
    {name : String} (h : Reported k ms r action verdict es o w w')
    (stored : w.store.find? name = some k) : Recorded name k o w' := by
  intro report why ho hf
  rcases verdict with q | (trouble | _)
  · cases h.1.symm.trans ho
  · obtain ⟨returned, since⟩ := h
    cases returned.symm.trans ho
    cases hf
    obtain ⟨found, -, told, -⟩ := failed_found since stored
    exact ⟨found, told⟩
  · cases h.1.symm.trans ho
    cases hf

section Clearing

variable {verdict : Except Problem (Except Failure Unit)}

/-- Unless the resource is gone, clearing it away is reported like anything
else. -/
theorem Cleared.raises (h : Cleared k ms r verdict es o w w') (p : Problem) :
    o = .error p ↔ verdict = .error p := by
  rcases h.cases with ⟨rfl, -, ⟨report, rfl, -⟩, -⟩ | ⟨-, reported⟩
  · exact ⟨nofun, nofun⟩
  · exact reported.raises p

theorem Cleared.recorded {name : String} (h : Cleared k ms r verdict es o w w')
    (stored : w.store.find? name = some k) : Recorded name k o w' := by
  rcases h.cases with ⟨-, -, ⟨report, rfl, -, well⟩, -⟩ | ⟨-, reported⟩
  · intro report' why ho hf
    cases ho
    rw [well] at hf
    cases hf
  · exact reported.recorded stored

end Clearing

/-- What is recorded is not touched by closing the connection. -/
theorem Recorded.exchange {name : String} {w₁ : World σ} (h : Recorded name k o w₁)
    (hx : Exchange ms es w₁ w') : Recorded name k o w' := by
  intro report why ho hf
  obtain ⟨stored, told⟩ := h report why ho hf
  refine ⟨(hx.find? name).trans stored, ?_⟩
  rcases hx.record k with same | ⟨-, set⟩
  · rw [same, told]
  · rw [set, told]

/-! ## 3. What is raised -/

/-- The problem is what became of a script that no host could take. -/
def Misfit (k : Nat) (b : Bundle) (es : Journal) (p : Problem) : Prop :=
  ∃ q f, p = .fault f ∧ .result k q (.error p) ∈ es.milestones ∧
    Staging.refusal? (b.script q) b.vars = some f

/-- In a session the pass raises what closing the connection raises, and
otherwise what its scripts do. -/
theorem session_raises {b : Bundle} {results : Phase → Except Problem Execution}
    {phases : List Phase} {closing : Stage} {o₁ : Except Problem Report}
    (passed : es.milestones = .connected :: handed k results phases ++ [.closed closing])
    (came : ∀ q ∈ phases, Comes b q (results q)) (outcome : o = closing.bind fun _ => o₁)
    (raises : ∀ p, o₁ = .error p ↔ ∃ q ∈ phases, results q = .error p) (p : Problem) :
    o = .error p ↔ .closed (.error p) ∈ es.milestones ∨
      .closed (.ok ()) ∈ es.milestones ∧ Misfit k b es p := by
  have closed (how : Stage) : .closed how ∈ es.milestones ↔ how = closing := by
    simp [passed, handed]
  have result (q : Phase) : .result k q (.error p) ∈ es.milestones ↔
      q ∈ phases ∧ results q = .error p := by
    rw [passed]
    simp only [handed, List.cons_append, List.mem_cons, List.mem_append, List.mem_flatMap,
      List.not_mem_nil, reduceCtorEq, or_false, false_or, Milestone.result.injEq]
    constructor
    · rintro ⟨a, ha, -, rfl, hr⟩
      exact ⟨ha, hr.symm⟩
    · rintro ⟨hq, hr⟩
      exact ⟨q, hq, trivial, rfl, hr.symm⟩
  rw [closed, closed]
  rcases closing with c | _
  · rw [outcome]
    exact ⟨fun hp => Or.inl (by cases hp; rfl), fun hp => by
      rcases hp with hc | ⟨hc, -⟩
      · cases hc; rfl
      · cases hc⟩
  · obtain rfl : o = o₁ := outcome
    rw [raises]
    constructor
    · rintro ⟨q, hq, hr⟩
      have hc := came q hq
      rw [hr] at hc
      obtain ⟨f, rfl, refused⟩ := hc
      exact Or.inr ⟨rfl, q, f, rfl, (result q).mpr ⟨hq, hr⟩, refused⟩
    · rintro (hc | ⟨-, q, f, -, hm, -⟩)
      · cases hc
      · exact ⟨q, (result q).mp hm⟩

/-- Outside of a session nothing is raised. -/
theorem quiet_raises {b : Bundle} (passed : es.milestones = []) (returned : ∀ p, o ≠ .error p)
    (p : Problem) :
    o = .error p ↔ .closed (.error p) ∈ es.milestones ∨
      .closed (.ok ()) ∈ es.milestones ∧ Misfit k b es p := by
  rw [passed]
  exact ⟨fun hp => absurd hp (returned p), by simp⟩

/-- What a pass raises, whichever way it goes. -/
theorem Went.raises (went : Went env k r es o w w')
    (decided : Credentials.Decided env.depths r.credentials) (p : Problem) :
    o = .error p ↔ .closed (.error p) ∈ es.milestones ∨
      .closed (.ok ()) ∈ es.milestones ∧ Misfit k r.bundle es p := by
  cases went with
  | completed report _ _ returned _ _ _ passed =>
    exact quiet_raises passed (fun p hp => by cases returned.symm.trans hp) p
  | unopened why _ _ reported =>
    refine quiet_raises reported.milestones (fun p hp => ?_) p
    cases (reported.raises p).mp hp
  | unread _ _ undecided => exact absurd decided undecided
  | synced results closing _ came reported closed _ journal outcome =>
    refine session_raises ?_ came outcome (fun p => ?_) p
    · rw [journal, Journal.milestones_append, reported.milestones, closed.milestones]
    · exact (reported.raises p).trans (upshot_raises came p)
  | cleared results closing _ _ came reported closed _ journal outcome =>
    refine session_raises ?_ came outcome (fun p => ?_) p
    · rw [journal, Journal.milestones_append, reported.milestones, closed.milestones]
    · exact (reported.raises p).trans (clearing_raises came p)

/-- Whichever way a pass goes, a failure that it reports is recorded. -/
theorem Went.recorded (went : Went env k r es o w w') {name : String}
    (stored : w.store.find? name = some k) : Recorded name k o w' := by
  have returned {closing : Stage} {o₁ : Except Problem Report} {w₁ : World σ}
      (outcome : o = closing.bind fun _ => o₁) (h : Recorded name k o₁ w₁) :
      Recorded name k o w₁ := by
    intro report why ho hf
    rcases closing with c | _
    · cases outcome.symm.trans ho
    · exact h report why (outcome.symm.trans ho) hf
  cases went with
  | completed report _ _ ended _ well =>
    intro report' why ho hf
    cases ended.symm.trans ho
    rw [well] at hf
    cases hf
  | unopened why _ _ reported => exact reported.recorded stored
  | unread p _ _ raised =>
    intro report why ho
    cases raised.symm.trans ho
  | synced results closing _ _ reported closed _ _ outcome =>
    exact (returned outcome (reported.recorded stored)).exchange closed
  | cleared results closing _ _ _ reported closed _ _ outcome =>
    exact (returned outcome (reported.recorded stored)).exchange closed

/-- Whatever was requested of the service before: a pass over a resource
whose credentials could be read raises what closing the connection raises,
or what became of a script that no host could take, and nothing else; and a
failure that it reports is recorded with the resource. -/
theorem run_raises_iff (env : Surroundings σ) (marks : Pause → World σ → List String)
    (orderly : env.host.Orderly) (host : σ) (requests : List Request)
    (admitted : ∀ r ∈ requests, r.Admits (Credentials.Readable env.depths)) {name : String}
    {k : Nat} :
    let w := Service.serve (env.marking marks) (Service.start host) requests
    w.store.find? name = some k →
      (run (env.marking marks) name).Gives w fun es o w' =>
        (∀ p, o = .error p ↔ .closed (.error p) ∈ es.milestones ∨
          .closed (.ok ()) ∈ es.milestones ∧ Misfit k (w.store.record k).bundle es p) ∧
        Recorded name k o w' := by
  intro w stored
  have quiet := env.unobtrusive_marking marks
  have sound : w.store.Sound := Service.sound_serve quiet host requests
  obtain ⟨written, -, reached⟩ := Service.run_serve quiet (fun _ hj => hj) requests
    (Service.start host) Store.sound_empty.lawful admitted
  have readable : Credentials.Readable env.depths (w.store.record k).credentials :=
    reached.admits (fun _ hk => absurd hk (Nat.not_lt_zero _)) k (sound.known name k stored).1
  refine (gives_run quiet orderly sound stored).mono ?_
  rintro es o w' ⟨w₁, w₂, before, ⟨time, went⟩, after⟩
  refine ⟨went.raises readable.decided, fun report why ho hf => ?_⟩
  obtain ⟨still, told⟩ := went.recorded ((before.find? name).trans stored) report why ho hf
  exact ⟨(after.find? name).trans still, by rw [after.record, told]⟩

/-- A status check that exits with one is reported and recorded. -/
theorem run_raises_iff_reported :
    let env := Host.obliging.counted.marking fun _ _ => []
    let w := Service.serve env (Service.start [1]) [.call (.apply {
      name := "web"
      credentials := Credentials.sample
      statusCheck := .text "test -d /srv"
      reconcile := false })]
    w.store.find? "web" = some 0 ∧ (run env "web").Gives w fun es o w' =>
      (∀ p, o = .error p ↔ .closed (.error p) ∈ es.milestones ∨
        .closed (.ok ()) ∈ es.milestones ∧ Misfit 0 (w.store.record 0).bundle es p) ∧
      ∃ why : Failure,
        (w'.store.record 0).lastError = some s!"{why.category.word}: {why.message}" := by
  intro env w
  have stored : w.store.find? "web" = some 0 := by decide +kernel
  refine ⟨stored, ?_⟩
  obtain ⟨es, hj, raises, recorded⟩ := run_raises_iff Host.obliging.counted (fun _ _ => [])
    Host.orderly_obliging [1] _ (fun r hr => by rw [List.mem_singleton.mp hr]; trivial) stored
  refine ⟨es, hj, raises, ?_⟩
  have failed : (((run env "web").runOn w).1.toOption.bind Report.failure).isSome = true := by
    decide +kernel
  rcases ho : ((run env "web").runOn w).1 with p | report
  · rw [ho] at failed
    cases failed
  · rw [ho] at failed
    obtain ⟨why, hf⟩ := Option.isSome_iff_exists.mp failed
    exact ⟨why, (recorded report why ho hf).2⟩

/-- Everything goes well but for the end of the connection, and that fault
escapes. -/
theorem run_raises_of_broken_end :
    let host := Host.obliging.breaking ⟨.system none, "connection reset"⟩
    let w := Service.serve host.counted (Service.start []) [.call (.apply {
      name := "web"
      credentials := Credentials.sample
      statusCheck := .text "true"
      reconcile := false })]
    host.Orderly ∧ w.store.find? "web" = some 0 ∧
      ∃ p, ((run host.counted "web").runOn w).1 = .error p ∧ p.isHostFault = true := by
  intro host w
  refine ⟨Host.orderly_obliging.breaking (by decide), by decide +kernel, ?_⟩
  have escaped : ((((run host.counted "web").runOn w).1.map fun _ => false).tryCatch
      fun p => .ok p.isHostFault).toOption = some true := by decide +kernel
  rcases ho : ((run host.counted "web").runOn w).1 with p | report
  · rw [ho] at escaped
    exact ⟨p, rfl, Option.some.inj escaped⟩
  · rw [ho] at escaped
    cases escaped

end Pass

end Upkeep
