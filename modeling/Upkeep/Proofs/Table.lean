/-
Upkeep.Proofs.Table — the decision table of a pass over a live resource.

`Bundle.table` is the table: by the results of the scripts it tells which
scripts a pass runs, in which order, and which action, readiness and failure
it reports. It knows nothing of observations but whether the resource has
been created. A pass keeps to it whatever was observed before, as long as
the connection is established and no deletion is requested meanwhile
(`Pass.run_keeps_table`).

There is one exception, and the table was not meant to have any. The octets of
a script are counted for the log after the script was put on the host, and
what is wrong with a script that has no octets is not handled there. The pass
hands over the scripts of the table up to that one and then raises
(`Pass.CutShort`). Half of a surrogate pair is such a script
(`Pass.run_cut_short_of_half`).
-/
import Upkeep.Proofs.Passes

namespace Upkeep

open Upkeep.Act

/-! ## 1. The table -/

/-- What a pass reports. -/
structure Row where
  action : Action
  readiness : Readiness
  failure : Option Failure := none

/-- The report that a row stands for. -/
def Row.report (row : Row) (name : String) : Report :=
  { name, action := row.action, readiness := row.readiness, failure := row.failure }

/-- Why a script that was to change the resource counts as failed, by its
result. -/
def Execution.trouble? (e : Execution) (p : Phase) : Option Failure :=
  match e.ending with
  | .failed why => some why
  | .exited status =>
    if status = 0 then none
    else some (.exited ⟨status, e.stdout, e.stderr, p.word, true⟩)

namespace Bundle

/-- The row of a change: the readiness as it was found if the change went
well, else an operator is needed. -/
def changeRow (action : Action) (found : Readiness) (trouble : Option Failure) : Row :=
  match trouble with
  | none => ⟨action, found, none⟩
  | some why => ⟨action, .fatal, some why⟩

/-- The row of a creation, and the script for it, if there is one. -/
def creation (b : Bundle) (result : Phase → Execution) : List Phase × Row :=
  if b.init.isGiven then ([.init], changeRow .create .absent ((result .init).trouble? .init))
  else ([], changeRow .create .absent none)

/-- The row of an update, and the script for it; without one there is
nothing to be done. -/
def updating (b : Bundle) (result : Phase → Execution) : List Phase × Row :=
  if b.update.isGiven then
    ([.update], changeRow .update .needsRemediation ((result .update).trouble? .update))
  else ([], ⟨.none, .needsRemediation, none⟩)

/-- What follows a status check. -/
def following (b : Bundle) (result : Phase → Execution) (check : Execution) :
    List Phase × Row :=
  match check.ending with
  | .failed why => ([], ⟨.none, .unknown, some why⟩)
  | .exited 0 => ([], ⟨.none, .ready, none⟩)
  | .exited 1 =>
    let exit := ⟨1, check.stdout, check.stderr, Phase.statusCheck.word, true⟩
    ([], ⟨.none, .fatal, some (.exited exit)⟩)
  | .exited 100 => b.creation result
  | .exited _ => b.updating result

/-- The scripts that a pass runs, and what it reports. -/
def table (b : Bundle) (created : Bool) (result : Phase → Execution) : List Phase × Row :=
  if b.statusCheck.isGiven then
    let (later, row) := b.following result (result .statusCheck)
    (.statusCheck :: later, row)
  else if created then ([], ⟨.none, .ready, none⟩)
  else b.creation result

end Bundle

/-! ## 2. The table and what a pass comes to -/

namespace Pass

/-- What a pass comes to is reported as the row says, if no deletion was
requested. -/
def Upshot.Reports (u : Upshot) (row : Row) : Prop :=
  u.action = row.action ∧
  match row.failure with
  | none => u.verdict = .ok (.ok ()) ∧ u.seen.readiness = row.readiness
  | some why => u.verdict = .ok (.error why) ∧
      ∀ r : Resource, r.deleting = false → r.observation = u.seen →
        readinessAfter u.action why r = row.readiness

/-- A failed change needs an operator, whatever the failure. -/
theorem readinessAfter_of_fatal {action : Action} {why : Failure} {r : Resource}
    (changing : action ≠ .none) (hr : r.observation.readiness = .fatal) :
    readinessAfter action why r = .fatal := by
  unfold readinessAfter
  split
  · rfl
  · rw [if_neg fun h => changing h.1]
    exact hr

/-- A change is reported by its row. -/
theorem reports_changed {u : Upshot} {p : Phase} {o : Observation} {e : Execution}
    {action : Action} {found : Readiness} (changing : action ≠ .none) (hf : o.readiness = found)
    (ha : u.action = action) (hv : u.verdict = .ok (Lifecycle.changed p o e).2)
    (hs : u.seen.readiness = (Lifecycle.changed p o e).1.readiness) :
    u.Reports (Bundle.changeRow action found (e.trouble? p)) := by
  subst ha
  obtain ⟨stdout, stderr, status | why⟩ := e
  · by_cases zero : status = 0
    · subst zero
      exact ⟨rfl, hv, hs.trans hf⟩
    · have troubled : Execution.trouble? ⟨stdout, stderr, .exited status⟩ p =
          some (.exited ⟨status, stdout, stderr, p.word, true⟩) := by
        simp only [Execution.trouble?, zero, if_false]
      have changed : Lifecycle.changed p o ⟨stdout, stderr, .exited status⟩ =
          (o.record ⟨stdout, stderr, .exited status⟩ (some .fatal),
            .error (.exited ⟨status, stdout, stderr, p.word, true⟩)) := by
        simp [Lifecycle.changed, Execution.succeeded, Execution.status?, Execution.check, zero]
      rw [changed] at hv hs
      rw [troubled]
      refine ⟨rfl, hv, fun r _ hr => readinessAfter_of_fatal changing ?_⟩
      rw [hr, hs]
      rfl
  · refine ⟨rfl, hv, fun r _ hr => readinessAfter_of_fatal changing ?_⟩
    rw [hr, hs]
    rfl

section Rows

variable {b : Bundle} {o : Observation} {result : Phase → Execution}

/-- What a resource needs that is absent is told by the row of a
creation. -/
theorem response_create (absent : o.readiness = .absent) :
    let u := response b o fun p => .ok (result p)
    u.phases = (b.creation result).1 ∧ u.Reports (b.creation result).2 := by
  have action : nextAction b o = .create := by simp [nextAction, absent]
  unfold response Bundle.creation Lifecycle.play
  rw [action]
  cases given : b.init.isGiven with
  | false => exact ⟨rfl, rfl, rfl, absent⟩
  | true =>
    refine ⟨rfl, reports_changed (o := o) (by decide) absent rfl ?_ ?_⟩
    · show verdictOf (.ok (Lifecycle.settled _)) = _
      simp only [verdictOf, Lifecycle.settled_snd]
    · exact Lifecycle.settled_readiness _

/-- What a resource needs that is not as it should be is told by the row of
an update, if there is a script for it. -/
theorem response_update (behind : o.readiness = .needsRemediation) :
    let u := response b o fun p => .ok (result p)
    u.phases = (b.updating result).1 ∧ u.Reports (b.updating result).2 := by
  unfold Bundle.updating
  cases given : b.update.isGiven with
  | false =>
    have action : nextAction b o = .none := by simp [nextAction, behind, given]
    unfold response
    rw [action]
    exact ⟨rfl, rfl, rfl, behind⟩
  | true =>
    have action : nextAction b o = .update := by simp [nextAction, behind, given]
    unfold response Lifecycle.play
    rw [action]
    simp only [given]
    exact ⟨rfl, reports_changed (o := o) (by decide) behind rfl rfl rfl⟩

/-- After a look that shows something to be done, a pass comes to that. -/
theorem upshot_of_behind {results : Phase → Except Problem Execution} {phases : List Phase}
    {seen : Observation} {survey : Survey}
    (looked : look b o results = (phases, .ok (seen, .ok survey)))
    (behind : survey.upToDate = false) {row : List Phase × Row}
    (h : (response b seen results).phases = row.1 ∧ (response b seen results).Reports row.2) :
    (upshot b o results).phases = phases ++ row.1 ∧ (upshot b o results).Reports row.2 := by
  unfold upshot
  rw [looked]
  simp only [verdictOf, behind]
  exact ⟨congrArg (phases ++ ·) h.1, h.2⟩

/-- Without a status check a resource is as it should be once it has been
created. -/
theorem upshot_unchecked (missing : b.statusCheck.isGiven = false) :
    let u := upshot b o fun p => .ok (result p)
    let row := if o.created then ([], ⟨.none, .ready, none⟩) else b.creation result
    u.phases = row.1 ∧ u.Reports row.2 := by
  have looked : look b o (fun p => .ok (result p)) =
      ([], .ok ((Lifecycle.surveyUnchecked o).1, .ok (Lifecycle.surveyUnchecked o).2)) := by
    unfold look Lifecycle.play
    rw [missing]
    rfl
  cases created : o.created with
  | false =>
    refine upshot_of_behind looked created (response_create ?_)
    simp [Lifecycle.surveyUnchecked, created]
  | true =>
    unfold upshot
    rw [looked]
    simp only [verdictOf, Lifecycle.surveyUnchecked, created]
    exact ⟨rfl, rfl, rfl, rfl⟩

/-- After a status check its result decides, whatever was known before. -/
theorem upshot_checked (given : b.statusCheck.isGiven = true) {check : Execution}
    (checked : result .statusCheck = check)
    (passing : ∀ why, check.ending = .failed why → why.Passing) :
    let u := upshot b o fun p => .ok (result p)
    u.phases = [.statusCheck] ++ (b.following result check).1 ∧
    u.Reports (b.following result check).2 := by
  have looked : look b o (fun p => .ok (result p)) =
      ([.statusCheck], .ok (Lifecycle.observed o check)) := by
    unfold look Lifecycle.play
    rw [given, ← checked]
    rfl
  obtain ⟨stdout, stderr, status | why⟩ := check
  · by_cases ready : status = 0
    · subst ready
      unfold upshot
      rw [looked]
      exact ⟨rfl, rfl, rfl, rfl⟩
    by_cases fatal : status = 1
    · subst fatal
      unfold upshot
      rw [looked]
      exact ⟨rfl, rfl, rfl, fun _ _ _ => rfl⟩
    by_cases absent : status = 100
    · subst absent
      exact upshot_of_behind looked rfl (response_create rfl)
    · -- any other status, negative ones included
      have seen : Lifecycle.observed o ⟨stdout, stderr, .exited status⟩ =
          ({ o.record ⟨stdout, stderr, .exited status⟩ (some .needsRemediation) with
              created := true }, .ok ⟨true, false, .needsRemediation, some status⟩) := by
        simp [Lifecycle.observed, Lifecycle.surveyChecked, classify, readyStatus, fatalStatus,
          absentStatus, ready, fatal, absent]
      have other : b.following result ⟨stdout, stderr, .exited status⟩ = b.updating result := by
        simp only [Bundle.following]
      rw [seen] at looked
      rw [other]
      exact upshot_of_behind looked rfl (response_update rfl)
  · have unready := passing why rfl
    unfold upshot
    rw [looked]
    refine ⟨rfl, rfl, rfl, fun r live _ => ?_⟩
    show readinessAfter .none why r = .unknown
    simp [readinessAfter, unready.notMisconfiguration, unready.notFatalExit, live]

/-- What a pass comes to whose scripts all have results is told by the
table. -/
theorem upshot_table (passing : ∀ why, b.statusCheck.isGiven = true →
      (result .statusCheck).ending = .failed why → why.Passing) :
    let u := upshot b o fun p => .ok (result p)
    u.phases = (b.table o.created result).1 ∧ u.Reports (b.table o.created result).2 := by
  unfold Bundle.table
  cases given : b.statusCheck.isGiven with
  | false => exact upshot_unchecked given
  | true => exact upshot_checked given rfl fun why => passing why given

end Rows

/-! ## 3. Passes keep to the table -/

/-- A status check is always handed over. -/
theorem statusCheck_mem_phases {b : Bundle} {o : Observation}
    {results : Phase → Except Problem Execution} (given : b.statusCheck.isGiven = true) :
    .statusCheck ∈ (upshot b o results).phases := by
  refine mem_phases_of_mem_look ?_
  rw [look, Lifecycle.play, if_pos given]
  exact List.mem_singleton_self _

/-- A pass hands over the scripts of the table. Either all of them have
results, and it comes to what the table says; or no host could take the last
one, and that puts an end to it. -/
theorem upshot_decided {b : Bundle} {o : Observation}
    {results : Phase → Except Problem Execution}
    (came : ∀ p ∈ (upshot b o results).phases, Comes b p (results p)) :
    (upshot b o results).phases = (b.table o.created (mended results)).1 ∧
    (((∀ p ∈ (upshot b o results).phases, results p = .ok (mended results p)) ∧
      (upshot b o results).Reports (b.table o.created (mended results)).2) ∨
    ∃ before p f, (upshot b o results).phases = before ++ [p] ∧
      (∀ q ∈ before, results q = .ok (mended results q)) ∧ results p = .error (.fault f) ∧
      Staging.refusal? (b.script p) b.vars = some f ∧
      (upshot b o results).verdict = .error (.fault f)) := by
  have passing : ∀ why, b.statusCheck.isGiven = true →
      (mended results .statusCheck).ending = .failed why → why.Passing := by
    intro why given failed
    have hc := came .statusCheck (statusCheck_mem_phases given)
    rcases hr : results .statusCheck with p | e
    · rw [mended, hr] at failed
      cases failed
    · rw [hr] at hc
      rw [mended_of_ok hr] at failed
      exact hc.passing why failed
  obtain ⟨phases, reports⟩ := upshot_table (o := o) passing
  rw [upshot_mended] at phases
  refine ⟨phases, ?_⟩
  by_cases well : ∀ p ∈ (upshot b o results).phases, ∃ e, results p = .ok e
  · have same : ∀ p ∈ (upshot b o results).phases, results p = .ok (mended results p) := by
      intro p hp
      obtain ⟨e, he⟩ := well p hp
      rw [mended_of_ok he, he]
    rw [upshot_congr same] at reports
    exact Or.inl ⟨same, reports⟩
  · obtain ⟨p, hp, hr⟩ : ∃ p ∈ (upshot b o results).phases, ∀ e, results p ≠ .ok e := by
      simpa using well
    have hc := came p hp
    rcases hres : results p with q | e
    · rw [hres] at hc
      obtain ⟨f, rfl, refused⟩ := hc
      obtain ⟨before, last, earlier, verdict⟩ := upshot_of_fault hp hres
      refine Or.inr ⟨before, p, f, last, fun q hq => ?_, hres, refused, verdict⟩
      obtain ⟨e, he⟩ := earlier q hq
      rw [mended_of_ok he, he]
    · exact absurd hres (hr e)

variable {k : Nat} {ms : List Milestone} {r : Resource} {es : Journal} {w w' : World σ}

/-- Without a request for deletion the report is the one that the row stands
for. -/
theorem Reported.report {u : Upshot} {row : Row} {o : Except Problem Report}
    (h : Reported k ms { r with observation := u.seen } u.action u.verdict es o w w')
    (reports : u.Reports row) (live : (w'.store.record k).deleting = false) :
    o = .ok (row.report r.name) := by
  obtain ⟨phases, seen, action, verdict⟩ := u
  obtain ⟨action', readiness, failure⟩ := row
  obtain ⟨rfl, rest⟩ := reports
  rcases failure with _ | why
  · obtain ⟨rfl, rfl⟩ := rest
    rw [h.1, live]
    rfl
  · obtain ⟨rfl, after⟩ := rest
    rw [h.1, live, after _ rfl rfl]
    rfl

/-- By the results of its scripts, a pass did what the table says: once
connected it handed over these scripts and closed the connection, nothing
kept a script from running but what may clear by itself, and the report is
that of the row. A script that no host could take is among them only if it
failed to be put on the host. -/
structure Tabled (k : Nat) (r : Resource) (result : Phase → Execution) (es : Journal)
    (o : Except Problem Report) : Prop where
  milestones : es.milestones =
    .connected :: handed k (fun p => .ok (result p)) (r.bundle.table r.observation.created result).1
      ++ [.closed (.ok ())]
  isTransient : ∀ p ∈ (r.bundle.table r.observation.created result).1,
    ∀ why, (result p).ending = .failed why → why.isTransient = true
  unsent : ∀ p ∈ (r.bundle.table r.observation.created result).1,
    (Staging.refusal? (r.bundle.script p) r.bundle.vars).isSome = true →
      ∃ why, (result p).ending = .failed why ∧ why.isTransfer = true
  report : o = .ok ((r.bundle.table r.observation.created result).2.report r.name)

/-- A pass handed over the scripts of the table up to one that no host could
take. That one has no result, nothing followed it but the end of the
connection, and what is wrong with it was raised in the place of a report. -/
structure CutShort (k : Nat) (r : Resource) (result : Phase → Execution) (p : Phase) (f : Fault)
    (es : Journal) (o : Except Problem Report) : Prop where
  milestones : ∃ before, (r.bundle.table r.observation.created result).1 = before ++ [p] ∧
    es.milestones = .connected :: handed k (fun q => .ok (result q)) before ++
      [.script k p, .result k p (.error (.fault f)), .closed (.ok ())]
  refused : Staging.refusal? (r.bundle.script p) r.bundle.vars = some f
  raised : o = .error (.fault f)

/-- The way of a pass that keeps to the table. -/
theorem Went.tabled {env : Surroundings σ} {o : Except Problem Report}
    (went : Went env k r es o w w') (closes : ∀ s, (env.host.disconnect s).1 = .ok ())
    (live : r.deleting = false) (flag : (w.store.record k).deleting = false)
    (connected : .connected ∈ es.milestones) (quiet : .requested k ∉ es) :
    (∃ result, Tabled k r result es o) ∨ ∃ result p f, CutShort k r result p f es o := by
  cases went with
  | completed report deleting =>
    rw [deleting] at live
    cases live
  | unopened why unready refused reported =>
    rw [reported.milestones] at connected
    cases connected
  | unread p unready undecided raised milestones =>
    rw [milestones] at connected
    cases connected
  | cleared results closing unready asked =>
    rcases asked with deleting | requested
    · rw [deleting] at live
      cases live
    · exact absurd requested quiet
  | @synced es₁ es₂ o₁ w₁ results closing _ came reported closed close journal outcome =>
    obtain ⟨s, rfl⟩ := close
    rw [closes] at closed outcome
    subst journal
    have passed : (es₁ ++ es₂).milestones = .connected ::
        handed k results (upshot r.bundle r.observation results).phases ++ [.closed (.ok ())] := by
      rw [Journal.milestones_append, reported.milestones, closed.milestones]
    obtain ⟨phases, ⟨same, reports⟩ | ⟨before, p, f, last, earlier, hf, refused, hv⟩⟩ :=
      upshot_decided came
    · have still : (w₁.store.record k).deleting = false := by
        obtain ⟨_, since⟩ := reported.exists_since
        rcases since.deleting with kept | requested
        · exact kept.trans flag
        · exact absurd (List.mem_append_left _ requested) quiet
      have yields : ∀ p ∈ (r.bundle.table r.observation.created (mended results)).1,
          Staging.Yields (r.bundle.script p) r.bundle.vars (mended results p) := by
        intro p hp
        rw [← phases] at hp
        have hc := came p hp
        rw [same p hp] at hc
        exact hc
      refine Or.inl ⟨mended results, ?_, ?_, fun p hp => (yields p hp).unsent, ?_⟩
      · rw [← phases, passed, handed_congr same]
      · exact fun p hp why hw => ((yields p hp).passing why hw).isTransient
      · rw [outcome]
        exact reported.report reports still
    · refine Or.inr ⟨mended results, p, f, ⟨before, phases ▸ last, ?_⟩, refused, ?_⟩
      · rw [passed, last, handed_append, handed_congr earlier]
        simp [handed, hf]
      · rw [hv] at reported
        rw [outcome]
        exact reported.1

/-- A pass over a resource that is not being deleted keeps to the table,
whatever was observed before: once the connection is established, and unless
a deletion is requested meanwhile, it hands over the scripts of the table
and reports what the table says.

Only a script that no host could take keeps it from that. If such a script
is put on the host nevertheless, the pass is cut short, and what is wrong
with the script is raised. -/
theorem run_keeps_table (env : Surroundings σ) (marks : Pause → World σ → List String)
    (orderly : env.host.Orderly) (closes : ∀ s, (env.host.disconnect s).1 = .ok ())
    {w : World σ} {name : String} {k : Nat} (sound : w.store.Sound)
    (stored : w.store.find? name = some k) (live : (w.store.record k).deleting = false) :
    (run (env.marking marks) name).Gives w fun es o _ =>
      .connected ∈ es.milestones → .requested k ∉ es →
        (∃ result, Tabled k (w.store.record k) result es o) ∨
        ∃ result p f, CutShort k (w.store.record k) result p f es o := by
  refine (gives_run (env.unobtrusive_marking marks) orderly sound stored).mono ?_
  rintro es o w' ⟨w₁, w₂, agrees, ⟨time, went⟩, -⟩ connected quiet
  have flag : (w₁.store.record k).deleting = false := by
    rw [agrees.record]
    exact live
  rcases went.tabled closes live flag connected quiet with ⟨result, kept⟩ | ⟨result, p, f, cut⟩
  · exact Or.inl ⟨result, kept.milestones, kept.isTransient, kept.unsent, kept.report⟩
  · exact Or.inr ⟨result, p, f, cut.milestones, cut.refused, cut.raised⟩

/-- Where a status check finds nothing, the resource is created. -/
theorem run_keeps_table_create :
    let env := Host.obliging.counted.marking fun _ _ => []
    let w := Service.serve env (Service.start [100])
      [.put "web" Credentials.sample
        { statusCheck := .text "test -d /srv", init := .text "mkdir /srv" }]
    w.store.Sound ∧ w.store.find? "web" = some 0 ∧ (w.store.record 0).deleting = false ∧
    (run env "web").Gives w fun es o _ =>
      .connected ∈ es.milestones ∧ .requested 0 ∉ es ∧
      es.scripts = [(0, .statusCheck), (0, .init)] ∧
      ∃ result, Tabled 0 (w.store.record 0) result es o := by
  intro env w
  have sound : w.store.Sound :=
    Service.sound_serve (Host.obliging.counted.unobtrusive_marking fun _ _ => []) _ _
  have stored : w.store.find? "web" = some 0 := by decide +kernel
  have live : (w.store.record 0).deleting = false := by decide +kernel
  refine ⟨sound, stored, live, ?_⟩
  obtain ⟨es, hj, kept⟩ := run_keeps_table Host.obliging.counted (fun _ _ => [])
    Host.orderly_obliging (fun _ => rfl) sound stored live
  have written := Act.eq_drop_of_added hj
  have connected : .connected ∈ es.milestones :=
    Journal.connected_mem_of_any (by rw [written]; decide +kernel)
  have quiet : .requested 0 ∉ es :=
    Journal.requested_not_mem_of_all (by rw [written]; decide +kernel)
  refine ⟨es, hj, connected, quiet, by rw [written]; decide +kernel, ?_⟩
  rcases kept connected quiet with tabled | ⟨_, _, _, cut⟩
  · exact tabled
  · have returned : ((run env "web").runOn w).1.isOk = true := by decide +kernel
    rw [cut.raised] at returned
    cases returned

/-- Half of a surrogate pair as a status check: every step on the host goes
well, and yet there is no row that the pass could be said to have come to. -/
theorem run_cut_short_of_half :
    let env := Host.obliging.counted.marking fun _ _ => []
    let w := Service.serve env (Service.start [])
      [.put "web" Credentials.sample { statusCheck := Staging.half }]
    env.host.Orderly ∧ (∀ s, (env.host.disconnect s).1 = .ok ()) ∧ w.store.Sound ∧
    w.store.find? "web" = some 0 ∧ (w.store.record 0).deleting = false ∧
    (run env "web").Gives w fun es o _ =>
      .connected ∈ es.milestones ∧ .requested 0 ∉ es ∧ es.scripts = [(0, .statusCheck)] ∧
      o = .error (.fault Staging.halfFault) ∧
      ¬ ∃ result, Tabled 0 (w.store.record 0) result es o := by
  intro env w
  have unobtrusive := Host.obliging.counted.unobtrusive_marking fun _ _ => []
  have sound : w.store.Sound := Service.sound_serve unobtrusive _ _
  have stored : w.store.find? "web" = some 0 := by decide +kernel
  have live : (w.store.record 0).deleting = false := by decide +kernel
  refine ⟨Host.orderly_obliging, fun _ => rfl, sound, stored, live, ?_⟩
  obtain ⟨es, hj, -⟩ := takes_run_any unobtrusive sound stored
  have written := Act.eq_drop_of_added hj
  have raised : ((run env "web").runOn w).1 = .error (.fault Staging.halfFault) :=
    eq_of_faultOf? (by decide +kernel)
  refine ⟨es, hj, Journal.connected_mem_of_any (by rw [written]; decide +kernel),
    Journal.requested_not_mem_of_all (by rw [written]; decide +kernel),
    by rw [written]; decide +kernel, raised, ?_⟩
  rintro ⟨result, tabled⟩
  cases tabled.report.symm.trans raised

end Pass

end Upkeep
