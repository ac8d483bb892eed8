/-
Upkeep.Proofs.Requested — a request for deletion is not lost.

While a pass is at work on a resource, its deletion may be requested at any
pause. The pass reads the flag at several places, before and after pauses,
and goes on with what it has begun; but if the request arrives before the
connection is closed, the report says that the resource is gone or that
another pass is due. In any case the flag stays
(`Pass.request_lasts`): from then on no script of the resource is handed
over but the one for cleanup (`Spared`), and an application for its name is
refused (`Service.gives_apply_refused`).
-/
import Upkeep.Proofs.Brackets
import Upkeep.Proofs.Cleanup
import Upkeep.Proofs.Deletion

namespace Upkeep

open Upkeep.Act

variable {σ : Type}

/-! ## 1. The report of a pass -/

namespace Pass

variable {env : Surroundings σ} {C : Phase → Except Problem Execution → Prop}
  {D : Problem → Prop} {k : Nat} {ms : List Milestone} {r : Resource} {es : Journal}
  {o : Except Problem Report} {w w' : World σ}

/-- A report that is made after the request asks for another pass. -/
theorem Reported.requeue {action : Action} {verdict : Except Problem (Except Failure Unit)}
    (h : Reported k ms r action verdict es o w w') (asked : .requested k ∈ es) {report : Report}
    (returned : o = .ok report) : report.requeue = true := by
  rcases verdict with p | (why | _)
  · rw [h.1] at returned
    cases returned
  · obtain ⟨ho, since⟩ := h
    rw [ho] at returned
    cases returned
    exact requeue_of_deleting rfl (since.heeded asked)
  · obtain ⟨ho, since⟩ := h
    rw [ho] at returned
    cases returned
    exact requeue_of_deleting rfl (since.heeded asked)

/-- What was asked for before the connection was closed was asked for in the
session. -/
theorem Closed.asked {closing : Stage} {es₁ es₂ : Journal} {w₁ : World σ}
    (closed : Closed env closing es₂ w₁ w') (journal : es = es₁ ++ es₂)
    (early : es.Precedes (.requested k) (.event .disconnect)) : .requested k ∈ es₁ := by
  obtain ⟨rest, hrest⟩ := closed.first
  exact early es₁ rest (by rw [journal, hrest])

/-- If the request arrives before the connection is closed, the report says
that the resource is gone, or asks for another pass. -/
theorem Took.gone_or_requeue (took : Took env C D k r es o w w') (asked : .requested k ∈ es)
    (early : es.Precedes (.requested k) (.event .disconnect)) {report : Report}
    (returned : o = .ok report) : report.deleted = true ∨ report.requeue = true := by
  cases took with
  | completed report' _ _ ho deleted =>
    rw [ho] at returned
    cases returned
    exact Or.inl deleted
  | unopened why unready refused reported => exact Or.inr (reported.requeue asked returned)
  | unread p unready foreign refused raised =>
    rw [raised] at returned
    cases returned
  | synced results closing live came reported closed journal outcome =>
    rw [outcome] at returned
    exact Or.inr (reported.requeue (closed.asked journal early) (returned_of_closing returned))
  | cleared results closing unready _ came reported closed journal outcome =>
    rw [outcome] at returned
    rcases reported.cases with ⟨-, -, ⟨report', ho, deleted, -⟩, -⟩ | ⟨-, reported⟩
    · rw [returned_of_closing returned] at ho
      cases ho
      exact Or.inl deleted
    · exact Or.inr (reported.requeue (closed.asked journal early) (returned_of_closing returned))

end Pass

/-! ## 2. What is handed over afterwards -/

/-- From a sound store it is a run, and if incarnation `k` was being deleted
before, none of its scripts was handed over but the one for cleanup. -/
def Spared (k : Nat) (es : Journal) (w w' : World σ) : Prop :=
  w.store.Sound → Run (fun _ => True) es w w' ∧
    ((w.store.record k).deleting = true → ∀ p, (k, p) ∈ es.scripts → p = .cleanup)

namespace Spared

variable {k : Nat} {es es' : Journal} {w w' w'' : World σ}

theorem lasts : Lasts (σ := σ) (Spared k) where
  refl w _ := ⟨.refl w, fun _ _ handed => by cases handed⟩
  trans h h' sound := by
    obtain ⟨first, spared⟩ := h sound
    obtain ⟨second, spared'⟩ := h' (first.sound sound)
    refine ⟨first.trans second, fun deleting p handed => ?_⟩
    rw [Journal.scripts_append] at handed
    rcases List.mem_append.mp handed with before | now
    · exact spared deleting p before
    · exact spared' ((first.guarded k).deleting deleting) p now

/-- A run in which no script is handed over at all. -/
theorem of_silent (moves : Moves (fun _ => True) es w w') (silent : es.milestones = []) :
    Spared k es w w' := fun sound => by
  refine ⟨moves sound.lawful, fun _ p handed => ?_⟩
  rw [Journal.scripts, silent] at handed
  cases handed

end Spared

namespace Register

/-- Nothing about milestones is written. -/
def Silent (es : Journal) (_ _ : World σ) : Prop := es.milestones = []

theorem lasts_silent : Lasts (σ := σ) Silent where
  refl _ := rfl
  trans h h' := by
    unfold Silent
    rw [Journal.milestones_append, h, h']
    rfl

theorem silent_put (name : String) (credentials : Json) (bundle : Bundle) :
    (put name credentials bundle : Act σ Unit).Keeps Silent := by
  have lasts := lasts_silent (σ := σ)
  have changed (f : Store → Store) : (editStore f : Act σ Unit).Keeps Silent := fun _ =>
    gives_editStore rfl
  have said {level : Log.Level} {source text : String} :
      (log level source text : Act σ Unit).Keeps Silent := fun _ => gives_note rfl
  unfold put underLock
  refine Keeps.bind lasts (fun _ => gives_modifyGet rfl rfl) fun l => ?_
  refine (keeps_get lasts).bind lasts fun w => ?_
  split
  · exact keeps_raise lasts _
  · refine (changed _).bind lasts fun _ => Keeps.ensuring lasts ?_ (changed _)
    refine (keeps_get lasts).bind lasts fun w => ?_
    split
    · exact said.bind lasts fun _ => changed _
    · exact (changed _).bind lasts fun _ => said

end Register

namespace Pass

variable {env : Surroundings σ}

/-- A pass over another incarnation hands over none of its scripts, and a
pass over itself only the one for cleanup, if it is being deleted. -/
theorem keeps_run_spared (h : env.Unobtrusive) (name : String) (k : Nat) :
    (run env name).Keeps (Spared k) := by
  intro w
  have moves : (run env name).Gives w fun es _ w' => Moves (fun _ => True) es w w' :=
    keeps_run h name w
  by_cases sound : w.store.Sound
  · cases stored : w.store.find? name with
    | none =>
      refine (moves.and (Register.gives_underLock (Q := fun _ es _ _ => es.milestones = [])
        sound.idle fun w₁ same => ?_)).mono ?_
      · refine gives_get_bind ?_
        rw [same.find?, stored]
        exact gives_raise rfl
      · rintro es o w' ⟨moved, -, -, -, silent, -⟩
        exact .of_silent moved silent
    | some j =>
      refine (moves.and (takes_run_any h sound stored)).mono ?_
      rintro es o w' ⟨moved, w₁, w₂, -, ⟨time, took⟩, -⟩ -
      refine ⟨moved sound.lawful, fun deleting p handed => ?_⟩
      obtain ⟨rfl, only⟩ := took.scripts handed
      exact only deleting
  · exact moves.mono fun _ _ _ _ sound' => absurd sound' sound

end Pass

namespace Service

variable {env : Surroundings σ}

/-- Whatever is requested, an incarnation that is being deleted is spared. -/
theorem invariant_spared (h : env.Unobtrusive) (k : Nat) :
    Invariant env (fun _ => True) (Spared k) where
  lasts := Spared.lasts
  aside hx := .of_silent (.idle hx) hx.milestones
  readable _ _ := trivial
  put name credentials bundle _ w :=
    ((Register.keeps_put name credentials bundle trivial w).and
      (Register.silent_put name credentials bundle w)).mono fun _ _ _ ⟨moved, silent⟩ =>
        .of_silent moved silent
  remove name w :=
    ((Register.keeps_remove name w).and (Pass.gives_remove name w)).mono
      fun _ _ _ ⟨moved, _, silent, _⟩ => .of_silent moved silent
  lock _ _ := gives_modifyGet rfl (.of_silent (fun _ => .step (.lock _ rfl)) rfl)
  pass name := Pass.keeps_run_spared h name k

/-! ## 3. Applications that are refused -/

/-- The answer to an application for something that is being deleted: what
is wrong with the application itself comes first. -/
def refusal (depths : Json.Depths) (wish : Application) : Except Problem String := do
  let _ ← (Credentials.ofPayload (.value wish.credentials) depths).2
  let _ ← bundleOf wish depths
  return s!"Error: Script resource '{wish.name}' is being deleted"

/-- An application for something that is being deleted changes nothing and
asks no host. -/
theorem gives_apply_refused {wish : Application} {k : Nat} {w : World σ}
    (stored : w.store.find? wish.name = some k) (deleting : (w.store.record k).deleting = true) :
    (apply env wish).Gives w fun es o w' =>
      o = refusal env.depths wish ∧ w'.store = w.store ∧ es.events = [] ∧ es.milestones = [] := by
  unfold apply refusal
  dsimp only
  refine gives_bind (gives_logAll ?_)
  rcases (Credentials.ofPayload (.value wish.credentials) env.depths).2 with p | c
  · exact gives_bind (gives_raise ⟨rfl, rfl, by simp, by simp⟩)
  · refine gives_bind (gives_pure ?_)
    rcases bundleOf wish env.depths with p | bundle
    · exact gives_bind (gives_raise ⟨rfl, rfl, by simp, by simp⟩)
    · refine gives_bind (gives_pure (gives_get_bind ?_))
      rw [if_pos (by simp [Store.get?, stored, deleting])]
      exact gives_pure ⟨rfl, rfl, by simp, by simp⟩

end Service

/-! ## 4. Requests during a pass -/

namespace Pass

/-- A request for deletion that arrives during a pass is not lost, whatever
the host does and whatever else is requested. If it arrives before the
connection is closed, a report says that the resource is gone or asks for
another pass. Whether there is a report or not, the resource is gone or
still being deleted; and whatever is requested later, no script of it is
handed over but the one for cleanup, and no application for it changes
anything. -/
theorem request_lasts (env : Surroundings σ) (marks : Pause → World σ → List String)
    {w : World σ} {name : String} {k : Nat} (sound : w.store.Sound)
    (stored : w.store.find? name = some k) :
    (run (env.marking marks) name).Gives w fun es o w' => .requested k ∈ es →
      (es.Precedes (.requested k) (.event .disconnect) →
        ∀ report, o = .ok report → report.deleted = true ∨ report.requeue = true) ∧
      (w'.store.find? name = none ∨ w'.store.find? name = some k) ∧
      (w'.store.record k).deleting = true ∧
      ∀ requests, let w₁ := Service.serve (env.marking marks) w' requests
        (w₁.store.record k).deleting = true ∧
        (∃ later, w₁.journal = w'.journal ++ later ∧ ∀ p, (k, p) ∈ later.scripts → p = .cleanup) ∧
        (w₁.store.find? name = some k → ∀ wish : Application, wish.name = name →
          (Service.apply (env.marking marks) wish).Gives w₁ fun es' o' w₂ =>
            o' = Service.refusal env.depths wish ∧ w₂.store = w₁.store ∧ es'.events = [] ∧
              es'.milestones = []) := by
  have quiet := env.unobtrusive_marking marks
  obtain ⟨known, named⟩ := sound.known name k stored
  have moves : (run (env.marking marks) name).Gives w fun es _ w' =>
      Moves (fun _ => True) es w w' := keeps_run quiet name w
  refine (moves.and (takes_run_any quiet sound stored)).mono ?_
  rintro es o w' ⟨moved, w₁, w₂, before, ⟨time, took⟩, after⟩ asked
  have passed := moved sound.lawful
  have heeded := passed.heeded known asked
  refine ⟨fun early report returned => took.gone_or_requeue asked early returned, ?_, heeded,
    fun requests => ?_⟩
  · rw [after.find?]
    rcases took.gone_or_since with gone | ⟨_, _, since⟩
    · rw [← named]
      exact Or.inl gone
    · rw [since.find?, before.find?]
      exact Or.inr stored
  · intro w₃
    obtain ⟨later, hj, spared⟩ := Service.exists_serve (Service.invariant_spared quiet k) requests
      w' (Service.admits_any requests)
    obtain ⟨run', only⟩ := spared (passed.sound sound)
    have still := (run'.guarded k).deleting heeded
    refine ⟨still, ⟨later, hj, only heeded⟩, fun found wish hname => ?_⟩
    subst hname
    exact Service.gives_apply_refused found still

/-- The incarnation whose deletion an entry requests. -/
def asked? : Entry → Option Nat
  | .requested k => some k
  | .event _ | .log _ | .milestone _ => none

/-- A request among the entries up to the end of the connection comes before
it. -/
theorem precedes_of_asked {k : Nat} {j : Journal}
    (asked : k ∈ (j.takeWhile (·.role ≠ .closes .connection)).filterMap asked?) :
    .requested k ∈ j ∧ j.Precedes (.requested k) (.event .disconnect) := by
  obtain ⟨e, he, hk⟩ := List.mem_filterMap.mp asked
  cases e <;> cases hk
  refine ⟨(List.takeWhile_sublist _).subset he, fun before => ?_⟩
  clear asked
  induction before generalizing j with
  | nil =>
    rintro rest rfl
    simp [Entry.role, Event.role] at he
  | cons e before ih =>
    rintro rest rfl
    rw [List.cons_append, List.takeWhile_cons] at he
    split at he
    · rcases List.mem_cons.mp he with rfl | later
      · exact List.mem_cons_self ..
      · exact List.mem_cons_of_mem _ (ih later rest rfl)
    · cases he

/-- The deletion is requested while the status check runs; the resource is
created nevertheless, and another pass is due. -/
theorem request_lasts_running :
    let marks (pause : Pause) (_ : World (List Int)) : List String :=
      if pause = .running then ["web"] else []
    let env := Host.obliging.counted.marking marks
    let w := Service.serve env (Service.start [100])
      [.put "web" Credentials.sample
        { statusCheck := .text "test -d /srv", init := .text "mkdir /srv" }]
    w.store.Sound ∧ w.store.find? "web" = some 0 ∧ (w.store.record 0).deleting = false ∧
    (run env "web").Gives w fun es o w' => .requested 0 ∈ es ∧
      es.Precedes (.requested 0) (.event .disconnect) ∧
      (∃ report, o = .ok report ∧ report.deleted = false ∧ report.requeue = true) ∧
      (w'.store.record 0).deleting = true := by
  intro marks env w
  have sound : w.store.Sound :=
    Service.sound_serve (Host.obliging.counted.unobtrusive_marking marks) _ _
  have stored : w.store.find? "web" = some 0 := by decide +kernel
  refine ⟨sound, stored, by decide +kernel, ?_⟩
  obtain ⟨es, hj, lasts⟩ := request_lasts Host.obliging.counted marks sound stored
  have written := Act.eq_drop_of_added hj
  obtain ⟨asked, before⟩ : .requested 0 ∈ es ∧ es.Precedes (.requested 0) (.event .disconnect) := by
    refine precedes_of_asked ?_
    rw [written]
    decide +kernel
  obtain ⟨pending, -, deleting, -⟩ := lasts asked
  have left : (((run env "web").runOn w).1.map Report.deleted).toOption = some false := by
    decide +kernel
  refine ⟨es, hj, asked, before, ?_, deleting⟩
  rcases ho : ((run env "web").runOn w).1 with p | report
  · rw [ho] at left
    cases left
  · rw [ho] at left
    have notDeleted : report.deleted = false := Option.some.inj left
    exact ⟨report, rfl, notDeleted, (pending before report ho).resolve_left (by simp [notDeleted])⟩

end Pass

end Upkeep
