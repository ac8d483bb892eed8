/-
Upkeep.Proofs.Gathering — a sweep keeps its passes apart.

A sweep starts one pass for each name in use, in order, and takes up what
the passes come to in the same order. Passes wait for hosts, and while one
waits the others go on. `Task` is a pass as the one sees it who resumes it:
it has come to an outcome, or it waits. `Gathers` is every way in which the
passes of a sweep can be served, with other tasks in between; nothing is
assumed of what a pass does to the state or how it ends. `Gathers.aligned`
says that each outcome stays with the name of its pass.

When no pass waits, there is one way only, and the sweep does to the state
what one pass after another does (`Sweep.runOn_run`). What is left to do with
the outcomes raises nothing, so the poll loop goes on whatever they are.
-/
import Mathlib.Data.List.Forall2
import Upkeep.Sweep
import Upkeep.Proofs.Bounds
import Upkeep.Proofs.Performing

namespace Upkeep

open Upkeep.Act

variable {σ : Type}

/-! ## 1. Passes that wait -/

/-- A pass that is under way: it has come to an outcome, or it waits until it
is resumed, does something to the state and goes on. -/
inductive Task (σ : Type)
  | ended (outcome : Except Problem Report)
  | waiting (act : World σ → World σ) (next : World σ → Task σ)

/-- The pass comes to the outcome if it is resumed in suitable states. -/
inductive Task.Reaches : Task σ → Except Problem Report → Prop
  | ended (outcome : Except Problem Report) : Reaches (.ended outcome) outcome
  | resumed {act : World σ → World σ} {next : World σ → Task σ}
      {outcome : Except Problem Report} (w : World σ) (h : Reaches (next w) outcome) :
      Reaches (.waiting act next) outcome

/-- What has ended comes to nothing else. -/
theorem Task.Reaches.eq_of_ended {a b : Except Problem Report}
    (h : (Task.ended a : Task σ).Reaches b) : b = a := by
  cases h
  rfl

/-- The passes of a sweep are served until all have ended: `pool` has been
started, `names` is still to be started, and `starts` says in which states
that happens. Any pass that waits may be resumed at any time, and other tasks
may do what `others` allows. -/
inductive Gathers (pass : String → World σ → World σ × Task σ)
    (others : World σ → World σ → Prop) : (pool : List (String × Task σ)) →
    (names : List String) → World σ → (starts : List (String × World σ)) →
    (outcomes : List (String × Except Problem Report)) → World σ → Prop
  | done (outcomes : List (String × Except Problem Report)) (w : World σ) :
      Gathers pass others (outcomes.map fun e => (e.1, .ended e.2)) [] w [] outcomes w
  | start {pool : List (String × Task σ)} {name : String} {names : List String}
      {w w' : World σ} {starts : List (String × World σ)}
      {outcomes : List (String × Except Problem Report)}
      (h : Gathers pass others (pool ++ [(name, (pass name w).2)]) names (pass name w).1 starts
        outcomes w') :
      Gathers pass others pool (name :: names) w ((name, w) :: starts) outcomes w'
  | resume {before after : List (String × Task σ)} {name : String} {act : World σ → World σ}
      {next : World σ → Task σ} {names : List String} {w w' : World σ}
      {starts : List (String × World σ)} {outcomes : List (String × Except Problem Report)}
      (h : Gathers pass others (before ++ (name, next w) :: after) names (act w) starts
        outcomes w') :
      Gathers pass others (before ++ (name, .waiting act next) :: after) names w starts outcomes w'
  | aside {pool : List (String × Task σ)} {names : List String} {w w₁ w' : World σ}
      {starts : List (String × World σ)} {outcomes : List (String × Except Problem Report)}
      (other : others w w₁) (h : Gathers pass others pool names w₁ starts outcomes w') :
      Gathers pass others pool names w starts outcomes w'

/-- The outcome is one of this pass, and it has its name. -/
def Owns (task : String × Task σ) (outcome : String × Except Problem Report) : Prop :=
  task.1 = outcome.1 ∧ task.2.Reaches outcome.2

/-- Whatever belongs to a pass that was resumed belonged to it before. -/
theorem owns_resume {name : String} {act : World σ → World σ} {next : World σ → Task σ}
    {w : World σ} {after : List (String × Task σ)} :
    ∀ {before : List (String × Task σ)} {outcomes : List (String × Except Problem Report)},
      List.Forall₂ Owns (before ++ (name, next w) :: after) outcomes →
      List.Forall₂ Owns (before ++ (name, .waiting act next) :: after) outcomes
  | [], _, .cons own rest => .cons ⟨own.1, .resumed w own.2⟩ rest
  | _ :: _, _, .cons own rest => .cons own (owns_resume rest)

namespace Gathers

variable {pass : String → World σ → World σ × Task σ} {others : World σ → World σ → Prop}
  {pool : List (String × Task σ)} {names : List String} {w w' : World σ}
  {starts : List (String × World σ)} {outcomes : List (String × Except Problem Report)}

/-- Every name is started once, in order. -/
theorem started (h : Gathers pass others pool names w starts outcomes w') :
    starts.map Prod.fst = names := by
  induction h with
  | done => rfl
  | start _ ih => exact congrArg _ ih
  | resume _ ih => exact ih
  | aside _ _ ih => exact ih

/-- Each pass has one outcome, in the order in which the passes were
started. -/
theorem aligned (h : Gathers pass others pool names w starts outcomes w') :
    List.Forall₂ Owns (pool ++ starts.map fun s => (s.1, (pass s.1 s.2).2)) outcomes := by
  induction h with
  | done outcomes w =>
    rw [List.map_nil, List.append_nil, List.forall₂_map_left_iff, List.forall₂_same]
    exact fun e _ => ⟨rfl, .ended e.2⟩
  | start _ ih =>
    rw [List.append_assoc] at ih
    exact ih
  | resume _ ih =>
    rw [List.append_assoc] at ih ⊢
    exact owns_resume ih
  | aside _ _ ih => exact ih

/-- There is a way to serve the passes: each is resumed until it has ended
before the next one is started. -/
theorem exists_gathers : ∀ (names : List String) (past : List (String × Except Problem Report))
    (w : World σ), ∃ starts outcomes w',
      Gathers pass others (past.map fun e => (e.1, .ended e.2)) names w starts outcomes w'
  | [], past, w => ⟨_, _, _, .done past w⟩
  | name :: rest, past, w => by
    have served (task : Task σ) : ∀ w, ∃ starts outcomes w', Gathers pass others
        (past.map (fun e => (e.1, .ended e.2)) ++ [(name, task)]) rest w starts outcomes w' := by
      induction task with
      | ended outcome =>
        intro w
        have later := exists_gathers rest (past ++ [(name, outcome)]) w
        rw [List.map_append] at later
        exact later
      | waiting act next ih =>
        intro w
        obtain ⟨starts, outcomes, w', h⟩ := ih w (act w)
        exact ⟨starts, outcomes, w', .resume h⟩
    obtain ⟨starts, outcomes, w', h⟩ := served (pass name w).2 (pass name w).1
    exact ⟨_, outcomes, w', .start h⟩

end Gathers

namespace Sweep

variable {env : Surroundings σ}

/-! ## 2. What is made of the outcomes -/

/-- The reports among the outcomes. -/
def reports (outcomes : List (String × Except Problem Report)) : List Report :=
  outcomes.filterMap fun e => e.2.toOption

/-- What is logged about an outcome that is no report. -/
def complaint? : String × Except Problem Report → Option Log.Record
  | (_, .ok _) => none
  | (name, .error p) =>
    if p.isUnknownName then none
    else some ⟨.error, Log.Source.pass, s!"[{name}] Unexpected reconcile error: {p.text}"⟩

/-- What is logged about reports that ask for another pass. -/
def reminder (reports : List Report) : List Log.Record :=
  let pending := (reports.filter Report.requeue).map Report.name
  if pending.isEmpty then []
  else
    let listed := ", ".intercalate pending
    [⟨.info, Log.Source.pass, s!"Resources pending another pass: {listed}"⟩]

/-- Everything that is logged about the outcomes. -/
def remarks (outcomes : List (String × Except Problem Report)) : List Log.Record :=
  outcomes.filterMap complaint? ++ reminder (reports outcomes)

/-- The state with some more log records. -/
def logged (w : World σ) (records : List Log.Record) : World σ :=
  { w with journal := w.journal ++ records.map Entry.log }

theorem logged_nil (w : World σ) : logged w [] = w := by
  simp [logged]

theorem logged_logged (w : World σ) (a b : List Log.Record) :
    logged (logged w a) b = logged w (a ++ b) := by
  simp [logged]

/-- The end of a sweep. -/
def conclude (outcomes : List (String × Except Problem Report)) : Act σ (List Report) := do
  let reports ← collect outcomes
  let pending := (reports.filter Report.requeue).map Report.name
  if !pending.isEmpty then
    let listed := ", ".intercalate pending
    Pass.say .info s!"Resources pending another pass: {listed}"
  return reports

/-- Outcomes that are no reports are logged, and nothing is raised. -/
theorem runOn_collect : ∀ (outcomes : List (String × Except Problem Report)) (w : World σ),
    (collect outcomes).runOn w =
      (.ok (reports outcomes), logged w (outcomes.filterMap complaint?))
  | [], w => by rw [List.filterMap_nil, logged_nil]; rfl
  | (name, .ok report) :: rest, w => by
    unfold collect
    rw [runOn_bind, runOn_collect rest w]
    rfl
  | (name, .error p) :: rest, w => by
    unfold collect
    rw [List.filterMap_cons, complaint?]
    cases p.isUnknownName with
    | true => exact runOn_collect rest w
    | false =>
      have later := runOn_collect rest (logged w
        [⟨.error, Log.Source.pass, s!"[{name}] Unexpected reconcile error: {p.text}"⟩])
      rw [logged_logged] at later
      exact later

/-- Whatever the outcomes are, the reports among them are returned, and
nothing changes but the log. -/
theorem runOn_conclude (outcomes : List (String × Except Problem Report)) (w : World σ) :
    (conclude outcomes).runOn w = (.ok (reports outcomes), logged w (remarks outcomes)) := by
  unfold conclude
  rw [runOn_bind, runOn_collect, remarks, ← logged_logged, reminder]
  dsimp only
  cases ((reports outcomes).filter Report.requeue).map Report.name with
  | nil => exact congrArg (Prod.mk _) (logged_nil _).symm
  | cons first rest => rfl

/-! ## 3. Passes that do not wait -/

/-- A pass that is not interrupted. -/
def uninterrupted (env : Surroundings σ) (name : String) (w : World σ) : World σ × Task σ :=
  let (outcome, w') := (Pass.run env name).runOn w
  (w', .ended outcome)

/-- The state after the pass over a name, however it ends. -/
def after (env : Surroundings σ) (w : World σ) (name : String) : World σ :=
  ((Pass.run env name).runOn w).2

/-- The names, each with the state after the passes over those before. -/
def visits (env : Surroundings σ) (w : World σ) : List String → List (String × World σ)
  | [] => []
  | name :: rest => (name, w) :: visits env (after env w name) rest

/-- What a pass comes to that begins in the given state. -/
def outcomeOf (env : Surroundings σ) (visit : String × World σ) :
    String × Except Problem Report :=
  (visit.1, ((Pass.run env visit.1).runOn visit.2).1)

theorem runOn_passes : ∀ (names : List String) (w : World σ),
    (passes env names).runOn w =
      (.ok ((visits env w names).map (outcomeOf env)), names.foldl (after env) w)
  | [], w => rfl
  | name :: rest, w => by
    unfold passes
    rw [runOn_bind]
    show (do
      let others ← passes env rest
      return (name, ((Pass.run env name).runOn w).1) :: others).runOn (after env w name) = _
    rw [runOn_bind, runOn_passes rest]
    rfl

/-- A sweep is the passes over the names in use, and then its end. -/
theorem run_eq_conclude (env : Surroundings σ) (w : World σ) :
    (run env).runOn w = (passes env w.store.names >>= conclude).runOn w := by
  show (if w.store.names.isEmpty then (pure [] : Act σ (List Report))
    else passes env w.store.names >>= conclude).runOn w = _
  cases w.store.names with
  | nil => rfl
  | cons first rest => rfl

theorem runOn_run (env : Surroundings σ) (w : World σ) :
    (run env).runOn w =
      let outcomes := (visits env w w.store.names).map (outcomeOf env)
      (.ok (reports outcomes),
        logged (w.store.names.foldl (after env) w) (remarks outcomes)) := by
  rw [run_eq_conclude, runOn_bind, runOn_passes]
  exact runOn_conclude _ _

/-- When no pass waits, the passes can be served one after another. -/
theorem gathers_uninterrupted (others : World σ → World σ → Prop) :
    ∀ (names : List String) (past : List (String × Except Problem Report)) (w : World σ),
      Gathers (uninterrupted env) others (past.map fun e => (e.1, .ended e.2)) names w
        (visits env w names) (past ++ (visits env w names).map (outcomeOf env))
        (names.foldl (after env) w)
  | [], past, w => by
    rw [visits, List.map_nil, List.append_nil]
    exact .done past w
  | name :: rest, past, w => by
    refine .start ?_
    have later := gathers_uninterrupted others rest
      (past ++ [outcomeOf env (name, w)]) (after env w name)
    rw [List.map_append, List.append_assoc] at later
    exact later

/-- When no pass waits and no other task does anything, there is no other
way. -/
theorem eq_of_gathers {pool : List (String × Task σ)} {names : List String} {w w' : World σ}
    {starts : List (String × World σ)} {outcomes : List (String × Except Problem Report)}
    (h : Gathers (uninterrupted env) (fun _ _ => False) pool names w starts outcomes w')
    (ended : ∀ e ∈ pool, ∃ outcome, e.2 = .ended outcome) :
    starts = visits env w names ∧ w' = names.foldl (after env) w := by
  induction h with
  | done => exact ⟨rfl, rfl⟩
  | @start pool name names w w' starts outcomes _ ih =>
    obtain ⟨rfl, rfl⟩ := ih fun e he => by
      rcases List.mem_append.mp he with old | new
      · exact ended e old
      · rw [List.mem_singleton.mp new]
        exact ⟨_, rfl⟩
    exact ⟨rfl, rfl⟩
  | resume _ _ =>
    obtain ⟨_, waits⟩ := ended _ (List.mem_append_right _ (List.mem_cons_self ..))
    cases waits
  | aside other _ _ => exact other.elim

/-- What passes come to that do not wait. -/
theorem outcomes_of_owned {starts : List (String × World σ)}
    {outcomes : List (String × Except Problem Report)}
    (owned : List.Forall₂ Owns (starts.map fun s => (s.1, (uninterrupted env s.1 s.2).2))
      outcomes) : outcomes = starts.map (outcomeOf env) := by
  rw [List.forall₂_map_left_iff] at owned
  induction owned with
  | nil => rfl
  | @cons start outcome _ _ own _ ih =>
    obtain ⟨name, reached⟩ := own
    have came : outcome = outcomeOf env start := Prod.ext name.symm reached.eq_of_ended
    rw [List.map_cons, came, ih]

/-! ## 4. The poll loop -/

/-- Whether the poll loop runs is as before. -/
def SamePolling (_ : Journal) (w w' : World σ) : Prop := w'.polling = w.polling

theorem lasts_samePolling : Lasts (σ := σ) SamePolling where
  refl _ := rfl
  trans h h' := Eq.trans h' h

theorem sessionBounds_samePolling (keeps : ∀ pause, (env.meanwhile pause).Keeps SamePolling)
    (name : String) (k : Nat) : Pass.SessionBounds env name k SamePolling where
  lasts := lasts_samePolling
  beside _ _ _ _ := rfl
  aside _ _ := rfl
  pause := keeps
  milestone _ _ := rfl
  edit _ _ := rfl
  forget _ h := h
  observe _ _ := rfl

/-- No pass ends the poll loop. -/
theorem polling_after (keeps : ∀ pause, (env.meanwhile pause).Keeps SamePolling) (w : World σ)
    (name : String) : (after env w name).polling = w.polling := by
  have kept : (Pass.run env name).Gives w fun es _ w' => SamePolling es w w' :=
    Pass.gives_run_of_body lasts_samePolling (fun _ _ _ => rfl) fun k _ =>
      (sessionBounds_samePolling keeps name k).joined.keeps_body
  obtain ⟨_, _, same⟩ := kept
  exact same

theorem polling_run (keeps : ∀ pause, (env.meanwhile pause).Keeps SamePolling) (w : World σ) :
    ((run env).runOn w).2.polling = w.polling := by
  have folded : ∀ (names : List String) (w : World σ),
      (names.foldl (after env) w).polling = w.polling := by
    intro names
    induction names with
    | nil => exact fun _ => rfl
    | cons name rest ih => exact fun w => (ih _).trans (polling_after keeps w name)
  rw [runOn_run]
  exact folded _ w

/-- The poll loop makes a sweep, goes to sleep and wakes up again. -/
theorem runOn_tick_succ {w : World σ} {every : Decimal.Number} (polls : w.polling = some every)
    (count : Nat) : (tick env (count + 1)).runOn w =
      (tick env count).runOn (((run env).runOn w).2.note (.event (.pollSleep every))) := by
  simp only [tick, runOn_get_bind, polls]
  rw [runOn_bind, runOn_run]
  rfl

theorem runOn_tick_ok : ∀ (count : Nat) (w : World σ), ((tick env count).runOn w).1 = .ok ()
  | 0, _ => rfl
  | count + 1, w => by
    cases polls : w.polling with
    | none =>
      simp only [tick, runOn_get_bind, polls]
      rfl
    | some every =>
      rw [runOn_tick_succ polls]
      exact runOn_tick_ok count _

theorem polling_tick (keeps : ∀ pause, (env.meanwhile pause).Keeps SamePolling)
    {every : Decimal.Number} : ∀ (count : Nat) {w : World σ}, w.polling = some every →
      ((tick env count).runOn w).2.polling = some every
  | 0, _, polls => polls
  | count + 1, w, polls => by
    rw [runOn_tick_succ polls]
    exact polling_tick keeps count ((polling_run keeps w).trans polls)

end Sweep

/-! ## 5. Names in use -/

namespace Directory

theorem nodup_unbind {d : Directory} (h : d.names.Nodup) (name : String) :
    (d.unbind name).names.Nodup :=
  h.sublist (List.filter_sublist.map _)

theorem nodup_bind {d : Directory} (h : d.names.Nodup) (name : String) (k : Nat) :
    (d.bind name k).names.Nodup := by
  rw [bind, names, List.map_append, List.nodup_append]
  refine ⟨nodup_unbind h name, List.nodup_cons.mpr ⟨List.not_mem_nil, .nil⟩, ?_⟩
  rintro a ha b hb rfl
  obtain ⟨e, he, same⟩ := List.mem_map.mp ha
  simp [unbind, same, List.mem_singleton.mp hb] at he

theorem mem_names_iff (name : String) : ∀ d : Directory, name ∈ d.names ↔ (find? name d).isSome
  | [] => by simp [names, find?]
  | (n, k) :: rest => by
    have ih := mem_names_iff name rest
    unfold names at ih
    by_cases h : n = name
    · simp [names, find?, h]
    · simp [names, find?, h, Ne.symm h, ih]

end Directory

/-- No name is bound twice. -/
def Store.Distinct (s : Store) : Prop := s.current.names.Nodup

theorem Exchange.distinct {ms : List Milestone} {es : Journal} {w w' : World σ}
    (h : Exchange ms es w w') (hw : w.store.Distinct) : w'.store.Distinct := by
  rw [h.store]
  exact hw

theorem Step.distinct {P : Json → Prop} {es : Journal} {w w' : World σ} (h : Step P es w w')
    (hw : w.store.Distinct) : w'.store.Distinct := by
  cases h with
  | exchange h _ => exact h.distinct hw
  | edit _ _ _ store => rw [store]; exact hw
  | replace _ _ _ _ store => rw [store]; exact hw
  | giveUp _ _ store => rw [store]; exact hw
  | cleanup _ _ _ _ marked h => exact h.distinct (by rw [marked]; exact hw)
  | register r _ _ _ _ store => rw [store]; exact Directory.nodup_bind hw r.name _
  | remove name store => rw [store]; exact Directory.nodup_unbind hw name
  | lock name store =>
    rw [store, Store.lock]
    split <;> exact hw

theorem Run.distinct {P : Json → Prop} {es : Journal} {w w' : World σ} (h : Run P es w w')
    (hw : w.store.Distinct) : w'.store.Distinct := by
  induction h with
  | refl w => exact hw
  | step h => exact h.distinct hw
  | trans _ _ ih ih' => exact ih' (ih hw)
  | holding l _ taken _ given ih =>
    rw [given]
    exact ih (by rw [taken]; exact hw)

/-- Whatever is requested of the service, no name is bound twice. -/
theorem Service.distinct_serve {env : Surroundings σ} (h : env.Unobtrusive) (host : σ)
    (requests : List Request) : (serve env (start host) requests).store.Distinct := by
  obtain ⟨_, _, run⟩ := exists_run_serve (w := start host) h Store.sound_empty.lawful requests
  exact run.distinct .nil

/-! ## 6. Sweeps -/

namespace Sweep

/-- A sweep keeps its passes apart, whatever they do and however they end.

The names in use are taken once, in order. However the passes are served,
and whatever is done in between: one pass is started for each name, in that
order, and none for another name; each has one outcome, which stays with its
name; and the reports among the outcomes are returned in that order, which
raises nothing and changes nothing but the log.

When no pass waits, there is one way to serve them, and what a sweep does is
what the passes do one after another, but for the log.

No outcome ends the poll loop: waking up raises nothing, and after every
sweep the loop goes to sleep and wakes up again, unless another task has
stopped it. -/
theorem run_isolates (env : Surroundings σ) {w : World σ} (distinct : w.store.Distinct) :
    (w.store.names.Pairwise (Text.nameLe · ·) ∧ w.store.names.Nodup ∧
      ∀ name, name ∈ w.store.names ↔ (w.store.find? name).isSome) ∧
    (∀ pass others,
      (∃ starts outcomes w', Gathers pass others [] w.store.names w starts outcomes w') ∧
      ∀ starts outcomes w', Gathers pass others [] w.store.names w starts outcomes w' →
        starts.map Prod.fst = w.store.names ∧
        List.Forall₂ (fun s e => s.1 = e.1 ∧ (pass s.1 s.2).2.Reaches e.2) starts outcomes ∧
        (conclude outcomes).runOn w' =
          (.ok (reports outcomes), logged w' (remarks outcomes))) ∧
    ((run env).runOn w = (passes env w.store.names >>= conclude).runOn w ∧
      ∃ starts outcomes w',
        Gathers (uninterrupted env) (fun _ _ => False) [] w.store.names w starts outcomes w' ∧
        (∀ starts₁ outcomes₁ w₁,
          Gathers (uninterrupted env) (fun _ _ => False) [] w.store.names w starts₁ outcomes₁ w₁ →
            starts₁ = starts ∧ outcomes₁ = outcomes ∧ w₁ = w') ∧
        outcomes = starts.map (fun s => (s.1, ((Pass.run env s.1).runOn s.2).1)) ∧
        w' = w.store.names.foldl (fun w name => ((Pass.run env name).runOn w).2) w ∧
        (run env).runOn w = (.ok (reports outcomes), logged w' (remarks outcomes))) ∧
    (∀ count, ((tick env count).runOn w).1 = .ok ()) ∧
    (∀ every, w.polling = some every →
      (∀ count, (tick env (count + 1)).runOn w =
        (tick env count).runOn (((run env).runOn w).2.note (.event (.pollSleep every)))) ∧
      ((∀ pause, (env.meanwhile pause).Keeps SamePolling) →
        ∀ count, ((tick env count).runOn w).2.polling = some every)) := by
  have perm := Text.perm_sortNames w.store.current.names
  refine ⟨⟨Text.pairwise_sortNames _, perm.nodup_iff.mpr distinct, fun name => ?_⟩, ?_, ?_,
    fun count => runOn_tick_ok count w, fun every polls => ⟨fun count => runOn_tick_succ polls count,
      fun keeps count => polling_tick keeps count polls⟩⟩
  · exact perm.mem_iff.trans (Directory.mem_names_iff name _)
  · intro pass others
    refine ⟨Gathers.exists_gathers w.store.names [] w, fun starts outcomes w' h => ?_⟩
    have owned := h.aligned
    rw [List.nil_append, List.forall₂_map_left_iff] at owned
    exact ⟨h.started, owned, runOn_conclude outcomes w'⟩
  · refine ⟨run_eq_conclude env w, _, _, _, gathers_uninterrupted _ w.store.names [] w, ?_, rfl, rfl,
      runOn_run env w⟩
    intro starts₁ outcomes₁ w₁ h
    obtain ⟨rfl, rfl⟩ := eq_of_gathers h fun _ he => by cases he
    exact ⟨rfl, outcomes_of_owned h.aligned, rfl⟩

/-- The first pass raises what is no failure; the second one makes its
report, and the poll loop goes on. -/
theorem run_isolates_raised :
    let host : Host (List Int) := { Host.obliging with
      connect := fun _ s =>
        if s = [7] then (.error (.fault ⟨.runtime, "broken"⟩), []) else (.ok (), s) }
    let env := host.counted
    let w := Service.serve env (Service.start [7])
      [.put "web" Credentials.sample {}, .put "db" Credentials.sample {}, .startPolling none]
    w.store.Distinct ∧ w.store.names = ["db", "web"] ∧
      ((Pass.run env "db").runOn w).1.isOk = false ∧
      (∃ reports, ((run env).runOn w).1 = .ok reports ∧ reports.map Report.name = ["web"]) ∧
      ∃ every, w.polling = some every ∧ ((tick env 2).runOn w).2.polling = some every := by
  intro host env w
  have quiet : env.Unobtrusive := fun _ w => gives_pure ⟨rfl, Exchange.lasts.refl w⟩
  have distinct : w.store.Distinct := Service.distinct_serve quiet _ _
  obtain ⟨-, -, -, -, polling⟩ := run_isolates env distinct
  have polls : w.polling.isSome = true := by decide +kernel
  obtain ⟨every, hevery⟩ := Option.isSome_iff_exists.mp polls
  have goesOn := (polling every hevery).2 (fun _ => keeps_pure lasts_samePolling ()) 2
  have told : (((run env).runOn w).1.map fun rs => rs.map Report.name).toOption = some ["web"] := by
    decide +kernel
  refine ⟨distinct, by decide +kernel, by decide +kernel, ?_, every, hevery, goesOn⟩
  rcases ho : ((run env).runOn w).1 with p | reports
  · rw [ho] at told
    cases told
  · rw [ho] at told
    exact ⟨reports, rfl, Option.some.inj told⟩

end Sweep

end Upkeep
