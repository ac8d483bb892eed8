/-
Upkeep.Proofs.Upshot — what a pass comes to, as a function of the results of
its scripts.

Which scripts a pass hands over, what it observes and what it reports hang
on the bundle, on what was observed before and on the results of the scripts
alone: `Pass.upshot` computes them without any act. `Pass.gives_sync` says
that the pass does what its upshot says, and `Pass.gives_delete` says the
same of the pass that clears a resource away.

Requests for deletion may arrive meanwhile, and they touch nothing but the
one flag. `Since` keeps account of that along a pass: the record is the one
that is expected, but for the flag, and the flag is as it was unless a
request has arrived, in which case it is set.
-/
import Upkeep.Proofs.Performing

namespace Upkeep

open Upkeep.Act

variable {σ : Type}

/-! ## 1. Along a pass -/

/-- The record with the request for its deletion made or not. -/
def Resource.flagged (r : Resource) (d : Bool) : Resource := { r with deleting := d }

namespace Resource

variable (r : Resource) (d : Bool)

@[simp] theorem flagged_name : (r.flagged d).name = r.name := rfl

@[simp] theorem flagged_bundle : (r.flagged d).bundle = r.bundle := rfl

@[simp] theorem flagged_observation : (r.flagged d).observation = r.observation := rfl

theorem flagged_self : r.flagged r.deleting = r := rfl

end Resource

/-- From `w` on, the milestones `ms` were passed, the names stayed with
their incarnations, and the record of `k` has become `r`, but for the
request for its deletion, which may have arrived. -/
structure Since (k : Nat) (ms : List Milestone) (r : Resource) (es : Journal) (w w' : World σ) :
    Prop where
  milestones : es.milestones = ms
  find? : ∀ name, w'.store.find? name = w.store.find? name
  known : k < w'.store.records.length
  record : w'.store.record k = r.flagged (w'.store.record k).deleting
  deleting : (w'.store.record k).deleting = (w.store.record k).deleting ∨ .requested k ∈ es
  stays : (w.store.record k).deleting = true → (w'.store.record k).deleting = true
  heeded : .requested k ∈ es → (w'.store.record k).deleting = true

namespace Since

variable {k : Nat} {ms ms' : List Milestone} {r : Resource} {es es' : Journal}
  {w w' w'' : World σ}

theorem refl {k : Nat} {w : World σ} (known : k < w.store.records.length) :
    Since k [] (w.store.record k) [] w w where
  milestones := rfl
  find? _ := rfl
  known := known
  record := rfl
  deleting := Or.inl rfl
  stays := id
  heeded := nofun

theorem exchange (h : Since k ms r es w w') (hx : Exchange ms' es' w' w'') :
    Since k (ms ++ ms') r (es ++ es') w w'' where
  milestones := by rw [Journal.milestones_append, h.milestones, hx.milestones]
  find? name := by rw [hx.find?, h.find?]
  known := by rw [hx.length]; exact h.known
  record := by
    rcases hx.record k with same | ⟨-, set⟩
    · rw [same]
      exact h.record
    · rw [set, h.record]
      rfl
  deleting := by
    rcases hx.record k with same | ⟨asked, -⟩
    · rw [same]
      exact h.deleting.imp_right (List.mem_append_left _)
    · exact Or.inr (List.mem_append_right _ asked)
  stays asked := by
    rw [hx.record_of_deleting (h.stays asked)]
    exact h.stays asked
  heeded asked := by
    rcases List.mem_append.mp asked with before | now
    · rw [hx.record_of_deleting (h.heeded before)]
      exact h.heeded before
    · exact hx.heeded k now h.known

/-- What the flag is expected to be does not matter. -/
theorem congr {d : Bool} (h : Since k ms (r.flagged d) es w w') :
    Since k ms r es w w' :=
  { h with record := h.record }

/-- An edit that leaves the flag alone is made to the record as it is. -/
theorem overwrite (h : Since k ms r es w w') {f : Resource → Resource}
    (kept : ∀ r, (f r).deleting = r.deleting) :
    Since k ms (f (w'.store.record k)) es w { w' with store := w'.store.edit k f } where
  milestones := h.milestones
  find? := h.find?
  known := by rw [Store.length_edit]; exact h.known
  record := by rw [Store.record_edit_self h.known, Resource.flagged_self]
  deleting := by
    rw [Store.record_edit_self h.known, kept]
    exact h.deleting
  stays asked := by
    rw [Store.record_edit_self h.known, kept]
    exact h.stays asked
  heeded asked := by
    rw [Store.record_edit_self h.known, kept]
    exact h.heeded asked

/-- An edit that has nothing to do with the flag is made to the record that
is expected. -/
theorem edit (h : Since k ms r es w w') {f : Resource → Resource}
    (aside : ∀ r d, f (r.flagged d) = (f r).flagged d) :
    Since k ms (f r) es w { w' with store := w'.store.edit k f } := by
  have kept (r : Resource) : (f r).deleting = r.deleting := by
    have hf := congrArg Resource.deleting (aside r r.deleting)
    exact hf
  have written := h.overwrite kept
  rw [h.record, aside] at written
  exact written.congr

/-- The record, with the flag spelled out. -/
theorem exists_record (h : Since k ms r es w w') :
    ∃ d, w'.store.record k = r.flagged d := ⟨_, h.record⟩

end Since

namespace Pass

/-! ## 2. Endings -/

/-- How a pass ends: with a problem; well, and then the record says so; or
with a failure, and then the record says that. -/
def Reported (k : Nat) (ms : List Milestone) (r : Resource) (action : Action)
    (verdict : Except Problem (Except Failure Unit)) (es : Journal) (o : Except Problem Report)
    (w w' : World σ) : Prop :=
  match verdict with
  | .error p => o = .error p ∧ Since k ms r es w w'
  | .ok (.ok ()) =>
    o = .ok {
      name := r.name
      action := action
      readiness := r.observation.readiness
      deleting := (w'.store.record k).deleting } ∧
    Since k ms { r with lastAction := action, lastError := none } es w w'
  | .ok (.error why) =>
    o = .ok {
      name := r.name
      action := action
      readiness := readinessAfter action why (r.flagged (w'.store.record k).deleting)
      deleting := (w'.store.record k).deleting
      failure := some why } ∧
    Since k ms (failed action why (r.flagged (w'.store.record k).deleting)) es w w'

variable {k : Nat} {ms : List Milestone} {r : Resource} {es : Journal} {w w' w₁ : World σ}

/-- However a pass ends, account is kept of the record until then. -/
theorem Reported.exists_since {action : Action} {verdict : Except Problem (Except Failure Unit)}
    {o : Except Problem Report} (h : Reported k ms r action verdict es o w w') :
    ∃ r', Since k ms r' es w w' := by
  rcases verdict with p | (why | _)
  · exact ⟨_, h.2⟩
  · exact ⟨_, h.2⟩
  · exact ⟨_, h.2⟩

theorem Reported.milestones {action : Action} {verdict : Except Problem (Except Failure Unit)}
    {o : Except Problem Report} (h : Reported k ms r action verdict es o w w') :
    es.milestones = ms := by
  obtain ⟨_, since⟩ := h.exists_since
  exact since.milestones

/-- What is found of a resource after a pass over it has failed. -/
theorem failed_found {action : Action} {why : Failure} {name : String}
    (since : Since k ms (failed action why r) es w w') (stored : w.store.find? name = some k) :
    w'.store.find? name = some k ∧
    (w'.store.record k).cleanupAttempted = r.cleanupAttempted ∧
    (w'.store.record k).lastError = some s!"{why.category.word}: {why.message}" ∧
    (w'.store.record k).observation.readiness = readinessAfter action why r := by
  have record := since.record
  refine ⟨(since.find? name).trans stored, ?_, ?_, ?_⟩
  · rw [record]
    rfl
  · rw [record]
    rfl
  · rw [record]
    rfl

theorem gives_finish (h : Since k ms r es w w₁) (action : Action) (deleted : Bool) :
    (finish k action deleted).Gives w₁ fun es' o w' =>
      o = .ok {
        name := r.name
        action := action
        readiness := r.observation.readiness
        deleted := deleted
        deleting := (w'.store.record k).deleting } ∧
      Since k ms { r with lastAction := action, lastError := none } (es ++ es') w w' ∧
      es'.events = [] := by
  unfold finish
  have after := h.edit (f := fun r => { r with lastAction := action, lastError := none })
    fun _ _ => rfl
  refine gives_edit_bind (gives_record_bind ?_)
  rw [after.record]
  refine gives_note_bind (gives_pure ⟨rfl, ?_, rfl⟩)
  simpa using after.exchange (.note rfl)

theorem gives_fail (h : Since k ms r es w w₁) (action : Action) (why : Failure) :
    (fail k action why).Gives w₁ fun es' o w' =>
      Reported k ms r action (.ok (.error why)) (es ++ es') o w w' ∧
      (w'.store.record k).deleting = (w₁.store.record k).deleting := by
  unfold fail
  obtain ⟨d, hd⟩ := h.exists_record
  have after := h.overwrite (f := failed action why) fun _ => rfl
  have written : (w₁.store.edit k (failed action why)).record k =
      failed action why (r.flagged d) := by
    rw [Store.record_edit_self h.known, hd]
  refine gives_edit_bind (gives_record_bind ?_)
  rw [written]
  refine gives_note_bind (gives_pure ?_)
  have flag : ((w₁.store.edit k (failed action why)).record k).deleting = d := by
    rw [written]
    rfl
  refine ⟨⟨?_, ?_⟩, ?_⟩
  · simp only [World.store_note, flag]
    rfl
  · rw [hd] at after
    simpa [flag] using after.exchange (.note rfl)
  · rw [hd]
    exact flag

end Pass

/-! ## 3. Passes as functions of results -/

namespace Lifecycle

/-- The script that a phase hands over, if any, and what the phase then
comes to by the result. -/
def play {α : Type} (p : Phase) (script : Script) (skipped : α) (judged : Execution → α)
    (results : Phase → Except Problem Execution) : List Phase × Except Problem α :=
  if script.isGiven then ([p], (results p).map judged) else ([], .ok skipped)

end Lifecycle

namespace Pass

/-- The milestones of scripts that were handed over one after another. -/
def handed (k : Nat) (results : Phase → Except Problem Execution) (phases : List Phase) :
    List Milestone :=
  phases.flatMap fun p => [.script k p, .result k p (results p)]

/-- The observation after a phase: what it saw, if it returned. -/
def seenOf {α : Type} (o : Observation) : Except Problem (Lifecycle.Verdict α) → Observation
  | .ok (seen, _) => seen
  | .error _ => o

/-- What a pass comes to: the scripts that it hands over, what is observed
in the end, and what is reported. -/
structure Upshot where
  phases : List Phase
  seen : Observation
  action : Action
  verdict : Except Problem (Except Failure Unit)

/-- What comes of a phase after which the pass ends. -/
def Upshot.last (o : Observation) (action : Action)
    (step : List Phase × Except Problem (Lifecycle.Verdict Unit)) : Upshot where
  phases := step.1
  seen := seenOf o step.2
  action := action
  verdict := verdictOf step.2

/-- What doing what a resource needs comes to. -/
def response (b : Bundle) (o : Observation) (results : Phase → Except Problem Execution) :
    Upshot :=
  match nextAction b o with
  | .create => .last o .create <|
      Lifecycle.play .init b.init (Lifecycle.settled (o, .ok ()))
        (fun e => Lifecycle.settled (Lifecycle.changed .init o e)) results
  | .update => .last o .update <|
      Lifecycle.play .update b.update (o, .ok ()) (Lifecycle.changed .update o) results
  | action => ⟨[], o, action, .ok (.ok ())⟩

/-- What a look at a resource comes to. -/
def look (b : Bundle) (o : Observation) (results : Phase → Except Problem Execution) :
    List Phase × Except Problem (Lifecycle.Verdict Survey) :=
  Lifecycle.play .statusCheck b.statusCheck
    ((Lifecycle.surveyUnchecked o).1, .ok (Lifecycle.surveyUnchecked o).2)
    (Lifecycle.observed o) results

/-- What a pass over a resource comes to that is not being deleted. -/
def upshot (b : Bundle) (o : Observation) (results : Phase → Except Problem Execution) : Upshot :=
  let (phases, out) := look b o results
  let seen := seenOf o out
  match verdictOf out with
  | .error p => ⟨phases, seen, .none, .error p⟩
  | .ok (.error why) => ⟨phases, seen, .none, .ok (.error why)⟩
  | .ok (.ok survey) =>
    if survey.upToDate then ⟨phases, seen, .none, .ok (.ok ())⟩
    else
      let u := response b seen results
      { u with phases := phases ++ u.phases }

variable {env : Surroundings σ} {C : Phase → Except Problem Execution → Prop} {k : Nat}
  {ms : List Milestone} {r : Resource} {es es' : Journal} {w w₁ w₂ : World σ}

theorem handed_append (results : Phase → Except Problem Execution) (a b : List Phase) :
    handed k results (a ++ b) = handed k results a ++ handed k results b :=
  List.flatMap_append

/-- The milestones hang on the results of the scripts alone that were
handed over. -/
theorem handed_congr {results results' : Phase → Except Problem Execution} {phases : List Phase}
    (same : ∀ p ∈ phases, results p = results' p) :
    handed k results phases = handed k results' phases := by
  unfold handed
  rw [List.flatMap_def, List.flatMap_def]
  refine congrArg List.flatten (List.map_congr_left fun p hp => ?_)
  rw [same p hp]

/-- The scripts among these milestones. -/
theorem handed_scripts (k : Nat) (results : Phase → Except Problem Execution) :
    ∀ phases : List Phase,
      (handed k results phases).filterMap Milestone.script? = phases.map (k, ·)
  | [] => rfl
  | p :: rest => congrArg ((k, p) :: ·) (handed_scripts k results rest)

/-- The scripts that were handed over in a session that was closed. -/
theorem scripts_of_handed (results : Phase → Except Problem Execution) {phases : List Phase}
    (closing : Stage)
    (passed : es.milestones = .connected :: handed k results phases ++ [.closed closing]) :
    es.scripts = phases.map (k, ·) := by
  rw [Journal.scripts, passed, List.filterMap_append]
  exact (congrArg (· ++ []) (handed_scripts k results phases)).trans (List.append_nil _)

/-- A phase that was played, with the result of its script given by name. -/
theorem since_played {α : Type} {p : Phase} {script : Script} {skipped : Lifecycle.Verdict α}
    {judged : Execution → Lifecycle.Verdict α} {out : Except Problem (Lifecycle.Verdict α)}
    (h : Since k ms r es w w₁)
    (played : Lifecycle.Played (C p) k p script skipped judged es' out w₁ w₂) :
    ∃ outcome, (script.isGiven = true → C p outcome) ∧
      ∀ results, results p = outcome →
        (Lifecycle.play p script skipped judged results).2 = out ∧
        Since k (ms ++ handed k results (Lifecycle.play p script skipped judged results).1)
          { r with observation := seenOf r.observation out } (es ++ es') w (remember k out w₂) := by
  have stored {ms' : List Milestone} (hx : Exchange ms' es' w₁ w₂) :
      Since k (ms ++ ms') { r with observation := seenOf r.observation out } (es ++ es') w
        (remember k out w₂) := by
    have arrived := h.exchange hx
    rcases out with q | ⟨seen, verdict⟩
    · exact arrived
    · exact arrived.edit (f := fun r => { r with observation := seen }) fun _ _ => rfl
  unfold Lifecycle.play
  rcases played with ⟨outcome, given, comes, hout, hx⟩ | ⟨missing, hout, hx⟩
  · refine ⟨outcome, fun _ => comes, fun results hr => ?_⟩
    rw [if_pos given, hr, hout]
    rw [← hout]
    refine ⟨rfl, ?_⟩
    simpa [handed, hr] using stored hx
  · refine ⟨.ok ⟨"", "", .exited 0⟩, fun given => ?_, fun results _ => ?_⟩
    · rw [missing] at given
      cases given
    · rw [missing, hout]
      rw [← hout]
      exact ⟨rfl, by simpa [handed] using stored hx⟩

theorem mem_play {α : Type} {p q : Phase} {script : Script} {skipped : α}
    {judged : Execution → α} {results : Phase → Except Problem Execution}
    (h : q ∈ (Lifecycle.play p script skipped judged results).1) :
    q = p ∧ script.isGiven = true := by
  unfold Lifecycle.play at h
  split at h
  · rename_i given
    exact ⟨List.mem_singleton.mp h, given⟩
  · cases h

/-- Only the result of a script that is handed over matters. -/
theorem play_congr {α : Type} {p : Phase} {script : Script} {skipped : α}
    {judged : Execution → α} {results results' : Phase → Except Problem Execution}
    (same : ∀ q ∈ (Lifecycle.play p script skipped judged results).1, results q = results' q) :
    Lifecycle.play p script skipped judged results' =
      Lifecycle.play p script skipped judged results := by
  unfold Lifecycle.play at same ⊢
  split
  · rename_i given
    rw [if_pos given] at same
    rw [same p (List.mem_singleton_self p)]
  · rfl

/-- Which scripts a phase hands over does not hang on their results. -/
theorem play_fst {α : Type} (p : Phase) (script : Script) (skipped : α) (judged : Execution → α)
    (results : Phase → Except Problem Execution) :
    (Lifecycle.play p script skipped judged results).1 = if script.isGiven then [p] else [] := by
  unfold Lifecycle.play
  split <;> rfl

/-- A script that no host could take is the only one of its phase, and puts
an end to it. -/
theorem play_of_fault {α : Type} {p q : Phase} {script : Script}
    {skipped : Lifecycle.Verdict α} {judged : Execution → Lifecycle.Verdict α}
    {results : Phase → Except Problem Execution} {f : Fault}
    (hq : q ∈ (Lifecycle.play p script skipped judged results).1)
    (hf : results q = .error (.fault f)) :
    (Lifecycle.play p script skipped judged results).1 = [q] ∧
      verdictOf (Lifecycle.play p script skipped judged results).2 = .error (.fault f) := by
  obtain ⟨rfl, given⟩ := mem_play hq
  rw [Lifecycle.play, if_pos given, hf]
  exact ⟨rfl, rfl⟩

/-- A phase that came to something had results. -/
theorem exists_of_play_eq_ok {α : Type} {p q : Phase} {script : Script}
    {skipped : Lifecycle.Verdict α} {judged : Execution → Lifecycle.Verdict α}
    {results : Phase → Except Problem Execution} {verdict : Lifecycle.Verdict α}
    (h : (Lifecycle.play p script skipped judged results).2 = .ok verdict)
    (hq : q ∈ (Lifecycle.play p script skipped judged results).1) : ∃ e, results q = .ok e := by
  obtain ⟨rfl, given⟩ := mem_play hq
  rw [Lifecycle.play, if_pos given] at h
  cases hr : results q with
  | ok e => exact ⟨e, rfl⟩
  | error p =>
    rw [hr] at h
    cases h

/-- Which scripts a response hands over does not hang on their results. -/
theorem response_phases (b : Bundle) (o : Observation)
    (results results' : Phase → Except Problem Execution) :
    (response b o results').phases = (response b o results).phases := by
  unfold response
  cases nextAction b o with
  | create => exact (play_fst ..).trans (play_fst ..).symm
  | update => exact (play_fst ..).trans (play_fst ..).symm
  | none => rfl
  | delete => rfl
  | fail => rfl

theorem response_congr {b : Bundle} {o : Observation}
    {results results' : Phase → Except Problem Execution}
    (same : ∀ p ∈ (response b o results).phases, results p = results' p) :
    response b o results' = response b o results := by
  unfold response at same ⊢
  cases action : nextAction b o with
  | create =>
    rw [action] at same
    exact congrArg (Upshot.last o .create) (play_congr same)
  | update =>
    rw [action] at same
    exact congrArg (Upshot.last o .update) (play_congr same)
  | none => rfl
  | delete => rfl
  | fail => rfl

/-- The first script that is handed over is that of the look. -/
theorem mem_phases_of_mem_look {b : Bundle} {o : Observation}
    {results : Phase → Except Problem Execution} {p : Phase} (hp : p ∈ (look b o results).1) :
    p ∈ (upshot b o results).phases := by
  unfold upshot
  dsimp only
  split
  · exact hp
  · exact hp
  · split
    · exact hp
    · exact List.mem_append_left _ hp

/-- A pass is a function of the results of the scripts that it hands over. -/
theorem upshot_congr {b : Bundle} {o : Observation}
    {results results' : Phase → Except Problem Execution}
    (same : ∀ p ∈ (upshot b o results).phases, results p = results' p) :
    upshot b o results' = upshot b o results := by
  have looked : look b o results' = look b o results :=
    play_congr fun p hp => same p (mem_phases_of_mem_look hp)
  unfold upshot at same ⊢
  rw [looked]
  dsimp only at same ⊢
  rcases hv : verdictOf (look b o results).2 with q | (why | survey)
  · rfl
  · rfl
  · rw [hv] at same
    by_cases upToDate : survey.upToDate = true
    · simp only [upToDate, if_true]
    · simp only [upToDate] at same ⊢
      rw [response_congr fun p hp => same p (List.mem_append_right _ hp)]

/-- A response puts an end to the pass if no host could take its script. -/
theorem response_of_fault {b : Bundle} {o : Observation}
    {results : Phase → Except Problem Execution} {p : Phase} {f : Fault}
    (hp : p ∈ (response b o results).phases) (hf : results p = .error (.fault f)) :
    (response b o results).phases = [p] ∧
      (response b o results).verdict = .error (.fault f) := by
  unfold response at hp ⊢
  cases action : nextAction b o with
  | create =>
    rw [action] at hp
    exact play_of_fault hp hf
  | update =>
    rw [action] at hp
    exact play_of_fault hp hf
  | none => simp [action] at hp
  | delete => simp [action] at hp
  | fail => simp [action] at hp

/-- A script that no host could take is the last one that a pass hands over,
those before it had results, and it puts an end to the pass. -/
theorem upshot_of_fault {b : Bundle} {o : Observation}
    {results : Phase → Except Problem Execution} {p : Phase} {f : Fault}
    (hp : p ∈ (upshot b o results).phases) (hf : results p = .error (.fault f)) :
    ∃ before, (upshot b o results).phases = before ++ [p] ∧
      (∀ q ∈ before, ∃ e, results q = .ok e) ∧
      (upshot b o results).verdict = .error (.fault f) := by
  by_cases looking : p ∈ (look b o results).1
  · obtain ⟨phases, looked⟩ := play_of_fault looking hf
    refine ⟨[], ?_, nofun, ?_⟩
    · simp only [upshot, look, looked, phases, List.nil_append]
    · simp only [upshot, look, looked]
  · unfold upshot at hp ⊢
    dsimp only at hp ⊢
    rcases hv : (look b o results).2 with q | ⟨seen, why | survey⟩
    · rw [hv] at hp
      cases q <;> exact absurd hp looking
    · rw [hv] at hp
      exact absurd hp looking
    · rw [hv] at hp
      by_cases upToDate : survey.upToDate = true
      · simp only [verdictOf, upToDate, if_true] at hp
        exact absurd hp looking
      · simp only [verdictOf, upToDate] at hp ⊢
        have responding := (List.mem_append.mp hp).resolve_left looking
        obtain ⟨phases, ended⟩ := response_of_fault responding hf
        exact ⟨(look b o results).1, congrArg _ phases, fun q hq => exists_of_play_eq_ok hv hq,
          ended⟩

/-- The results of scripts, where one that has none is taken to have gone
well. -/
def mended (results : Phase → Except Problem Execution) (p : Phase) : Execution :=
  (results p).toOption.getD ⟨"", "", .exited 0⟩

theorem mended_of_ok {results : Phase → Except Problem Execution} {p : Phase} {e : Execution}
    (h : results p = .ok e) : mended results p = e := by
  rw [mended, h]
  rfl

/-- Which scripts a pass hands over hangs on what the look came to. -/
theorem upshot_phases_of_look {b : Bundle} {o : Observation}
    {results results' : Phase → Except Problem Execution}
    (same : look b o results' = look b o results) :
    (upshot b o results').phases = (upshot b o results).phases := by
  unfold upshot
  rw [same]
  dsimp only
  split
  · rfl
  · rfl
  · split
    · rfl
    · exact congrArg (_ ++ ·) (response_phases ..)

/-- A pass would hand over the same scripts if the one that no host could
take had gone well: none would follow it. -/
theorem upshot_mended (b : Bundle) (o : Observation)
    (results : Phase → Except Problem Execution) :
    (upshot b o fun p => .ok (mended results p)).phases = (upshot b o results).phases := by
  cases given : b.statusCheck.isGiven with
  | false =>
    refine upshot_phases_of_look (play_congr fun q hq => ?_)
    rw [play_fst, given] at hq
    cases hq
  | true =>
    cases hr : results .statusCheck with
    | ok e =>
      refine upshot_phases_of_look (play_congr fun q hq => ?_)
      obtain ⟨rfl, -⟩ := mem_play hq
      rw [hr, mended_of_ok hr]
    | error q =>
      -- a status check that goes well is all that is handed over
      have looked : look b o results = ([.statusCheck], .error q) := by
        rw [look, Lifecycle.play, if_pos given, hr]
        rfl
      have well : look b o (fun p => .ok (mended results p)) =
          ([.statusCheck], .ok (Lifecycle.observed o ⟨"", "", .exited 0⟩)) := by
        rw [look, Lifecycle.play, if_pos given, mended, hr]
        rfl
      unfold upshot
      rw [looked, well]
      cases q <;> rfl

/-- The last act of a pass, by what it has come to. -/
theorem gives_conclude (h : Since k ms r es w w₁) (action : Action)
    (verdict : Except Failure Unit) :
    (conclude k action verdict).Gives w₁ fun es' o w' =>
      Reported k ms r action (.ok verdict) (es ++ es') o w w' := by
  rcases verdict with why | _
  · exact (gives_fail h action why).mono fun _ _ _ hx => hx.1
  · exact (gives_finish h action false).mono fun _ _ _ hx => ⟨hx.1, hx.2.1⟩

/-- What a pass says before it goes on is no part of what it comes to. -/
theorem since_said (h : Since k ms r es w w₁) (record : Log.Record) :
    Since k ms r (es ++ [.log record]) w (w₁.note (.log record)) := by
  simpa using h.exchange (.note rfl)

/-- A phase after which the pass ends, with the result of its script given
by name. -/
theorem gives_last (h : Since k ms r es w w₁) {p : Phase} {script : Script}
    {skipped : Lifecycle.Verdict Unit} {judged : Execution → Lifecycle.Verdict Unit}
    {action : Action} {act : Observation → Act σ (Lifecycle.Verdict Unit)}
    (played : (act r.observation).Gives w₁
      (Lifecycle.Played (C p) k p script skipped judged · · w₁ ·)) :
    (phase k act >>= conclude k action).Gives w₁ fun es' o w' =>
      ∃ outcome, (script.isGiven = true → C p outcome) ∧ ∀ results, results p = outcome →
        let u := Upshot.last r.observation action
          (Lifecycle.play p script skipped judged results)
        Reported k (ms ++ handed k results u.phases) { r with observation := u.seen } u.action
          u.verdict (es ++ es') o w w' := by
  obtain ⟨d, hd⟩ := h.exists_record
  have seen : (w₁.store.record k).observation = r.observation := by
    rw [hd]
    rfl
  rw [← seen] at played
  refine (gives_phase played).bind ?_ ?_
  · rintro es₁ verdict _ ⟨out, w₂, hplayed, hv, rfl⟩
    obtain ⟨outcome, comes, step⟩ := since_played h hplayed
    refine (gives_conclude (step (fun _ => outcome) rfl).2 action verdict).mono
      fun es₂ o w' reported => ⟨outcome, comes, fun results hr => ?_⟩
    obtain ⟨hout, -⟩ := step results hr
    have same : Lifecycle.play p script skipped judged (fun _ => outcome) =
        Lifecycle.play p script skipped judged results := by
      unfold Lifecycle.play
      rw [hr]
    have marks : handed k (fun _ => outcome) (Lifecycle.play p script skipped judged results).1 =
        handed k results (Lifecycle.play p script skipped judged results).1 :=
      handed_congr fun q hq => by rw [(mem_play hq).1, hr]
    rw [same, marks] at reported
    simp only [Upshot.last, hout, ← hv]
    simpa using reported
  · rintro es₁ q _ ⟨out, w₂, hplayed, hv, rfl⟩
    obtain ⟨outcome, comes, step⟩ := since_played h hplayed
    refine ⟨outcome, comes, fun results hr => ?_⟩
    obtain ⟨hout, arrived⟩ := step results hr
    simp only [Upshot.last, hout, ← hv]
    exact ⟨rfl, arrived⟩

/-- What a resource needs is done as its response says; `second` is the
result of the script for it. -/
theorem gives_respond (h : env.Unobtrusive) (since : Since k ms r es w w₁) (survey : Survey)
    (comes : ∀ p, (Lifecycle.runScript env (workplace env (Session.over env) k) r.bundle p).Ends
      (C p)) :
    (respond env k (workplace env (Session.over env) k) survey).Gives w₁ fun es' o w' =>
      ∃ second, ∀ results, (∀ p, p ≠ .statusCheck → results p = second) →
        let u := response r.bundle r.observation results
        (∀ p ∈ u.phases, p ≠ .statusCheck ∧ C p (results p)) ∧
        Reported k (ms ++ handed k results u.phases) { r with observation := u.seen } u.action
          u.verdict (es ++ es') o w w' := by
  obtain ⟨d, hd⟩ := since.exists_record
  unfold respond
  refine gives_record_bind ?_
  rw [hd]
  simp only [Resource.flagged_bundle, Resource.flagged_observation, Resource.flagged_name]
  -- nothing is run for an action that changes nothing
  have unchanged (action : Action) (hr : ∀ results, response r.bundle r.observation results =
      ⟨[], r.observation, action, .ok (.ok ())⟩) :
      (finish k action).Gives w₁ fun es' o w' =>
        ∃ second, ∀ results, (∀ p, p ≠ .statusCheck → results p = second) →
          let u := response r.bundle r.observation results
          (∀ p ∈ u.phases, p ≠ .statusCheck ∧ C p (results p)) ∧
          Reported k (ms ++ handed k results u.phases) { r with observation := u.seen } u.action
            u.verdict (es ++ es') o w w' := by
    refine (gives_conclude since action (.ok ())).mono fun es' o w' reported =>
      ⟨.ok ⟨"", "", .exited 0⟩, fun results _ => ?_⟩
    simpa [hr, handed] using reported
  cases action : nextAction r.bundle r.observation with
  | create =>
    refine gives_note_bind ((gives_last (since_said since _)
      (Lifecycle.gives_create h rfl r.bundle (comes .init) _ _)).mono
        fun es₂ o w' ⟨second, follows, conclude⟩ => ⟨second, fun results hr => ?_⟩)
    simp only [response, action]
    refine ⟨fun p hp => ?_, by simpa using conclude results (hr .init (by decide))⟩
    obtain ⟨rfl, given⟩ := mem_play hp
    rw [hr .init (by decide)]
    exact ⟨by decide, follows given⟩
  | update =>
    refine gives_note_bind ((gives_last (since_said since _)
      (Lifecycle.gives_update h rfl r.bundle (comes .update) _ _)).mono
        fun es₂ o w' ⟨second, follows, conclude⟩ => ⟨second, fun results hr => ?_⟩)
    simp only [response, action]
    refine ⟨fun p hp => ?_, by simpa using conclude results (hr .update (by decide))⟩
    obtain ⟨rfl, given⟩ := mem_play hp
    rw [hr .update (by decide)]
    exact ⟨by decide, follows given⟩
  | none => exact unchanged .none fun results => by simp only [response, action]
  | delete => exact unchanged .delete fun results => by simp only [response, action]
  | fail => exact unchanged .fail fun results => by simp only [response, action]

/-- A pass over a resource that is not being deleted does what its upshot
says. -/
theorem gives_sync (h : env.Unobtrusive) (since : Since k ms r es w w₁)
    (comes : ∀ p, (Lifecycle.runScript env (workplace env (Session.over env) k) r.bundle p).Ends
      (C p)) :
    (sync env k (Session.over env)).Gives w₁ fun es' o w' =>
      ∃ results, let u := upshot r.bundle r.observation results
        (∀ p ∈ u.phases, C p (results p)) ∧
        Reported k (ms ++ handed k results u.phases) { r with observation := u.seen } u.action
          u.verdict (es ++ es') o w w' := by
  obtain ⟨d, hd⟩ := since.exists_record
  unfold sync
  refine gives_record_bind ?_
  have played := Lifecycle.gives_observe h rfl r.bundle (comes .statusCheck)
    (w₁.store.record k).observation w₁
  rw [hd] at played ⊢
  refine (gives_phase (by rw [hd]; exact played)).bind ?_ ?_
  all_goals
    rintro es₁ verdict _ ⟨out, w₂, hplayed, hv, rfl⟩
    obtain ⟨first, checked, step⟩ := since_played since hplayed
    -- the look comes to `out`, whatever comes of the other scripts
    have looked (results : Phase → Except Problem Execution) (hr : results .statusCheck = first) :
        (look r.bundle r.observation results).2 = out ∧
        Since k (ms ++ handed k results (look r.bundle r.observation results).1)
          { r with observation := seenOf r.observation out } (es ++ es₁) w (remember k out w₂) :=
      step results hr
    have checks (results : Phase → Except Problem Execution) (hr : results .statusCheck = first) :
        ∀ p ∈ (look r.bundle r.observation results).1, C p (results p) := fun p hp => by
      obtain ⟨rfl, given⟩ := mem_play hp
      rw [hr]
      exact checked given
    obtain ⟨hout, arrived⟩ := looked (fun _ => first) rfl
  · rcases verdict with why | survey
    · refine (gives_conclude arrived .none (.error why)).mono fun es₂ o w' reported =>
        ⟨fun _ => first, ?_⟩
      simp only [upshot, hout, ← hv]
      exact ⟨checks _ rfl, by simpa using reported⟩
    · dsimp only
      split
      · rename_i upToDate
        refine gives_note_bind ((gives_conclude (since_said arrived _) .none (.ok ())).mono
          fun es₂ o w' reported => ⟨fun _ => first, ?_⟩)
        simp only [upshot, hout, ← hv, upToDate]
        exact ⟨checks _ rfl, by simpa using reported⟩
      · rename_i behind
        refine (gives_respond h arrived survey comes).mono fun es₂ o w' ⟨second, answer⟩ => ?_
        let results : Phase → Except Problem Execution := fun p =>
          if p = .statusCheck then first else second
        have before : handed k (fun _ => first) (look r.bundle r.observation fun _ => first).1 =
            handed k results (look r.bundle r.observation results).1 := by
          have phases : (look r.bundle r.observation fun _ => first).1 =
              (look r.bundle r.observation results).1 := by
            unfold look Lifecycle.play
            split <;> rfl
          rw [phases]
          exact handed_congr fun p hp => by rw [(mem_play hp).1]; rfl
        obtain ⟨sound, reported⟩ := answer results fun p hp => if_neg hp
        refine ⟨results, ?_⟩
        simp only [upshot, (looked results rfl).1, ← hv, behind]
        refine ⟨fun p hp => ?_, ?_⟩
        · rcases List.mem_append.mp hp with looking | following
          · exact checks results rfl p looking
          · exact (sound p following).2
        · rw [before] at reported
          simpa [handed_append] using reported
  · refine ⟨fun _ => first, ?_⟩
    simp only [upshot, hout, ← hv]
    exact ⟨checks _ rfl, rfl, arrived⟩

/-! ## 4. Clearing away -/

/-- What clearing a resource away comes to. -/
def clearing (b : Bundle) (o : Observation) (results : Phase → Except Problem Execution) :
    List Phase × Except Problem (Lifecycle.Verdict Unit) :=
  Lifecycle.play .cleanup b.cleanup (o, .ok ()) (Lifecycle.cleared o) results

/-- How a pass ends that clears a resource away: if that goes well, the name
is forgotten and the report says so. -/
def Cleared (k : Nat) (ms : List Milestone) (r : Resource)
    (verdict : Except Problem (Except Failure Unit)) (es : Journal) (o : Except Problem Report)
    (w w' : World σ) : Prop :=
  match verdict with
  | .ok (.ok ()) =>
    (∃ report, o = .ok report ∧ report.deleted = true ∧ report.failure = none) ∧
    es.milestones = ms ∧ w'.store.find? r.name = none
  | verdict => Reported k ms r .delete verdict es o w w'

/-- Either the name is forgotten, or it is reported what failed or was
raised. -/
theorem Cleared.cases {verdict : Except Problem (Except Failure Unit)} {o : Except Problem Report}
    {w' : World σ} (h : Cleared k ms r verdict es o w w') :
    (verdict = .ok (.ok ()) ∧ es.milestones = ms ∧
      (∃ report, o = .ok report ∧ report.deleted = true ∧ report.failure = none) ∧
      w'.store.find? r.name = none) ∨
    (verdict ≠ .ok (.ok ()) ∧ Reported k ms r .delete verdict es o w w') := by
  rcases verdict with q | (why | _)
  · exact Or.inr ⟨nofun, h⟩
  · exact Or.inr ⟨nofun, h⟩
  · obtain ⟨report, passed, gone⟩ := h
    exact Or.inl ⟨rfl, passed, report, gone⟩

theorem Cleared.milestones {verdict : Except Problem (Except Failure Unit)}
    {o : Except Problem Report} {w' : World σ} (h : Cleared k ms r verdict es o w w') :
    es.milestones = ms := by
  rcases h.cases with ⟨-, passed, -⟩ | ⟨-, reported⟩
  · exact passed
  · exact reported.milestones

/-- A name is forgotten, and nothing else happens. -/
theorem gives_remove (name : String) (w : World σ) :
    (Register.remove name).Gives w fun es o w' =>
      o = .ok () ∧ es.milestones = [] ∧ es.events = [] ∧ w'.store = w.store.remove name := by
  unfold Register.remove
  refine gives_get_bind (gives_edit_bind ?_)
  split
  · exact gives_get_bind (gives_note ⟨rfl, rfl, rfl, rfl⟩)
  · exact gives_pure ⟨rfl, rfl, rfl, rfl⟩

/-- The end of a pass after which the resource is gone. -/
theorem gives_forget (known : k < w.store.records.length) (name : String) :
    (Register.remove name >>= fun _ => finish k .delete true).Gives w fun es o w' =>
      (∃ report, o = .ok report ∧ report.deleted = true ∧ report.failure = none) ∧
      es.milestones = [] ∧ es.events = [] ∧ w'.store.find? name = none := by
  refine (gives_remove name w).bind ?_ ?_
  · rintro es _ w₁ ⟨-, hm, he, hs⟩
    have still : k < w₁.store.records.length := by
      rw [hs]
      exact known
    refine (gives_finish (Since.refl still) .delete true).mono
      fun es' o w' ⟨ho, since, silent⟩ => ?_
    refine ⟨⟨_, ho, rfl, rfl⟩, ?_, ?_, ?_⟩
    · rw [Journal.milestones_append, hm]
      exact since.milestones
    · rw [Journal.events_append, he]
      exact silent
    · rw [since.find?, hs, Store.find?_remove_self]
  · rintro es p w₁ ⟨ho, -⟩
    cases ho

/-- A pass that clears a resource away does what comes of the cleanup
script; that it was tried is recorded in any case. -/
theorem gives_delete (h : env.Unobtrusive) (since : Since k ms r es w w₁)
    (comes : ∀ p, (Lifecycle.runScript env (workplace env (Session.over env) k) r.bundle p).Ends
      (C p)) :
    (delete env k (Session.over env)).Gives w₁ fun es' o w' =>
      ∃ results, let step := clearing r.bundle r.observation results
        (∀ p ∈ step.1, C p (results p)) ∧
        Cleared k (ms ++ handed k results step.1)
          { r.spent with observation := seenOf r.observation step.2 } (verdictOf step.2)
          (es ++ es') o w w' := by
  have marked := since.edit (f := Resource.spent) fun _ _ => rfl
  obtain ⟨d, hd⟩ := marked.exists_record
  unfold delete
  refine gives_edit_bind (gives_record_bind ?_)
  rw [hd]
  have played := Lifecycle.gives_delete h rfl r.bundle (comes .cleanup) r.observation
    { w₁ with store := w₁.store.edit k Resource.spent }
  refine (gives_phase (by rw [hd]; exact played)).bind ?_ ?_
  all_goals
    rintro es₁ verdict _ ⟨out, w₂, hplayed, hv, rfl⟩
    obtain ⟨outcome, comes, step⟩ := since_played marked hplayed
    obtain ⟨hout, arrived⟩ := step (fun _ => outcome) rfl
    have came : ∀ p ∈ (clearing r.bundle r.observation fun _ => outcome).1, C p outcome :=
      fun p hp => by
        obtain ⟨rfl, given⟩ := mem_play hp
        exact comes given
    have cleared : (clearing r.bundle r.observation fun _ => outcome).2 = out := hout
  · rcases verdict with why | _
    · refine (gives_conclude arrived .delete (.error why)).mono fun es₂ o w' reported =>
        ⟨fun _ => outcome, came, ?_⟩
      rw [List.append_assoc] at reported
      simp only [cleared, ← hv]
      exact reported
    · refine (gives_forget arrived.known _).mono fun es₂ o w' ⟨ho, hm, _, gone⟩ =>
        ⟨fun _ => outcome, came, ?_⟩
      simp only [cleared, ← hv]
      refine ⟨ho, ?_, gone⟩
      rw [Journal.milestones_append, Journal.milestones_append, hm, List.append_nil,
        ← Journal.milestones_append]
      exact arrived.milestones
  · refine ⟨fun _ => outcome, came, ?_⟩
    simp only [cleared, ← hv]
    exact ⟨rfl, arrived⟩

end Pass

end Upkeep
