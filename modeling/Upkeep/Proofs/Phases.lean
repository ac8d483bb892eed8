/-
Upkeep.Proofs.Phases — what running a script of a resource does.

Handing a script over is an exchange of two milestones: that it was handed
over, and what came of it (`gives_runScript`). Each phase of the life of a
resource hands over at most one script and makes up its mind by a function
of the result alone: `observed`, `changed` or `cleared`. `Played` says so of
a phase, and the phases are instances of it. `Pass.gives_phase` adds what a
pass makes of a phase: it stores the observation.
-/
import Upkeep.Pass
import Upkeep.Proofs.Orderly

namespace Upkeep

open Upkeep.Act

variable {σ : Type}

/-! ## 1. Scripts -/

namespace Lifecycle

variable {env : Surroundings σ} {place : Workplace σ} {C : Except Problem Execution → Prop}

/-- Handing over a script passes two milestones, and the second one says
how that ends. -/
theorem gives_runScript (h : env.Unobtrusive) (session : place.session = Session.over env)
    (b : Bundle) (p : Phase) (w : World σ) :
    (runScript env place b p).Gives w fun es o w' =>
      Exchange [.script place.incarnation p, .result place.incarnation p o] es w w' := by
  unfold runScript
  rw [session]
  refine gives_note_bind ?_
  refine Gives.attempt_bind (Staging.keeps_execute h.within _ _ _) fun es outcome w' hx => ?_
  refine gives_note_bind (gives_settle ?_)
  exact (Exchange.pass (.script place.incarnation p)).append
    (hx.append (Exchange.pass (.result place.incarnation p outcome)))

/-- On an orderly host a script that a host can take has a result. -/
theorem ends_runScript (h : env.Unobtrusive) (hh : env.host.Orderly)
    (session : place.session = Session.over env) (b : Bundle) (p : Phase) :
    (runScript env place b p).Ends (Staging.Comes (b.script p) b.vars) := by
  unfold runScript
  rw [session]
  refine Ends.after_note ?_
  refine (Staging.ends_execute h hh _ _).attempt_bind fun outcome hc => ?_
  exact Ends.after_note (ends_settle hc)

/-! ## 2. Phases -/

/-- A phase hands its script over if there is one, and makes up its mind by
the result, of which `C` holds; without a script the mind is made up
already. -/
inductive Played {α : Type} (C : Except Problem Execution → Prop) (k : Nat) (p : Phase)
    (script : Script) (skipped : α) (judged : Execution → α) (es : Journal)
    (o : Except Problem α) (w w' : World σ) : Prop
  | ran (outcome : Except Problem Execution) (given : script.isGiven = true) (comes : C outcome)
      (ends : o = outcome.map judged)
      (exchange : Exchange [.script k p, .result k p outcome] es w w')
  | passedOver (missing : script.isGiven = false) (ends : o = .ok skipped)
      (exchange : Exchange [] es w w')

/-- What the status check tells by its result. -/
def observed (o : Observation) (e : Execution) : Verdict Survey :=
  match e.ending with
  | .failed why => (o.record e (some (classify none)), .error why)
  | .exited status => surveyChecked o e status

/-- What a script that changes the resource leaves by its result. -/
def changed (p : Phase) (o : Observation) (e : Execution) : Verdict Unit :=
  if e.succeeded then (o.record e, .ok ()) else (o.record e (some .fatal), e.check p.word true)

/-- The resource is known to exist, if the change went well. -/
def settled : Verdict Unit → Verdict Unit
  | (seen, .ok ()) => ({ seen with created := true }, .ok ())
  | failed => failed

/-! Only whether the resource was created is decided when a change is
settled. -/

@[simp] theorem settled_snd (v : Verdict Unit) : (settled v).2 = v.2 := by
  rcases v with ⟨seen, why | _⟩ <;> rfl

@[simp] theorem settled_readiness (v : Verdict Unit) :
    (settled v).1.readiness = v.1.readiness := by
  rcases v with ⟨seen, why | _⟩ <;> rfl

@[simp] theorem settled_message (v : Verdict Unit) :
    (settled v).1.message = v.1.message := by
  rcases v with ⟨seen, why | _⟩ <;> rfl

/-- What the cleanup script leaves by its result. -/
def cleared (o : Observation) (e : Execution) : Verdict Unit :=
  match e.check Phase.cleanup.word false with
  | .ok () => ({ o.record e with created := false }, .ok ())
  | .error why => (o.record e, .error why)

/-- After handing over a script, a last act that only writes log records
and returns a value is part of the phase. -/
theorem gives_played {α : Type} (h : env.Unobtrusive) (session : place.session = Session.over env)
    (b : Bundle) (p : Phase) {skipped : α} {judged : Execution → α} {last : Execution → Act σ α}
    (given : (b.script p).isGiven = true) (comes : (runScript env place b p).Ends C)
    (logs : ∀ e w, (last e).Gives w fun es o w' => o = .ok (judged e) ∧ Exchange [] es w w')
    (w : World σ) :
    (runScript env place b p >>= last).Gives w fun es o w' =>
      Played C place.incarnation p (b.script p) skipped judged es o w w' := by
  refine ((gives_runScript h session b p w).ends comes).bind ?_ ?_
  · rintro es e w' ⟨hx, hc⟩
    exact (logs e w').mono fun es' o w'' ⟨ho, hx'⟩ => .ran (.ok e) given hc ho (hx.append hx')
  · rintro es q w' ⟨hx, hc⟩
    exact .ran (.error q) given hc rfl hx

/-- Log records change nothing about what is returned. -/
theorem gives_logged {α : Type} {level : Log.Level} {source text : String} {a : α} (w : World σ) :
    (log level source text >>= fun _ => pure a : Act σ α).Gives w fun es o w' =>
      o = .ok a ∧ Exchange [] es w w' :=
  gives_note_bind (gives_pure ⟨rfl, .of_store rfl rfl⟩)

/-- What a pure act makes of a phase is a judgement too. -/
theorem gives_judged {α β : Type} {k : Nat} {p : Phase} {script : Script} {skipped : α}
    {judged : Execution → α} {act : Act σ α} {last : α → Act σ β} {g : α → β} {w : World σ}
    (h : act.Gives w (Played C k p script skipped judged · · w ·))
    (logs : ∀ a w, (last a).Gives w fun es o w' => o = .ok (g a) ∧ Exchange [] es w w') :
    (act >>= last).Gives w
      (Played C k p script (g skipped) (fun e => g (judged e)) · · w ·) := by
  refine h.bind ?_ ?_
  · rintro es a w' (⟨outcome, given, comes, ha, hx⟩ | ⟨missing, ha, hx⟩)
    · rcases outcome with q | e <;> cases ha
      refine (logs _ w').mono fun es' o w'' ⟨ho, hx'⟩ => .ran (.ok e) given comes ho ?_
      exact hx.append hx'
    · cases ha
      refine (logs _ w').mono fun es' o w'' ⟨ho, hx'⟩ => .passedOver missing ho ?_
      exact hx.append hx'
  · rintro es q w' (⟨outcome, given, comes, hq, hx⟩ | ⟨missing, hq, hx⟩)
    · rcases outcome with q | e <;> cases hq
      exact .ran (.error q) given comes rfl hx
    · cases hq

theorem gives_observe (h : env.Unobtrusive) (session : place.session = Session.over env)
    (b : Bundle) (comes : (runScript env place b .statusCheck).Ends C) (o : Observation)
    (w : World σ) :
    (observe env place b o).Gives w fun es out w' =>
      Played C place.incarnation .statusCheck b.statusCheck
        ((surveyUnchecked o).1, .ok (surveyUnchecked o).2) (observed o) es out w w' := by
  unfold observe
  cases given : b.statusCheck.isGiven with
  | false =>
    exact (gives_logged w).mono fun es out w' ⟨ho, hx⟩ => .passedOver given ho hx
  | true =>
    refine gives_played h session b .statusCheck given comes (fun e w => ?_) w
    unfold observed
    rcases e.ending with status | why
    · exact gives_logged w
    · exact gives_logged w

theorem gives_change (h : env.Unobtrusive) (session : place.session = Session.over env)
    (p : Phase) (b : Bundle) (comes : (runScript env place b p).Ends C) (o : Observation)
    (w : World σ) :
    (change env place p b o).Gives w fun es out w' =>
      Played C place.incarnation p (b.script p) (o, .ok ()) (changed p o) es out w w' := by
  unfold change
  cases given : (b.script p).isGiven with
  | false =>
    exact (gives_logged w).mono fun es out w' ⟨ho, hx⟩ => .passedOver given ho hx
  | true =>
    refine gives_played h session b p given comes (fun e w => ?_) w
    unfold changed
    split
    · exact gives_pure ⟨rfl, Exchange.lasts.refl w⟩
    · exact gives_logged w

theorem gives_create (h : env.Unobtrusive) (session : place.session = Session.over env)
    (b : Bundle) (comes : (runScript env place b .init).Ends C) (o : Observation) (w : World σ) :
    (create env place b o).Gives w fun es out w' =>
      Played C place.incarnation .init b.init (settled (o, .ok ()))
        (fun e => settled (changed .init o e)) es out w w' := by
  have last (v : Verdict Unit) (w : World σ) :
      (match v with
        | (seen, .ok ()) => pure ({ seen with created := true }, .ok ())
        | failed => pure failed : Act σ (Verdict Unit)).Gives w fun es out w' =>
      out = .ok (settled v) ∧ Exchange [] es w w' := by
    rcases v with ⟨seen, why | _⟩
    · exact gives_pure ⟨rfl, Exchange.lasts.refl w⟩
    · exact gives_pure ⟨rfl, Exchange.lasts.refl w⟩
  unfold create
  exact gives_judged (gives_change h session .init b comes o w) last

theorem gives_update (h : env.Unobtrusive) (session : place.session = Session.over env)
    (b : Bundle) (comes : (runScript env place b .update).Ends C) (o : Observation) (w : World σ) :
    (update env place b o).Gives w fun es out w' =>
      Played C place.incarnation .update b.update (o, .ok ()) (changed .update o) es out w w' :=
  gives_change h session .update b comes o w

theorem gives_delete (h : env.Unobtrusive) (session : place.session = Session.over env)
    (b : Bundle) (comes : (runScript env place b .cleanup).Ends C) (o : Observation) (w : World σ) :
    (delete env place b o).Gives w fun es out w' =>
      Played C place.incarnation .cleanup b.cleanup (o, .ok ()) (cleared o) es out w w' := by
  unfold delete
  cases given : b.cleanup.isGiven with
  | false =>
    exact (gives_logged w).mono fun es out w' ⟨ho, hx⟩ => .passedOver given ho hx
  | true =>
    refine gives_played h session b .cleanup given comes (fun e w => ?_) w
    have last (w : World σ) :
        (match e.check Phase.cleanup.word false with
          | .ok () => pure ({ o.record e with created := false }, .ok ())
          | .error why => pure (o.record e, .error why) : Act σ (Verdict Unit)).Gives w
        fun es out w' => out = .ok (cleared o e) ∧ Exchange [] es w w' := by
      unfold cleared
      split
      · exact gives_pure ⟨rfl, Exchange.lasts.refl w⟩
      · exact gives_pure ⟨rfl, Exchange.lasts.refl w⟩
    dsimp only
    split
    · refine gives_note_bind ((last _).mono fun es out w' ⟨ho, hx⟩ => ⟨ho, ?_⟩)
      exact (Exchange.note rfl).append hx
    · exact last w

end Lifecycle

/-! ## 3. Phases of a pass -/

namespace Pass

/-- What a pass goes on with after a phase: its verdict, or the failure that
it raised. Any other problem is passed on. -/
def verdictOf {α : Type} : Except Problem (Lifecycle.Verdict α) →
    Except Problem (Except Failure α)
  | .ok (_, verdict) => .ok verdict
  | .error (.failure failure) => .ok (.error failure)
  | .error p => .error p

/-- What a phase saw is stored, if it returned at all. -/
def remember {α : Type} (k : Nat) : Except Problem (Lifecycle.Verdict α) → World σ → World σ
  | .ok (seen, _), w =>
    { w with store := w.store.edit k fun r => { r with observation := seen } }
  | .error _, w => w

theorem gives_phase {α : Type} {k : Nat} {act : Observation → Act σ (Lifecycle.Verdict α)}
    {w : World σ} {Q : Journal → Except Problem (Lifecycle.Verdict α) → World σ → Prop}
    (h : (act (w.store.record k).observation).Gives w Q) :
    (phase k act).Gives w fun es o w' => ∃ out w₁, Q es out w₁ ∧ o = verdictOf out ∧
      w' = remember k out w₁ := by
  unfold phase
  refine gives_record_bind ?_
  refine h.attempt_bind fun es outcome w₁ hQ => ?_
  rw [← List.append_nil es] at hQ
  rcases outcome with p | ⟨seen, verdict⟩
  · rcases p with f | f | f
    · exact gives_pure ⟨_, w₁, hQ, rfl, rfl⟩
    · exact gives_raise ⟨_, w₁, hQ, rfl, rfl⟩
    · exact gives_raise ⟨_, w₁, hQ, rfl, rfl⟩
  · exact gives_edit_bind (gives_pure ⟨_, w₁, hQ, rfl, rfl⟩)

end Pass

end Upkeep
