/-
Upkeep.Proofs.Foreign — problems that come from the surroundings.

`Act.Raises` looks at nothing but what an act raises. Of uploads, commands,
scripts and connections it is shown that they raise an unknown name only if
the surroundings report one (`Surroundings.Reports`): in a stage of an answer
of the host, or in another task. Nothing is assumed about the surroundings.
One lemma for each act follows the way in which the act is put together.
-/
import Upkeep.Connection
import Upkeep.Lifecycle
import Upkeep.Proofs.Act

namespace Upkeep

open Upkeep.Act

variable {σ : Type}

/-! ## 1. Problems of outcomes and of acts -/

/-- What the outcome fails with is as `P` says. -/
def Fails {ε α : Type} (outcome : Except ε α) (P : ε → Prop) : Prop :=
  ∀ e, outcome = .error e → P e

section Rules

variable {ε α β : Type} {P : ε → Prop}

theorem fails_ok {a : α} : Fails (.ok a) P := fun _ same => by cases same

theorem fails_error {e : ε} (h : P e) : Fails (.error e : Except ε α) P := fun _ same =>
  Except.error.inj same ▸ h

theorem Fails.mono {outcome : Except ε α} {Q : ε → Prop} (h : Fails outcome P)
    (hPQ : ∀ e, P e → Q e) : Fails outcome Q := fun e same => hPQ e (h e same)

theorem Fails.bind {outcome : Except ε α} {f : α → Except ε β} (h : Fails outcome P)
    (next : ∀ a, Fails (f a) P) : Fails (outcome >>= f) P := by
  cases outcome with
  | error e => exact fails_error (h e rfl)
  | ok a => exact next a

theorem Fails.mapError {outcome : Except ε α} {ε' : Type} {g : ε → ε'} {Q : ε' → Prop}
    (h : Fails outcome fun e => Q (g e)) : Fails (outcome.mapError g) Q := by
  cases outcome with
  | error e => exact fails_error (h e rfl)
  | ok a => exact fails_ok

end Rules

namespace Act

variable {α β : Type} {P : Problem → Prop}

/-- Whatever the act raises, wherever it starts, is as `P` says. -/
def Raises (act : Act σ α) (P : Problem → Prop) : Prop := act.Ends (Fails · P)

theorem raises_pure (a : α) : (pure a : Act σ α).Raises P := ends_pure fails_ok

theorem raises_raise {p : Problem} (h : P p) : (raise p : Act σ α).Raises P :=
  ends_raise (fails_error h)

theorem raises_settle {outcome : Except Problem α} (h : Fails outcome P) :
    (settle outcome : Act σ α).Raises P := ends_settle h

theorem Raises.bind_ends {act : Act σ α} {f : α → Act σ β} {Q : Except Problem β → Prop}
    (h : act.Raises P) (next : ∀ a, (f a).Ends Q) (failed : ∀ p, P p → Q (.error p)) :
    (act >>= f).Ends Q :=
  Ends.bind h (fun a _ => next a) fun p raised => failed p (raised p rfl)

theorem Raises.bind {act : Act σ α} {f : α → Act σ β} (h : act.Raises P)
    (next : ∀ a, (f a).Raises P) : (act >>= f).Raises P :=
  h.bind_ends next fun _ => fails_error

/-- Writing into the journal, reading and changing the state raise nothing. -/
theorem raises_after {act : Act σ α} {f : α → Act σ β} (h : ∀ w, ∃ a, (act.runOn w).1 = .ok a)
    (next : ∀ a, (f a).Raises P) : (act >>= f).Raises P :=
  Ends.after h next

theorem Raises.after_note {e : Entry} {act : Act σ α} (h : act.Raises P) :
    (note e >>= fun _ => act).Raises P :=
  Ends.after_note h

theorem Raises.attempt_bind {act : Act σ α} {f : Except Problem α → Act σ β} (h : act.Raises P)
    (next : ∀ outcome, Fails outcome P → (f outcome).Raises P) :
    (attempt act >>= f).Raises P :=
  Ends.attempt_bind h next

theorem Raises.ensuring {act : Act σ α} {last : Act σ Unit} (h : act.Raises P)
    (hlast : last.Raises P) : (Act.ensuring act last).Raises P := by
  refine Ends.ensuring h hlast fun o o' ho ho' => ?_
  cases o' with
  | ok _ => exact ho
  | error p => exact fails_error (ho' p rfl)

end Act

/-! ## 2. What the surroundings report -/

/-- The stages of a transfer. -/
def Transfer.stages (t : Transfer) : List Stage :=
  [t.opening, t.openingFile, t.writing, t.closingFile, t.closing]

/-- The problem is a part of what the host answers in some state, or another
task raises it. -/
inductive Surroundings.Reports (env : Surroundings σ) (p : Problem) : Prop
  | key {material : List UInt8} {s : σ} (h : env.host.importKey material s = .error p)
  | knownHosts {known : Json} {s : σ} (h : env.host.importKnownHosts known s = .error p)
  | connect {d : Dial} {s : σ} (h : (env.host.connect d s).1 = .error p)
  | transfer {path : String} {content : Json} {s : σ}
      (h : .error p ∈ (env.host.transfer path content s).1.stages)
  | starting {command : String} {s : σ} (h : (env.host.command command s).1.opening = .error p)
  | running {command : String} {s : σ} (h : (env.host.command command s).1.waiting = .error p)
  | finishing {command : String} {s : σ} (h : (env.host.command command s).1.closing = .error p)
  | disconnect {s : σ} (h : (env.host.disconnect s).1 = .error p)
  | task {pause : Pause} {w : World σ} (h : ((env.meanwhile pause).runOn w).1 = .error p)

/-- If the problem is an unknown name, then the surroundings report it. -/
def Surroundings.Explains (env : Surroundings σ) (p : Problem) : Prop :=
  p.isUnknownName = true → env.Reports p

namespace Surroundings

variable {env : Surroundings σ}

theorem explains_failure (f : Failure) : env.Explains (.failure f) := fun unknown => by
  cases unknown

theorem explains_fault {f : Fault} (h : f.kind ≠ .unknownName) : env.Explains (.fault f) :=
  fun unknown => absurd (eq_of_beq unknown) h

theorem explains_of_reports {p : Problem} (h : env.Reports p) : env.Explains p := fun _ => h

theorem raises_meanwhile (pause : Pause) : (env.meanwhile pause).Raises env.Explains :=
  fun _ _ raised => explains_of_reports (.task raised)

end Surroundings

open Surroundings

variable {env : Surroundings σ}

/-! ## 3. Uploads and commands -/

namespace Channel

theorem raises_await {α : Type} (pause : Pause) {stage : Except Problem α}
    (h : Fails stage env.Reports) : (await env pause stage).Raises env.Explains :=
  (raises_meanwhile pause).bind fun _ => raises_settle (h.mono fun _ => explains_of_reports)

theorem raises_sendFile {t : Transfer} (h : ∀ stage ∈ t.stages, Fails stage env.Reports)
    (content : Json) (path : String) : (sendFile env t content path).Raises env.Explains := by
  unfold Transfer.stages at h
  unfold sendFile
  refine (raises_await _ (h _ (by simp))).bind fun _ => Raises.after_note ?_
  refine Raises.ensuring ?_ (Raises.after_note (raises_await _ (h _ (by simp))))
  refine Raises.after_note ?_
  refine (raises_await _ (h _ (by simp))).bind fun _ => Raises.after_note ?_
  refine Raises.ensuring ?_ (Raises.after_note (raises_await _ (h _ (by simp))))
  exact (raises_await _ (h _ (by simp))).bind fun _ => fun _ => fails_ok

theorem fails_octetCount (content : Json) :
    Fails (octetCount content) fun f => f.kind ≠ .unknownName := by
  unfold octetCount
  split
  · exact Fails.mapError fun _ _ => by simp
  · exact fails_error (by simp)

theorem raises_upload (content : Json) (path : String) :
    (upload env content path).Raises env.Explains := by
  unfold upload
  refine ends_ask_bind fun s => ?_
  have sent : (sendFile env (env.host.transfer path content s).1 content path).Raises
      env.Explains :=
    raises_sendFile (fun stage member p failed => .transfer (failed ▸ member)) content path
  refine sent.attempt_bind fun outcome explained => ?_
  rcases outcome with p | _
  · rcases p with f | f | f
    · exact raises_raise (explained _ rfl)
    · exact raises_raise (explained _ rfl)
    · dsimp only
      split
      · exact Raises.after_note (raises_raise (explains_failure _))
      · exact raises_raise (explained _ rfl)
  · refine (raises_settle ?_).bind fun _ => fun _ => fails_ok
    exact ((fails_octetCount content).mono fun _ => explains_fault).mapError

theorem raises_converse {c : Course} (opening : Fails c.opening env.Reports)
    (waiting : Fails c.waiting env.Reports) (closing : Fails c.closing env.Reports)
    (command : String) (limit : Option Decimal.Number) :
    (converse env c command limit).Raises env.Explains := by
  unfold converse
  refine Raises.after_note ((raises_await _ opening).bind fun _ => ?_)
  refine Raises.after_note (Raises.ensuring ?_ ?_)
  · exact Raises.after_note (raises_await _ waiting)
  · exact Raises.after_note (raises_await _ closing)

theorem raises_run (command : String) (limit : Option Decimal.Number) :
    (run env command limit).Raises env.Explains := by
  unfold run
  refine ends_ask_bind fun s => ?_
  have talked : (converse env (env.host.command command s).1 command limit).Raises
      env.Explains :=
    raises_converse (fun _ => .starting) (fun _ => .running) (fun _ => .finishing) command limit
  refine talked.attempt_bind fun outcome explained => ?_
  rcases outcome with p | completion
  · rcases p with f | f | f
    · exact raises_raise (explained _ rfl)
    · exact raises_raise (explained _ rfl)
    · dsimp only
      split
      · exact Raises.after_note (raises_pure _)
      · exact raises_raise (explained _ rfl)
  · dsimp only
    split
    · exact Raises.after_note (raises_pure _)
    · exact raises_pure _

theorem raises_close : (close env).Raises env.Explains := by
  unfold close
  refine Raises.after_note (Raises.after_note ?_)
  refine ends_ask_bind fun s => Raises.after_note ?_
  exact raises_await _ fun _ => .disconnect

end Channel

/-! ## 4. Scripts -/

namespace Staging

theorem raises_remove (path : String) :
    (remove (Session.over env) path).Raises env.Explains := by
  unfold remove
  refine (Channel.raises_run _ _).bind fun removal => ?_
  split
  · exact fun _ => fails_ok
  · split
    · exact fun _ => fails_ok
    · exact raises_pure _

theorem fails_filled (script : Script) (vars : List Variable) :
    Fails (filled script vars) fun f => f.kind ≠ .unknownName := by
  unfold filled
  split
  · exact fails_ok
  · split
    · exact fails_ok
    · exact fails_error (by simp)

theorem raises_execute (script : Script) (m : Manner) :
    (execute env (Session.over env) script m).Raises env.Explains := by
  unfold execute
  refine (raises_settle ?_).bind fun content => raises_after (fun _ => ⟨_, rfl⟩) fun path => ?_
  · exact ((fails_filled script m.vars).mono fun _ => explains_fault).mapError
  · refine Raises.attempt_bind (Channel.raises_upload content path) fun outcome explained => ?_
    rcases outcome with p | _
    · rcases p with f | f | f
      · dsimp only
        split
        · exact raises_pure _
        · exact raises_raise (explained _ rfl)
      · exact raises_raise (explained _ rfl)
      · exact raises_raise (explained _ rfl)
    · refine Raises.bind (Channel.raises_run _ _) fun result => ?_
      split
      · exact raises_pure _
      · refine (raises_remove path).bind fun _ => ?_
        exact raises_after (fun _ => ⟨_, rfl⟩) fun _ => raises_pure _

end Staging

namespace Lifecycle

variable {place : Workplace σ}

theorem raises_runScript (session : place.session = Session.over env) (b : Bundle) (p : Phase) :
    (runScript env place b p).Raises env.Explains := by
  unfold runScript
  rw [session]
  refine Raises.after_note ?_
  refine (Staging.raises_execute _ _).attempt_bind fun outcome explained => ?_
  exact Raises.after_note (raises_settle explained)

theorem raises_observe (session : place.session = Session.over env) (b : Bundle)
    (o : Observation) : (observe env place b o).Raises env.Explains := by
  unfold observe
  split
  · exact Raises.after_note (raises_pure _)
  · refine (raises_runScript session b .statusCheck).bind fun e => ?_
    split
    · exact Raises.after_note (raises_pure _)
    · exact Raises.after_note (raises_pure _)

theorem raises_change (session : place.session = Session.over env) (p : Phase) (b : Bundle)
    (o : Observation) : (change env place p b o).Raises env.Explains := by
  unfold change
  split
  · exact Raises.after_note (raises_pure _)
  · refine (raises_runScript session b p).bind fun e => ?_
    split
    · exact raises_pure _
    · exact Raises.after_note (raises_pure _)

theorem raises_create (session : place.session = Session.over env) (b : Bundle)
    (o : Observation) : (create env place b o).Raises env.Explains := by
  unfold create
  refine (raises_change session .init b o).bind fun verdict => ?_
  split
  · exact raises_pure _
  · exact raises_pure _

theorem raises_delete (session : place.session = Session.over env) (b : Bundle)
    (o : Observation) : (delete env place b o).Raises env.Explains := by
  unfold delete
  split
  · exact Raises.after_note (raises_pure _)
  · refine (raises_runScript session b .cleanup).bind fun e => ?_
    dsimp only
    split
    · refine Raises.after_note ?_
      split
      · exact raises_pure _
      · exact raises_pure _
    · split
      · exact raises_pure _
      · exact raises_pure _

end Lifecycle

/-! ## 5. Connections -/

namespace Connection

theorem raises_knownHosts (c : Credentials) : (knownHosts env c).Raises env.Explains := by
  unfold knownHosts
  split
  · refine ends_get_bind fun w => ?_
    split
    · exact raises_pure _
    · rename_i f failed
      split
      · exact raises_raise (explains_failure _)
      · exact raises_raise (explains_of_reports (.knownHosts failed))
    · rename_i failed
      exact raises_raise (explains_of_reports (.knownHosts failed))
  · exact Raises.after_note (raises_pure _)

theorem raises_login (c : Credentials) : (login env c).Raises env.Explains := by
  unfold login
  split
  · refine ends_get_bind fun w => ?_
    split
    · exact raises_pure _
    · rename_i f failed
      split
      · exact raises_raise (explains_failure _)
      · exact raises_raise (explains_of_reports (.key failed))
    · rename_i failed
      exact raises_raise (explains_of_reports (.key failed))
  · exact raises_pure _

/-- A session is the one over the connection to the host, or else the problem
is explained. -/
def Yields (env : Surroundings σ) : Except Problem (Session σ) → Prop
  | .ok session => session = Session.over env
  | .error p => env.Explains p

theorem yields_tryConnect (c : Credentials) (p : Patience) (d : Dial) :
    ∀ more attempt, (tryConnect env c p d more attempt).Ends (Yields env)
  | more, attempt => by
    have failed (p : Problem) (explained : env.Explains p) : Yields env (.error p) := explained
    unfold tryConnect
    refine Ends.after_note ((raises_meanwhile _).bind_ends (fun _ => ?_) failed)
    refine ends_ask_bind fun s => ?_
    split
    · exact Ends.after_note (Ends.after_note (ends_pure rfl))
    · rename_i f refused
      split
      · refine Ends.after_note ?_
        -- what was refused is kept as the cause of a failure when no attempt is left
        cases more with
        | zero => exact Ends.after_note (ends_raise (explains_failure _))
        | succ more =>
          refine Ends.after_note ((raises_meanwhile _).bind_ends (fun _ => ?_) failed)
          exact yields_tryConnect c p d more (attempt + 1)
      · exact ends_raise (explains_of_reports (.connect refused))
    · rename_i refused
      exact ends_raise (explains_of_reports (.connect refused))

theorem yields_connect (c : Credentials) (p : Patience) : (connect env c p).Ends (Yields env) := by
  unfold connect
  refine (raises_knownHosts c).bind_ends (fun known => ?_) fun _ => id
  exact (raises_login c).bind_ends (fun offered => yields_tryConnect c p _ _ _) fun _ => id

end Connection

end Upkeep
