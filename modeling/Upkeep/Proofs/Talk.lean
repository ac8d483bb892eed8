/-
Upkeep.Proofs.Talk — what talking to a host stays within.

While the service talks to a host it writes into the journal, asks the host,
draws tokens and waits; it does not touch the store by itself. So if a
relation between states lasts, and if these things and whatever other tasks
do in a pause stay within it (`Surroundings.Within`), then an upload, a
command and running a script do, however the host answers.

An attempt to connect stays within the relation too, and it returns a
session only if a connection was established: `Connection.Arrives` is a pair
of relations, the second of which holds from then on.
-/
import Upkeep.Connection
import Upkeep.Staging
import Upkeep.Proofs.Act

namespace Upkeep

open Upkeep.Act

variable {σ α : Type}

/-! ## 1. What happens in a talk -/

/-- An exchange with a host, or a log record. -/
def Entry.isAside : Entry → Bool
  | .event _ | .log _ => true
  | _ => false

/-- The states in which a question may leave the host. -/
inductive Host.Asked (h : Host σ) (s : σ) : σ → Prop
  /-- Nothing was asked. -/
  | same : h.Asked s s
  | connect (d : Dial) : h.Asked s (h.connect d s).2
  | transfer (path : String) (content : Json) : h.Asked s (h.transfer path content s).2
  | command (text : String) : h.Asked s (h.command text s).2
  | disconnect : h.Asked s (h.disconnect s).2

/-- What happens while the service talks to a host, other tasks included,
stays within the relation. -/
structure Surroundings.Within (env : Surroundings σ) (R : Journal → World σ → World σ → Prop) :
    Prop where
  lasts : Lasts R
  beside : ∀ {host : σ} (w : World σ) tokens readings, env.host.Asked w.host host →
    R [] w { w with host, tokens, readings }
  aside : ∀ {e : Entry} (w : World σ), e.isAside = true → R [e] w (w.note e)
  pause : ∀ pause, (env.meanwhile pause).Keeps R

variable {env : Surroundings σ} {R : Journal → World σ → World σ → Prop}

namespace Surroundings.Within

theorem event (h : env.Within R) (e : Event) : (Act.event e : Act σ Unit).Keeps R := fun w =>
  gives_note (h.aside w rfl)

theorem log (h : env.Within R) {level : Log.Level} {source text : String} :
    (Act.log level source text : Act σ Unit).Keeps R := fun w => gives_note (h.aside w rfl)

theorem ask (h : env.Within R) {question : σ → α × σ}
    (asked : ∀ s, env.host.Asked s (question s).2) : (Act.ask question).Keeps R := fun w =>
  gives_ask (h.beside w w.tokens w.readings (asked w.host))

/-- Log records are written one after another. -/
theorem logAll (h : env.Within R) (records : List Log.Record) :
    (Act.logAll records : Act σ Unit).Keeps R := by
  have written : ∀ (records : List Log.Record) (w : World σ), R (records.map Entry.log) w
      { w with journal := w.journal ++ records.map Entry.log } := by
    intro records
    induction records with
    | nil =>
      intro w
      simpa using h.lasts.refl w
    | cons r rest ih =>
      intro w
      have both := h.lasts.trans (h.aside (e := .log r) w rfl) (ih (w.note (.log r)))
      simpa [World.note] using both
  exact fun w => gives_logAll (written records w)

end Surroundings.Within

/-! ## 2. Uploads and commands -/

namespace Channel

theorem keeps_await (h : env.Within R) (pause : Pause) (stage : Except Problem α) :
    (await env pause stage).Keeps R :=
  (h.pause pause).bind h.lasts fun _ => keeps_settle h.lasts stage

theorem keeps_sendFile (h : env.Within R) (t : Transfer) (content : Json) (path : String) :
    (sendFile env t content path).Keeps R := by
  have lasts := h.lasts
  unfold sendFile
  refine (keeps_await h _ _).bind lasts fun _ => ?_
  refine (h.event _).bind lasts fun _ => Keeps.ensuring lasts ?_ ?_
  · refine (h.event _).bind lasts fun _ => ?_
    refine (keeps_await h _ _).bind lasts fun _ => ?_
    refine (h.event _).bind lasts fun _ => Keeps.ensuring lasts ?_ ?_
    · exact (keeps_await h _ _).bind lasts fun _ => h.event _
    · exact (h.event _).bind lasts fun _ => keeps_await h _ _
  · exact (h.event _).bind lasts fun _ => keeps_await h _ _

/-- An upload stays within the relation, however the host answers. -/
theorem keeps_upload (h : env.Within R) (content : Json) (path : String) :
    (upload env content path).Keeps R := by
  have lasts := h.lasts
  unfold upload
  refine (h.ask fun _ => .transfer path content).bind lasts fun t => ?_
  refine (keeps_sendFile h t content path).attempt.bind lasts fun outcome => ?_
  rcases outcome with p | _
  · rcases p with f | f | f
    · exact keeps_raise lasts _
    · exact keeps_raise lasts _
    · dsimp only
      split
      · exact h.log.bind lasts fun _ => keeps_raise lasts _
      · exact keeps_raise lasts _
  · exact (keeps_settle lasts _).bind lasts fun _ => h.log

theorem keeps_converse (h : env.Within R) (c : Course) (command : String)
    (limit : Option Decimal.Number) : (converse env c command limit).Keeps R := by
  have lasts := h.lasts
  unfold converse
  refine (h.event _).bind lasts fun _ => ?_
  refine (keeps_await h _ _).bind lasts fun _ => ?_
  refine (h.event _).bind lasts fun _ => Keeps.ensuring lasts ?_ ?_
  · exact (h.event _).bind lasts fun _ => keeps_await h _ _
  · exact (h.event _).bind lasts fun _ => keeps_await h _ _

/-- A command stays within the relation, however the host answers. -/
theorem keeps_run (h : env.Within R) (command : String) (limit : Option Decimal.Number) :
    (run env command limit).Keeps R := by
  have lasts := h.lasts
  unfold run
  refine (h.ask fun _ => .command command).bind lasts fun c => ?_
  refine (keeps_converse h c command limit).attempt.bind lasts fun outcome => ?_
  rcases outcome with p | completion
  · rcases p with f | f | f
    · exact keeps_raise lasts _
    · exact keeps_raise lasts _
    · dsimp only
      split
      · exact h.log.bind lasts fun _ => keeps_pure lasts _
      · exact keeps_raise lasts _
  · dsimp only
    split
    · exact h.log.bind lasts fun _ => keeps_pure lasts _
    · exact keeps_pure lasts _

end Channel

/-! ## 3. Scripts -/

namespace Staging

theorem keeps_remove (h : env.Within R) (path : String) :
    (remove (Session.over env) path).Keeps R := by
  have lasts := h.lasts
  unfold remove
  refine (Channel.keeps_run h _ _).bind lasts fun removal => ?_
  split
  · exact h.log
  · split
    · exact h.log
    · exact keeps_pure lasts _

/-- Staging a script stays within the relation, however the host answers. -/
theorem keeps_execute (h : env.Within R) (script : Script) (m : Manner) :
    (execute env (Session.over env) script m).Keeps R := by
  have lasts := h.lasts
  unfold execute
  refine (keeps_settle lasts _).bind lasts fun content => ?_
  refine Keeps.bind lasts (fun w => gives_modifyGet rfl (h.beside w _ _ .same)) fun path => ?_
  refine (Channel.keeps_upload h content path).attempt.bind lasts fun outcome => ?_
  rcases outcome with p | _
  · rcases p with f | f | f
    · dsimp only
      split
      · exact keeps_pure lasts _
      · exact keeps_raise lasts _
    · exact keeps_raise lasts _
    · exact keeps_raise lasts _
  · refine (Channel.keeps_run h _ _).bind lasts fun result => ?_
    split
    · exact keeps_pure lasts _
    · refine (keeps_remove h path).bind lasts fun _ => ?_
      refine Keeps.bind lasts ?_ fun _ => keeps_pure lasts _
      exact h.log.bind lasts fun _ => h.log.bind lasts fun _ => h.log

end Staging

/-! ## 4. Connections -/

namespace Connection

theorem keeps_knownHosts (h : env.Within R) (c : Credentials) : (knownHosts env c).Keeps R := by
  have lasts := h.lasts
  unfold knownHosts
  split
  · refine (keeps_get lasts).bind lasts fun w => ?_
    split
    · exact keeps_pure lasts _
    · split
      · exact keeps_raise lasts _
      · exact keeps_raise lasts _
    · exact keeps_raise lasts _
  · exact h.log.bind lasts fun _ => keeps_pure lasts _

theorem keeps_login (h : env.Within R) (c : Credentials) : (login env c).Keeps R := by
  have lasts := h.lasts
  unfold login
  split
  · refine (keeps_get lasts).bind lasts fun w => ?_
    split
    · exact keeps_pure lasts _
    · split
      · exact keeps_raise lasts _
      · exact keeps_raise lasts _
    · exact keeps_raise lasts _
  · exact keeps_pure lasts _

/-- The second relation holds from the moment on when a connection is
established. -/
structure Arrives (R C : Journal → World σ → World σ → Prop) : Prop where
  connected : ∀ w, C [.milestone .connected] w (w.note (.milestone .connected))
  after : ∀ {es es' w w' w''}, R es w w' → C es' w' w'' → C (es ++ es') w w''
  before : ∀ {es es' w w' w''}, C es w w' → R es' w' w'' → C (es ++ es') w w''

/-- A session that is returned is one over an established connection. -/
def Reaches (env : Surroundings σ) (R C : Journal → World σ → World σ → Prop) (es : Journal)
    (o : Except Problem (Session σ)) (w w' : World σ) : Prop :=
  match o with
  | .ok session => session = Session.over env ∧ C es w w'
  | .error _ => R es w w'

variable {C : Journal → World σ → World σ → Prop}

/-- What stays within the relation, before what may connect. -/
theorem Reaches.bind {act : Act σ α} {f : α → Act σ (Session σ)} (h : env.Within R)
    (arrives : Arrives R C) (hact : act.Keeps R)
    (next : ∀ a w', (f a).Gives w' fun es o w'' => Reaches env R C es o w' w'') (w : World σ) :
    (act >>= f).Gives w fun es o w' => Reaches env R C es o w w' := by
  refine (hact w).bind (fun es a w' first => (next a w').mono fun es' o w'' second => ?_) ?_
  · cases o with
    | ok session => exact ⟨second.1, arrives.after first second.2⟩
    | error p => exact h.lasts.trans first second
  · exact fun _ _ _ first => first

/-- Attempts to connect stay within the relation, however the host
answers. -/
theorem reaches_tryConnect (h : env.Within R) (arrives : Arrives R C) (c : Credentials)
    (p : Patience) (d : Dial) (more attempt : Nat) (w : World σ) :
    (tryConnect env c p d more attempt).Gives w fun es o w' => Reaches env R C es o w w' := by
  unfold tryConnect
  refine Reaches.bind h arrives (h.event _) (fun _ w => ?_) w
  refine Reaches.bind h arrives (h.pause .connecting) (fun _ w => ?_) w
  refine Reaches.bind h arrives (h.ask fun _ => .connect d) (fun outcome w => ?_) w
  rcases outcome with problem | _
  · rcases problem with f | f | f
    · exact gives_raise (h.lasts.refl w)
    · exact gives_raise (h.lasts.refl w)
    · dsimp only
      split
      · refine Reaches.bind h arrives h.log (fun _ w => ?_) w
        cases more with
        | zero =>
          exact Reaches.bind h arrives h.log (fun _ w => gives_raise (h.lasts.refl w)) w
        | succ more =>
          refine Reaches.bind h arrives (h.event _) (fun _ w => ?_) w
          refine Reaches.bind h arrives (h.pause .retrying) (fun _ w => ?_) w
          exact reaches_tryConnect h arrives c p d more (attempt + 1) w
      · exact gives_raise (h.lasts.refl w)
  · refine gives_note_bind (gives_note_bind (gives_pure ⟨rfl, ?_⟩))
    exact arrives.before (arrives.connected w) (h.aside _ rfl)

/-- Opening a connection stays within the relation, however the host
answers. -/
theorem reaches_connect (h : env.Within R) (arrives : Arrives R C) (c : Credentials)
    (p : Patience) (w : World σ) :
    (connect env c p).Gives w fun es o w' => Reaches env R C es o w w' := by
  unfold connect
  refine Reaches.bind h arrives (keeps_knownHosts h c) (fun _ w => ?_) w
  refine Reaches.bind h arrives (keeps_login h c) (fun _ w => ?_) w
  exact reaches_tryConnect h arrives c p _ _ _ w

end Connection

end Upkeep
