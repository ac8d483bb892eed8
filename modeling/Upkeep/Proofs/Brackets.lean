/-
Upkeep.Proofs.Brackets — whatever a pass opens, it closes again.

A connection, a channel for an upload, a file and a channel for a command
are opened within one another in one way only (`Bracket.parent`). Every
entry of a journal has a `Role`: it opens or closes one of them, or it has
its place within one, or it has nothing to do with them. `Journal.replay`
plays a journal on the stack of what is open, and fails at the first entry
that is out of place; so a journal that can be replayed from the empty stack
to the empty stack is well bracketed (`Journal.Balanced`).

`Pass.run_balanced` says that every pass is, whatever the host does and
whatever is raised. Nothing is assumed about the state in which the pass
begins.
-/
import Upkeep.Proofs.Passes

namespace Upkeep

open Upkeep.Act

/-! ## 1. Brackets -/

/-- What is opened and closed. -/
inductive Bracket
  | connection
  | channel
  | file
  | command
  deriving DecidableEq, Repr

/-- What must be open, innermost, for a bracket to be opened. -/
def Bracket.parent : Bracket → Option Bracket
  | .connection => none
  | .channel | .command => some .connection
  | .file => some .channel

/-- What an entry has to do with brackets. -/
inductive Role
  | opens (b : Bracket)
  | closes (b : Bracket)
  /-- It has its place where this bracket is innermost, or none is open. -/
  | within (b : Option Bracket)
  | neutral
  deriving DecidableEq, Repr

/-- The role of an event. -/
def Event.role : Event → Role
  | .disconnect => .closes .connection
  | .openChannel => .opens .channel
  | .closeChannel => .closes .channel
  | .openFile => .opens .file
  | .closeFile => .closes .file
  | .openCommand => .opens .command
  | .closeCommand => .closes .command
  | .connect _ | .sleep _ | .awaitDisconnect => .within none
  | .openPath _ => .within (some .channel)
  | .write _ => .within (some .file)
  | .start _ => .within (some .connection)
  | .wait _ => .within (some .command)
  | .interlude _ | .pollSleep _ => .neutral

/-- The role of a milestone. A connection is open once it was established. -/
def Milestone.role : Milestone → Role
  | .connected => .opens .connection
  | .script .. | .result .. | .closed _ => .neutral

/-- The role of an entry. -/
def Entry.role : Entry → Role
  | .event e => e.role
  | .milestone m => m.role
  | .log _ | .requested _ => .neutral

/-- What is open after an entry of some role; nothing if the entry is out of
place. -/
def Role.replay : Role → List Bracket → Option (List Bracket)
  | .opens b, stack => if stack.head? = b.parent then some (b :: stack) else none
  | .closes b, stack => if stack.head? = some b then some stack.tail else none
  | .within b, stack => if stack.head? = b then some stack else none
  | .neutral, stack => some stack

/-- What one entry opens is open afterwards, and what it closes was open. -/
theorem Role.count_of_replay (b : Bracket) {r : Role} {stack stack' : List Bracket}
    (h : r.replay stack = some stack') :
    stack.count b + (if r = .opens b then 1 else 0) =
      stack'.count b + (if r = .closes b then 1 else 0) := by
  cases r with
  | opens c =>
    rw [Role.replay] at h
    split at h <;> cases h
    simp [List.count_cons]
  | closes c =>
    rw [Role.replay] at h
    split at h
    · rename_i top
      cases h
      cases stack with
      | nil => cases top
      | cons d tail =>
        cases top
        simp [List.count_cons]
    · cases h
  | within c =>
    rw [Role.replay] at h
    split at h <;> cases h
    simp
  | neutral =>
    cases h
    simp

namespace Journal

/-- What is open after a journal; nothing if an entry is out of place. -/
def replay (j : Journal) (stack : List Bracket) : Option (List Bracket) :=
  j.foldlM (fun stack e => e.role.replay stack) stack

/-- All that is opened is closed again, in the right order, and everything
else is in its place. -/
def Balanced (j : Journal) : Prop := j.replay [] = some []

/-- How often a bracket is opened. -/
def opened (b : Bracket) (j : Journal) : Nat := j.countP (·.role = .opens b)

/-- How often a bracket is closed. -/
def closed (b : Bracket) (j : Journal) : Nat := j.countP (·.role = .closes b)

variable {a c : Journal} {stack stack' stack'' : List Bracket}

theorem replay_append (h : a.replay stack = some stack') (h' : c.replay stack' = some stack'') :
    (a ++ c).replay stack = some stack'' := by
  unfold replay at h h' ⊢
  rw [List.foldlM_append, h]
  exact h'

theorem replay_cons {e : Entry} (h : e.role.replay stack = some stack')
    (h' : c.replay stack' = some stack'') : Journal.replay (e :: c) stack = some stack'' := by
  unfold replay at h' ⊢
  rw [List.foldlM_cons, h]
  exact h'

/-- Along a replay, what is opened is closed or stays open. -/
theorem opened_of_replay (b : Bracket) : ∀ {j : Journal} {stack stack' : List Bracket},
    j.replay stack = some stack' → stack.count b + j.opened b = stack'.count b + j.closed b
  | [], stack, stack', h => by
    cases h
    rfl
  | e :: rest, stack, stack', h => by
    unfold replay at h
    rw [List.foldlM_cons] at h
    obtain ⟨next, first, later⟩ := Option.bind_eq_some_iff.mp h
    have step := Role.count_of_replay b first
    have run := opened_of_replay b (j := rest) later
    unfold opened closed at run ⊢
    rw [List.countP_cons, List.countP_cons]
    simp only [decide_eq_true_eq]
    omega

/-- In a balanced journal whatever is opened is closed as often. -/
theorem Balanced.opened_eq_closed {j : Journal} (h : j.Balanced) (b : Bracket) :
    j.opened b = j.closed b := by
  have counted := opened_of_replay b h
  simpa using counted

end Journal

/-! ## 2. Acts that leave nothing open -/

/-- What is written leads from what is open to what is open in the end, with
everything in its place, and opens this many connections. -/
structure Leads (stack stack' : List Bracket) (connections : Nat) (es : Journal) : Prop where
  replay : es.replay stack = some stack'
  opened : es.opened .connection = connections

theorem Leads.append {stack stack' stack'' : List Bracket} {m n : Nat} {es es' : Journal}
    (h : Leads stack stack' m es) (h' : Leads stack' stack'' n es') :
    Leads stack stack'' (m + n) (es ++ es') where
  replay := Journal.replay_append h.replay h'.replay
  opened := by
    rw [← h.opened, ← h'.opened]
    exact List.countP_append

/-- What is written leaves open what was open, and opens no connection. -/
abbrev Nests (stack : List Bracket) (es : Journal) : Prop := Leads stack stack 0 es

namespace Nests

variable {stack : List Bracket} {es : Journal}

theorem nil : Nests stack [] := ⟨rfl, rfl⟩

/-- One entry that is in its place. -/
theorem single {e : Entry} (h : e.role.replay stack = some stack) : Nests stack [e] where
  replay := Journal.replay_cons h rfl
  opened := by
    have other : e.role ≠ .opens .connection := by
      intro role
      rw [role, Role.replay] at h
      split at h
      · exact absurd (Option.some.inj h) (List.cons_ne_self _ _)
      · cases h
    simp [Journal.opened, other]

/-- What nests in a bracket nests around it, once the bracket is opened and
closed. -/
theorem enclosed {b : Bracket} {opening closing : Entry} (ho : opening.role = .opens b)
    (hc : closing.role = .closes b) (inner : b ≠ .connection) (place : stack.head? = b.parent)
    (h : Nests (b :: stack) es) : Nests stack (opening :: (es ++ [closing])) where
  replay := by
    have inside : opening.role.replay stack = some (b :: stack) := by
      rw [ho, Role.replay, if_pos place]
    refine Journal.replay_cons inside ?_
    refine Journal.replay_append h.replay (Journal.replay_cons ?_ rfl)
    rw [hc, Role.replay, if_pos List.head?_cons]
    rfl
  opened := by
    have none := h.opened
    unfold Journal.opened at none ⊢
    rw [List.countP_cons, List.countP_append, none]
    simp [ho, hc, inner]

end Nests

variable {σ : Type}

/-- Whatever the act writes is as `N` says. -/
def Act.Writes {α : Type} (act : Act σ α) (N : Journal → Prop) : Prop :=
  act.Keeps fun es _ _ => N es

/-- Nothing is opened or closed, and nothing is bound to a place. -/
def Neutral (es : Journal) : Prop := ∀ e ∈ es, e.role = .neutral

theorem Neutral.nests {es : Journal} (h : Neutral es) (stack : List Bracket) : Nests stack es := by
  induction es with
  | nil => exact .nil
  | cons e rest ih =>
    have first : Nests stack [e] := .single (by rw [h e (List.mem_cons_self ..)]; rfl)
    exact first.append (ih fun e he => h e (List.mem_cons_of_mem _ he))

section Writing

variable {α : Type} {stack : List Bracket}

theorem lasts_nests : Lasts (σ := σ) fun es _ _ => Nests stack es where
  refl _ := .nil
  trans h h' := h.append h'

theorem lasts_neutral : Lasts (σ := σ) fun es _ _ => Neutral es where
  refl _ _ he := by cases he
  trans h h' e he := (List.mem_append.mp he).elim (h e) (h' e)

theorem Act.Writes.nests {act : Act σ α} (h : act.Writes Neutral) (stack : List Bracket) :
    act.Writes (Nests stack) := fun w =>
  (h w).mono fun _ _ _ neutral => neutral.nests stack

/-- Whatever changes no journal writes nothing that matters. -/
theorem writes_silent {f : World σ → α × World σ} (same : ∀ w, (f w).2.journal = w.journal) :
    (modifyGet f : Act σ α).Writes (Nests stack) := fun w => gives_modifyGet (same w) .nil

theorem writes_editStore (f : Store → Store) : (editStore f : Act σ Unit).Writes (Nests stack) :=
  fun _ => gives_editStore .nil

theorem writes_ask (question : σ → α × σ) : (ask question).Writes (Nests stack) :=
  fun _ => gives_ask .nil

/-- An entry is written in its place. -/
theorem writes_note {e : Entry} (place : e.role.replay stack = some stack) :
    (note e : Act σ Unit).Writes (Nests stack) := fun _ => gives_note (.single place)

theorem writes_log {level : Log.Level} {source text : String} :
    (log level source text : Act σ Unit).Writes (Nests stack) := writes_note rfl

/-- What is done between opening and closing leaves nothing open, whatever
comes of it. -/
theorem writes_enclosed {b : Bracket} {opening closing : Entry} (ho : opening.role = .opens b)
    (hc : closing.role = .closes b) (inner : b ≠ .connection) (place : stack.head? = b.parent)
    {act : Act σ α} {last : Act σ Unit} (h : act.Writes (Nests (b :: stack)))
    (hlast : last.Writes (Nests stack)) :
    (note opening >>= fun _ => ensuring act (note closing >>= fun _ => last)).Writes
      (Nests stack) := by
  intro w
  refine gives_note_bind ((h _).ensuring fun es _ w' inside => ?_)
  refine gives_note_bind ((hlast _).mono fun es' _ _ after => ?_)
  have whole := (Nests.enclosed ho hc inner place inside).append after
  simpa using whole

end Writing

/-- What other tasks do in a pause has nothing to do with brackets. -/
def Surroundings.Neutral (env : Surroundings σ) : Prop :=
  ∀ pause, (env.meanwhile pause).Writes Upkeep.Neutral

theorem Register.writes_markDeleting (name : String) :
    (markDeleting name : Act σ Bool).Writes Neutral := by
  have lasts := lasts_neutral (σ := σ)
  have said {e : Entry} (h : e.role = .neutral) : (note e : Act σ Unit).Writes Neutral :=
    fun _ => gives_note fun _ he => by rw [List.mem_singleton.mp he, h]
  unfold markDeleting
  refine (keeps_get lasts).bind lasts fun w => ?_
  split
  · exact keeps_pure lasts _
  · refine (said rfl).bind lasts fun _ => (keeps_record lasts _).bind lasts fun r => ?_
    dsimp only
    split
    · refine Keeps.bind lasts (fun _ => gives_editStore fun _ he => by cases he) fun _ => ?_
      exact (said rfl).bind lasts fun _ => keeps_pure lasts _
    · exact keeps_pure lasts _

theorem Surroundings.neutral_marking (env : Surroundings σ)
    (marks : Pause → World σ → List String) : (env.marking marks).Neutral := by
  have lasts := lasts_neutral (σ := σ)
  have marked : ∀ names, (Register.markAll names : Act σ Unit).Writes Upkeep.Neutral := by
    intro names
    induction names with
    | nil => exact keeps_pure lasts _
    | cons name rest ih => exact (Register.writes_markDeleting name).bind lasts fun _ => ih
  exact fun pause => (keeps_get lasts).bind lasts fun w => marked (marks pause w)

/-! ## 3. Uploads and commands -/

namespace Channel

variable {env : Surroundings σ}

theorem writes_await {α : Type} (h : env.Neutral) (pause : Pause) (stage : Except Problem α)
    {stack : List Bracket} : (await env pause stage).Writes (Nests stack) :=
  ((h pause).nests stack).bind lasts_nests fun _ => keeps_settle lasts_nests stage

/-- The file is closed before the channel, and both whatever happens. -/
theorem writes_sendFile (h : env.Neutral) (t : Transfer) (content : Json) (path : String) :
    (sendFile env t content path).Writes (Nests [.connection]) := by
  unfold sendFile
  refine (writes_await h _ _).bind lasts_nests fun _ => ?_
  refine writes_enclosed (b := .channel) rfl rfl (by decide) rfl ?_ (writes_await h _ _)
  refine Keeps.bind lasts_nests (writes_note rfl) fun _ => ?_
  refine (writes_await h _ _).bind lasts_nests fun _ => ?_
  refine writes_enclosed (b := .file) rfl rfl (by decide) rfl ?_ (writes_await h _ _)
  exact (writes_await h _ _).bind lasts_nests fun _ => writes_note rfl

theorem writes_upload (h : env.Neutral) (content : Json) (path : String) :
    (upload env content path).Writes (Nests [.connection]) := by
  unfold upload
  refine (writes_ask _).bind lasts_nests fun t => ?_
  refine (writes_sendFile h t content path).attempt.bind lasts_nests fun outcome => ?_
  rcases outcome with p | _
  · rcases p with f | f | f
    · exact keeps_raise lasts_nests _
    · exact keeps_raise lasts_nests _
    · dsimp only
      split
      · exact writes_log.bind lasts_nests fun _ => keeps_raise lasts_nests _
      · exact keeps_raise lasts_nests _
  · exact (keeps_settle lasts_nests _).bind lasts_nests fun _ => writes_log

theorem writes_converse (h : env.Neutral) (c : Course) (command : String)
    (limit : Option Decimal.Number) :
    (converse env c command limit).Writes (Nests [.connection]) := by
  unfold converse
  refine Keeps.bind lasts_nests (writes_note rfl) fun _ => ?_
  refine (writes_await h _ _).bind lasts_nests fun _ => ?_
  refine writes_enclosed (b := .command) rfl rfl (by decide) rfl ?_ (writes_await h _ _)
  exact Keeps.bind lasts_nests (writes_note rfl) fun _ => writes_await h _ _

theorem writes_run (h : env.Neutral) (command : String) (limit : Option Decimal.Number) :
    (run env command limit).Writes (Nests [.connection]) := by
  unfold run
  refine (writes_ask _).bind lasts_nests fun c => ?_
  refine (writes_converse h c command limit).attempt.bind lasts_nests fun outcome => ?_
  rcases outcome with p | completion
  · rcases p with f | f | f
    · exact keeps_raise lasts_nests _
    · exact keeps_raise lasts_nests _
    · dsimp only
      split
      · exact writes_log.bind lasts_nests fun _ => keeps_pure lasts_nests _
      · exact keeps_raise lasts_nests _
  · dsimp only
    split
    · exact writes_log.bind lasts_nests fun _ => keeps_pure lasts_nests _
    · exact keeps_pure lasts_nests _

/-- The end of a connection closes it, whatever comes of that. -/
theorem writes_close (h : env.Neutral) :
    (close env).Writes (Leads [.connection] [] 0) := by
  intro w
  unfold close
  refine gives_note_bind (gives_note_bind (gives_bind (gives_ask (gives_note_bind ?_))))
  have waited (how : Stage) : (await env .closing how).Writes (Nests []) :=
    writes_await h .closing how
  refine (waited _ _).mono fun es _ _ rest => ?_
  have start (how : Stage) : Leads [.connection] [] 0
      [.event .disconnect, .event .awaitDisconnect, .milestone (.closed how)] := ⟨rfl, rfl⟩
  exact (start _).append rest

end Channel

/-! ## 4. Connections -/

namespace Connection

variable {env : Surroundings σ}

theorem writes_knownHosts (c : Credentials) {stack : List Bracket} :
    (knownHosts env c).Writes (Nests stack) := by
  unfold knownHosts
  split
  · refine (keeps_get lasts_nests).bind lasts_nests fun w => ?_
    split
    · exact keeps_pure lasts_nests _
    · split
      · exact keeps_raise lasts_nests _
      · exact keeps_raise lasts_nests _
    · exact keeps_raise lasts_nests _
  · exact writes_log.bind lasts_nests fun _ => keeps_pure lasts_nests _

theorem writes_login (c : Credentials) {stack : List Bracket} :
    (login env c).Writes (Nests stack) := by
  unfold login
  split
  · refine (keeps_get lasts_nests).bind lasts_nests fun w => ?_
    split
    · exact keeps_pure lasts_nests _
    · split
      · exact keeps_raise lasts_nests _
      · exact keeps_raise lasts_nests _
    · exact keeps_raise lasts_nests _
  · exact keeps_pure lasts_nests _

/-- One connection is open if a session is returned, and else none. -/
def Opens (env : Surroundings σ) (es : Journal) : Except Problem (Session σ) → Prop
  | .ok session => session = Session.over env ∧ Leads [] [.connection] 1 es
  | .error _ => Nests [] es

theorem Opens.after {es es' : Journal} {o : Except Problem (Session σ)} (h : Nests [] es)
    (ho : Opens env es' o) : Opens env (es ++ es') o := by
  cases o with
  | ok session => exact ⟨ho.1, by simpa using h.append ho.2⟩
  | error p => exact h.append ho

/-- What opens nothing, before what may open a connection. -/
theorem Opens.bind {α : Type} {act : Act σ α} {f : α → Act σ (Session σ)}
    (h : act.Writes (Nests []))
    (next : ∀ a w', (f a).Gives w' fun es o _ => Opens env es o) (w : World σ) :
    (act >>= f).Gives w fun es o _ => Opens env es o :=
  (h w).bind (fun _ a w' first => (next a w').mono fun _ _ _ ho => ho.after first)
    fun _ _ _ hx => hx

/-- However often it is tried, at most one connection is opened. -/
theorem opens_tryConnect (h : env.Neutral) (c : Credentials) (p : Patience) (d : Dial)
    (more attempt : Nat) (w : World σ) :
    (tryConnect env c p d more attempt).Gives w fun es o _ => Opens env es o := by
  unfold tryConnect
  refine Opens.bind (writes_note rfl) (fun _ w => ?_) w
  refine Opens.bind ((h .connecting).nests []) (fun _ w => ?_) w
  refine Opens.bind (writes_ask _) (fun outcome w => ?_) w
  rcases outcome with problem | _
  · rcases problem with f | f | f
    · exact gives_raise .nil
    · exact gives_raise .nil
    · dsimp only
      split
      · refine Opens.bind writes_log (fun _ w => ?_) w
        cases more with
        | zero => exact Opens.bind writes_log (fun _ w => gives_raise .nil) w
        | succ more =>
          refine Opens.bind (writes_note rfl) (fun _ w => ?_) w
          refine Opens.bind ((h .retrying).nests []) (fun _ w => ?_) w
          exact opens_tryConnect h c p d more (attempt + 1) w
      · exact gives_raise .nil
  · exact gives_note_bind (gives_note_bind (gives_pure ⟨rfl, rfl, rfl⟩))

theorem opens_connect (h : env.Neutral) (c : Credentials) (p : Patience) (w : World σ) :
    (connect env c p).Gives w fun es o _ => Opens env es o := by
  unfold connect
  refine Opens.bind (writes_knownHosts c) (fun _ w => ?_) w
  refine Opens.bind (writes_login c) (fun _ w => ?_) w
  exact opens_tryConnect h c p _ _ _ w

end Connection

/-! ## 5. What is done in a session -/

namespace Staging

variable {env : Surroundings σ}

theorem writes_remove (h : env.Neutral) (path : String) :
    (remove (Session.over env) path).Writes (Nests [.connection]) := by
  unfold remove
  refine (Channel.writes_run h _ _).bind lasts_nests fun removal => ?_
  split
  · exact writes_log
  · split
    · exact writes_log
    · exact keeps_pure lasts_nests _

/-- The channels of the upload are closed before the command is started. -/
theorem writes_execute (h : env.Neutral) (script : Script) (m : Manner) :
    (execute env (Session.over env) script m).Writes (Nests [.connection]) := by
  unfold execute
  refine (keeps_settle lasts_nests _).bind lasts_nests fun content => ?_
  refine (writes_silent fun _ => rfl).bind lasts_nests fun path => ?_
  refine (Channel.writes_upload h content path).attempt.bind lasts_nests fun outcome => ?_
  rcases outcome with p | _
  · rcases p with f | f | f
    · dsimp only
      split
      · exact keeps_pure lasts_nests _
      · exact keeps_raise lasts_nests _
    · exact keeps_raise lasts_nests _
    · exact keeps_raise lasts_nests _
  · refine (Channel.writes_run h _ _).bind lasts_nests fun result => ?_
    split
    · exact keeps_pure lasts_nests _
    · refine (writes_remove h path).bind lasts_nests fun _ => ?_
      refine Keeps.bind lasts_nests ?_ fun _ => keeps_pure lasts_nests _
      refine writes_log.bind lasts_nests fun _ => ?_
      exact writes_log.bind lasts_nests fun _ => writes_log

end Staging

namespace Lifecycle

variable {env : Surroundings σ} {place : Workplace σ}

theorem writes_runScript (h : env.Neutral) (session : place.session = Session.over env)
    (b : Bundle) (p : Phase) : (runScript env place b p).Writes (Nests [.connection]) := by
  unfold runScript
  rw [session]
  refine Keeps.bind lasts_nests (writes_note rfl) fun _ => ?_
  refine (Staging.writes_execute h _ _).attempt.bind lasts_nests fun outcome => ?_
  exact Keeps.bind lasts_nests (writes_note rfl) fun _ => keeps_settle lasts_nests _

theorem writes_observe (h : env.Neutral) (session : place.session = Session.over env)
    (b : Bundle) (o : Observation) : (observe env place b o).Writes (Nests [.connection]) := by
  unfold observe
  split
  · exact writes_log.bind lasts_nests fun _ => keeps_pure lasts_nests _
  · refine (writes_runScript h session b _).bind lasts_nests fun e => ?_
    split
    · exact writes_log.bind lasts_nests fun _ => keeps_pure lasts_nests _
    · exact writes_log.bind lasts_nests fun _ => keeps_pure lasts_nests _

theorem writes_change (h : env.Neutral) (session : place.session = Session.over env)
    (p : Phase) (b : Bundle) (o : Observation) :
    (change env place p b o).Writes (Nests [.connection]) := by
  unfold change
  split
  · exact writes_log.bind lasts_nests fun _ => keeps_pure lasts_nests _
  · refine (writes_runScript h session b p).bind lasts_nests fun e => ?_
    split
    · exact keeps_pure lasts_nests _
    · exact writes_log.bind lasts_nests fun _ => keeps_pure lasts_nests _

theorem writes_create (h : env.Neutral) (session : place.session = Session.over env)
    (b : Bundle) (o : Observation) : (create env place b o).Writes (Nests [.connection]) := by
  unfold create
  refine (writes_change h session .init b o).bind lasts_nests fun verdict => ?_
  split <;> exact keeps_pure lasts_nests _

theorem writes_delete (h : env.Neutral) (session : place.session = Session.over env)
    (b : Bundle) (o : Observation) : (delete env place b o).Writes (Nests [.connection]) := by
  unfold delete
  split
  · exact writes_log.bind lasts_nests fun _ => keeps_pure lasts_nests _
  · refine (writes_runScript h session b .cleanup).bind lasts_nests fun e => ?_
    dsimp only
    split
    · refine writes_log.bind lasts_nests fun _ => ?_
      split <;> exact keeps_pure lasts_nests _
    · split <;> exact keeps_pure lasts_nests _

end Lifecycle

namespace Pass

variable {env : Surroundings σ} {stack : List Bracket}

theorem writes_finish (k : Nat) (action : Action) (deleted : Bool) :
    (finish k action deleted : Act σ Report).Writes (Nests stack) := by
  unfold finish
  refine (writes_editStore _).bind lasts_nests fun _ => ?_
  refine (keeps_record lasts_nests k).bind lasts_nests fun r => ?_
  exact writes_log.bind lasts_nests fun _ => keeps_pure lasts_nests _

theorem writes_fail (k : Nat) (action : Action) (failure : Failure) :
    (fail k action failure : Act σ Report).Writes (Nests stack) := by
  unfold fail
  refine (writes_editStore _).bind lasts_nests fun _ => ?_
  refine (keeps_record lasts_nests k).bind lasts_nests fun r => ?_
  exact writes_log.bind lasts_nests fun _ => keeps_pure lasts_nests _

theorem writes_conclude (k : Nat) (action : Action) (outcome : Except Failure Unit) :
    (conclude k action outcome : Act σ Report).Writes (Nests stack) := by
  rcases outcome with failure | _
  · exact writes_fail k action failure
  · exact writes_finish k action false

theorem writes_phase {α : Type} {k : Nat} {act : Observation → Act σ (Lifecycle.Verdict α)}
    (h : ∀ seen, (act seen).Writes (Nests stack)) : (phase k act).Writes (Nests stack) := by
  unfold phase
  refine (keeps_record lasts_nests k).bind lasts_nests fun r => ?_
  refine (h r.observation).attempt.bind lasts_nests fun outcome => ?_
  rcases outcome with p | ⟨seen, verdict⟩
  · rcases p with f | f | f
    · exact keeps_pure lasts_nests _
    · exact keeps_raise lasts_nests _
    · exact keeps_raise lasts_nests _
  · exact (writes_editStore _).bind lasts_nests fun _ => keeps_pure lasts_nests _

theorem writes_respond (h : env.Neutral) (k : Nat) (survey : Survey) :
    (respond env k (workplace env (Session.over env) k) survey).Writes (Nests [.connection]) := by
  unfold respond
  refine (keeps_record lasts_nests k).bind lasts_nests fun r => ?_
  dsimp only
  split
  · refine writes_log.bind lasts_nests fun _ => ?_
    exact (writes_phase fun seen => Lifecycle.writes_create h rfl r.bundle seen).bind lasts_nests
      (writes_conclude k _)
  · refine writes_log.bind lasts_nests fun _ => ?_
    exact (writes_phase fun seen => Lifecycle.writes_change h rfl .update r.bundle seen).bind
      lasts_nests (writes_conclude k _)
  · exact (keeps_pure lasts_nests _).bind lasts_nests (writes_conclude k _)

theorem writes_sync (h : env.Neutral) (k : Nat) :
    (sync env k (Session.over env)).Writes (Nests [.connection]) := by
  unfold sync
  refine (keeps_record lasts_nests k).bind lasts_nests fun r => ?_
  refine (writes_phase fun seen => Lifecycle.writes_observe h rfl r.bundle seen).bind lasts_nests
    fun verdict => ?_
  rcases verdict with failure | survey
  · exact writes_fail k _ failure
  · dsimp only
    split
    · exact writes_log.bind lasts_nests fun _ => writes_finish k _ _
    · exact writes_respond h k survey

theorem writes_forget (name : String) :
    (Register.remove name : Act σ Unit).Writes (Nests stack) := by
  unfold Register.remove
  refine (keeps_get lasts_nests).bind lasts_nests fun _ => ?_
  refine (writes_editStore _).bind lasts_nests fun _ => ?_
  split
  · exact (keeps_get lasts_nests).bind lasts_nests fun _ => writes_log
  · exact keeps_pure lasts_nests _

theorem writes_delete (h : env.Neutral) (k : Nat) :
    (delete env k (Session.over env)).Writes (Nests [.connection]) := by
  unfold delete
  refine (writes_editStore _).bind lasts_nests fun _ => ?_
  refine (keeps_record lasts_nests k).bind lasts_nests fun r => ?_
  refine (writes_phase fun seen => Lifecycle.writes_delete h rfl r.bundle seen).bind lasts_nests
    fun verdict => ?_
  rcases verdict with failure | _
  · exact writes_fail k _ failure
  · exact (writes_forget r.name).bind lasts_nests fun _ => writes_finish k _ _

/-- Whatever is done in a session leaves the connection open, and nothing
else. -/
theorem writes_attend (h : env.Neutral) (k : Nat) :
    (attend env k (Session.over env)).Writes (Nests [.connection]) := by
  unfold attend
  refine (keeps_record lasts_nests k).bind lasts_nests fun r => ?_
  split
  · exact writes_delete h k
  · exact writes_sync h k

/-! ## 6. Passes -/

theorem opens_openSession (h : env.Neutral) (k : Nat) (w : World σ) :
    (openSession env k).Gives w fun es o _ => Connection.Opens env es o := by
  unfold openSession
  refine gives_record_bind ?_
  dsimp only
  have logged (records : List Log.Record) : (logAll records : Act σ Unit).Writes (Nests []) :=
    fun _ => gives_logAll (Neutral.nests (fun e he => by
      obtain ⟨_, -, rfl⟩ := List.mem_map.mp he
      rfl) [])
  refine Connection.Opens.bind (logged _) (fun _ w => ?_) w
  refine Connection.Opens.bind (keeps_settle lasts_nests _) (fun c w => ?_) w
  exact Connection.opens_connect h c _ w

/-- At most one connection is opened, and nothing is open in the end. -/
def AtMostOne (es : Journal) : Prop := ∃ n ≤ 1, Leads [] [] n es

theorem AtMostOne.after {es es' : Journal} (h : Nests [] es) (h' : AtMostOne es') :
    AtMostOne (es ++ es') := by
  obtain ⟨n, le, leads⟩ := h'
  exact ⟨n, le, by simpa using h.append leads⟩

theorem writes_refuse (k : Nat) (failure : Failure) :
    (refuse k failure : Act σ Report).Writes (Nests stack) := by
  unfold refuse
  refine (keeps_record lasts_nests k).bind lasts_nests fun r => ?_
  split
  · exact (writes_editStore _).bind lasts_nests fun _ => writes_fail k _ failure
  · exact writes_fail k _ failure

theorem writes_work (h : env.Neutral) (name : String) (k : Nat) :
    (work env name k).Writes AtMostOne := by
  intro w
  have none {act : Act σ Report} {es : Journal} {w' : World σ} (before : Nests [] es)
      (hact : act.Writes (Nests [])) : act.Gives w' fun es' _ _ => AtMostOne (es ++ es') :=
    (hact w').mono fun _ _ _ after => ⟨0, Nat.zero_le 1, before.append after⟩
  unfold work
  refine gives_record_bind ?_
  split
  · refine gives_edit_bind ?_
    exact none .nil ((writes_forget name).bind lasts_nests fun _ => writes_finish k .delete true)
  · refine (opens_openSession h k w).attempt_bind fun es outcome w₁ opened => ?_
    rcases outcome with p | session
    · rcases p with failure | failure | f
      · exact none opened (writes_refuse k failure)
      · exact none opened (keeps_raise lasts_nests _)
      · exact none opened (keeps_raise lasts_nests _)
    · obtain ⟨rfl, connected⟩ := opened
      refine (writes_attend h k w₁).ensuring fun es₁ _ w₂ inside => ?_
      refine (Channel.writes_close h w₂).mono fun es₂ _ _ closed => ⟨1, Nat.le_refl 1, ?_⟩
      exact connected.append (inside.append closed)

theorem writes_body (h : env.Neutral) (name : String) (k : Nat) :
    (body env name k).Writes AtMostOne := by
  intro w
  have touched : (touch env k).Writes (Nests []) := by
    unfold touch
    exact (writes_silent fun _ => rfl).bind lasts_nests fun _ => writes_editStore _
  unfold body
  refine gives_record_bind (gives_note_bind ?_)
  have said (record : Log.Record) : Nests [] [.log record] := .single rfl
  refine (touched _).bind (fun es _ w' first => ?_) fun es p w' first =>
    ⟨0, Nat.zero_le 1, (said _).append first⟩
  exact (writes_work h name k w').mono fun es' _ _ rest =>
    AtMostOne.after ((said _).append first) rest

/-- Taking a lock and giving it back writes nothing. -/
theorem writes_underLock {α : Type} {name : String} {work : Act σ α} {N : Journal → Prop}
    (nil : N []) (h : work.Writes N) : (Register.underLock name work).Writes N := by
  intro w
  have locked : (Register.lock name).Gives w fun es _ _ => es = [] := gives_modifyGet rfl rfl
  unfold Register.underLock
  refine locked.bind ?_ ?_
  · rintro _ l w₁ rfl
    refine gives_get_bind ?_
    split
    · exact gives_raise nil
    · refine gives_edit_bind ((h _).ensuring fun es _ w' hN => gives_editStore ?_)
      simpa using hN
  · rintro _ p w₁ rfl
    exact nil

theorem writes_run (h : env.Neutral) (name : String) : (run env name).Writes AtMostOne := by
  have nil : AtMostOne [] := ⟨0, Nat.zero_le 1, Nests.nil⟩
  refine writes_underLock nil fun w => gives_get_bind ?_
  split
  · exact gives_raise nil
  · exact writes_body h name _ w

/-- A deletion for which nothing is left to be tried is completed without a
word to the host. -/
theorem gives_body_silent {name : String} {k : Nat} {w : World σ}
    (deleting : (w.store.record k).deleting = true)
    (ready : (w.store.record k).cleanupAttempted = true ∨
      (w.store.record k).bundle.cleanup.isGiven = false) :
    (body env name k).Gives w fun es _ _ => es.events = [] := by
  unfold body
  refine gives_record_bind (gives_note_bind ?_)
  refine (gives_touch (w.note _)).bind ?_ (fun _ _ _ hx => by cases hx.1)
  rintro es _ w₁ ⟨-, rfl, time, touched⟩
  have known := Store.lt_length_of_deleting deleting
  have read : w₁.store.record k = { w.store.record k with lastReconciled := time } := by
    rw [touched]
    exact Store.record_edit_self known _
  unfold work
  refine gives_record_bind ?_
  rw [if_pos (by rw [read]; simpa [deleting] using ready)]
  refine gives_edit_bind ?_
  have still : k < (w₁.store.edit k Resource.spent).records.length := by
    rw [Store.length_edit, touched, World.store_note, Store.length_edit]
    exact known
  exact (gives_forget still name).mono fun es' _ _ ⟨_, _, silent, _⟩ => silent

/-- The records under a lock are those from before. -/
theorem gives_run_silent {name : String} {k : Nat} {w : World σ}
    (stored : w.store.find? name = some k) (deleting : (w.store.record k).deleting = true)
    (ready : (w.store.record k).cleanupAttempted = true ∨
      (w.store.record k).bundle.cleanup.isGiven = false) :
    (run env name).Gives w fun es _ _ => es.events = [] := by
  have locked : (Register.lock name).Gives w fun es _ w₁ => es = [] ∧ w.store.Agrees w₁.store :=
    gives_modifyGet rfl ⟨rfl, Store.agrees_lock w.store name⟩
  unfold run Register.underLock
  refine locked.bind ?_ fun es p w₁ ⟨he, _⟩ => by rw [he]; rfl
  rintro _ l w₁ ⟨rfl, same⟩
  refine gives_get_bind ?_
  split
  · exact gives_raise rfl
  · refine gives_edit_bind (Gives.ensuring (P := fun es _ _ => es.events = []) ?_
      fun es _ w' silent => gives_editStore (by simpa using silent))
    have held : w.store.Agrees (w₁.store.acquire l) := ⟨same.records, same.current⟩
    refine gives_get_bind ?_
    rw [held.find?, stored]
    rw [← held.record k] at deleting ready
    exact gives_body_silent deleting ready

/-- Every pass is well bracketed, whatever the host does and whatever is
raised: whatever is opened is closed again, in the right order, and nothing
is open in the end. At most one connection is established, and no host is
asked to complete a deletion for which nothing is left to be tried. -/
theorem run_balanced (env : Surroundings σ) (marks : Pause → World σ → List String)
    (name : String) (w : World σ) :
    (run (env.marking marks) name).Gives w fun es _ _ =>
      es.Balanced ∧ (∀ b, es.opened b = es.closed b) ∧ es.opened .connection ≤ 1 ∧
      ∀ k, w.store.find? name = some k → (w.store.record k).deleting = true →
        ((w.store.record k).cleanupAttempted = true ∨
          (w.store.record k).bundle.cleanup.isGiven = false) → es.events = [] := by
  obtain ⟨es, hj, n, le, leads⟩ := writes_run (env.neutral_marking marks) name w
  have balanced : es.Balanced := leads.replay
  refine ⟨es, hj, balanced, balanced.opened_eq_closed, leads.opened ▸ le,
    fun k stored deleting ready => ?_⟩
  have quiet : (run (env.marking marks) name).Gives w fun es _ _ => es.events = [] :=
    gives_run_silent stored deleting ready
  obtain ⟨es', hj', silent⟩ := quiet
  rw [List.append_cancel_left (hj.symm.trans hj')]
  exact silent

/-- The file of an upload cannot be written, and everything is closed. -/
theorem run_balanced_unwritten :
    let host : Host (List Int) := { Host.obliging with
      transfer := fun _ _ s => ({ writing := .error (.fault ⟨.system none, "disk full"⟩) }, s) }
    let env := host.counted.marking fun _ _ => []
    let w := Service.serve env (Service.start [])
      [.put "web" Credentials.sample { statusCheck := .text "test -d /srv" }]
    (run env "web").Gives w fun es _ _ => es.Balanced ∧
      es.closed .file = 1 ∧ es.closed .channel = 1 ∧ es.closed .command = 0 ∧
      es.closed .connection = 1 := by
  intro host env w
  obtain ⟨es, hj, balanced, matched, -⟩ := run_balanced host.counted (fun _ _ => []) "web" w
  have written := Act.eq_drop_of_added hj
  have opened : es.opened .file = 1 ∧ es.opened .channel = 1 ∧ es.opened .command = 0 ∧
      es.opened .connection = 1 := by
    rw [written]
    decide +kernel
  refine ⟨es, hj, balanced, ?_⟩
  simp only [← matched]
  exact opened

end Pass

end Upkeep
