/-
Upkeep.Proofs.Orderly — what comes of scripts and connections when a host
reports only faults of its own.

A host is `Orderly` if every stage of its answers goes well or ends with a
fault that connections to remote hosts report, and if keys and known hosts
are read or found to make no sense. Then every such fault is turned into a
failure where it is met: running a script has a result
(`Staging.ends_execute`), and a connection that cannot be opened is a
failure that says why (`Connection.ends_connect`). What is raised beyond
that is not the host's: a script that cannot be put on any host
(`Staging.refusal?`) has no result, unless it fails to be put on the host
(`Staging.Yields`).
-/
import Upkeep.Staging
import Upkeep.Proofs.Exchange

namespace Upkeep

open Upkeep.Act

variable {σ : Type}

/-! ## 1. Orderly hosts -/

/-- A problem is a fault of the host. -/
def Problem.isHostFault : Problem → Bool
  | .fault f => f.kind.isHostFault
  | _ => false

/-- A problem is a value that cannot be made sense of. -/
def Problem.isValueFault : Problem → Bool
  | .fault f => f.kind.isValueFault
  | _ => false

/-- The fault that was raised, if one was. -/
def faultOf? {α : Type} : Except Problem α → Option Fault
  | .error (.fault f) => some f
  | _ => none

theorem eq_of_faultOf? {α : Type} {o : Except Problem α} {f : Fault} (h : faultOf? o = some f) :
    o = .error (.fault f) := by
  unfold faultOf? at h
  split at h <;> cases h
  rfl

/-- A stage goes well or ends with a fault of the host. -/
def Orderly {α : Type} (stage : Except Problem α) : Prop :=
  ∀ p, stage = .error p → p.isHostFault = true

/-- Every stage of the transfer is orderly. -/
structure Transfer.Orderly (t : Transfer) : Prop where
  opening : Upkeep.Orderly t.opening
  openingFile : Upkeep.Orderly t.openingFile
  writing : Upkeep.Orderly t.writing
  closingFile : Upkeep.Orderly t.closingFile
  closing : Upkeep.Orderly t.closing

/-- Every stage of the command is orderly. -/
structure Course.Orderly (c : Course) : Prop where
  opening : Upkeep.Orderly c.opening
  waiting : Upkeep.Orderly c.waiting
  closing : Upkeep.Orderly c.closing

/-- Whatever the host reports is a fault of its own; keys and known hosts
are read, or are values that cannot be made sense of. -/
structure Host.Orderly (h : Host σ) : Prop where
  importKey : ∀ material s p, h.importKey material s = .error p → p.isValueFault = true
  importKnownHosts : ∀ known s p, h.importKnownHosts known s = .error p → p.isValueFault = true
  connect : ∀ d s, Upkeep.Orderly (h.connect d s).1
  transfer : ∀ path content s, (h.transfer path content s).1.Orderly
  command : ∀ text s, (h.command text s).1.Orderly
  disconnect : ∀ s, Upkeep.Orderly (h.disconnect s).1

/-- A host that accepts everything. Its commands exit with the statuses of a
list, one after the other, and with zero from then on. -/
def Host.obliging : Host (List Int) where
  importKey _ _ := .ok ()
  importKnownHosts _ _ := .ok ()
  connect _ s := (.ok (), s)
  transfer _ _ s := ({}, s)
  command _ s := ({ waiting := .ok { status := some (s.headD 0) } }, s.tail)
  disconnect s := (.ok (), s)

theorem orderly_ok {α : Type} (a : α) : Orderly (.ok a) := fun _ h => by cases h

theorem Host.orderly_obliging : Host.obliging.Orderly where
  importKey _ _ _ h := by cases h
  importKnownHosts _ _ _ h := by cases h
  connect _ _ := orderly_ok ()
  transfer _ _ _ :=
    ⟨orderly_ok (), orderly_ok (), orderly_ok (), orderly_ok (), orderly_ok ()⟩
  command _ _ := ⟨orderly_ok (), orderly_ok _, orderly_ok ()⟩
  disconnect _ := orderly_ok ()

/-- The host, but for its connections, whose end is a fault. -/
def Host.breaking (h : Host σ) (f : Fault) : Host σ :=
  { h with disconnect := fun s => (.error (.fault f), s) }

theorem Host.Orderly.breaking {h : Host σ} (hh : h.Orderly) {f : Fault}
    (hf : f.kind.isHostFault = true) : (h.breaking f).Orderly :=
  { hh with disconnect := fun _ _ hp => by cases hp; exact hf }

/-- A host that refuses a number of connections, and then accepts
everything. -/
def Host.hesitant : Host Nat where
  importKey _ _ := .ok ()
  importKnownHosts _ _ := .ok ()
  connect _ refusals := match refusals with
    | 0 => (.ok (), 0)
    | more + 1 => (.error (.fault ⟨.connectionRefused, "refused"⟩), more)
  transfer _ _ refusals := ({}, refusals)
  command _ refusals := ({}, refusals)
  disconnect refusals := (.ok (), refusals)

/-- Credentials for any host. -/
def Credentials.sample : Json :=
  .object [("hostIP", .text "10.0.0.1"), ("username", .text "root"), ("password", .text "secret")]

/-- A host in surroundings where tokens and times are counted. -/
def Host.counted (h : Host σ) : Surroundings σ where
  host := h
  token n := toString n
  clock n := toString n

/-- Whatever is done last, its problem is as orderly as the one that it
takes the place of. -/
theorem Orderly.ensuring {α : Type} {act : Act σ α} {last : Act σ Unit}
    (h : act.Ends Orderly) (hlast : last.Ends Orderly) : (Act.ensuring act last).Ends Orderly := by
  refine h.ensuring hlast fun o o' ho ho' => ?_
  cases o' with
  | ok _ => exact ho
  | error p => exact fun q hq => ho' q (by cases hq; rfl)

/-! ## 2. Uploads and commands -/

namespace Channel

variable {env : Surroundings σ}

theorem ends_await {α : Type} (h : env.Unobtrusive) (pause : Pause) (stage : Except Problem α) :
    (await env pause stage).Ends (· = stage) := fun w => by
  obtain ⟨_, _, ho, _⟩ := gives_await h pause stage w
  exact ho

theorem ends_sendFile (h : env.Unobtrusive) {t : Transfer} (ht : t.Orderly) (content : Json)
    (path : String) : (sendFile env t content path).Ends Orderly := by
  have stage {pause : Pause} {s : Stage} (hs : Orderly s) : (await env pause s).Ends Orderly :=
    (ends_await h pause s).mono fun o ho => ho ▸ hs
  have closed {pause : Pause} {e : Event} {s : Stage} (hs : Orderly s) :
      (event e >>= fun _ => await env pause s).Ends Orderly :=
    Ends.after_note (stage hs)
  unfold sendFile
  refine (stage ht.opening).bind (fun _ _ => ?_) (fun _ hp => hp)
  refine Ends.after_note ?_
  refine Orderly.ensuring ?_ (closed ht.closing)
  refine Ends.after_note ?_
  refine (stage ht.openingFile).bind (fun _ _ => ?_) (fun _ hp => hp)
  refine Ends.after_note ?_
  refine Orderly.ensuring ?_ (closed ht.closingFile)
  exact (stage ht.writing).bind (fun _ _ => ends_note (orderly_ok ())) fun _ hp => hp

/-- What can come of an upload: it goes well, and then the content has octets;
or the transfer fails; or the content is such that no host could take it. -/
def Sends (content : Json) : Except Problem Unit → Prop
  | .ok () => ∃ n, octetCount content = .ok n
  | .error p => (∃ why, p = .failure why ∧ why.category = .transfer) ∨
      ∃ f, p = .fault f ∧ octetCount content = .error f

theorem ends_upload (h : env.Unobtrusive) (hh : env.host.Orderly) (content : Json)
    (path : String) : (upload env content path).Ends (Sends content) := by
  unfold upload
  refine ends_ask_bind fun s => ?_
  refine (ends_sendFile h (hh.transfer path content s) content path).attempt_bind ?_
  intro outcome hx
  rcases outcome with p | _
  · have hp := hx p rfl
    rcases p with f | f | f
    · cases hp
    · cases hp
    · dsimp only
      rw [if_pos (show f.kind.isHostFault = true from hp)]
      exact Ends.after_note (ends_raise (Or.inl ⟨_, rfl, rfl⟩))
  · -- what was written is counted in octets, which not every content has
    dsimp only
    rcases hc : octetCount content with f | n
    · refine Ends.bind (P := (· = .error (.fault f))) (ends_settle rfl) (fun _ ho => by cases ho) ?_
      intro p hp
      cases hp
      exact Or.inr ⟨f, rfl, hc⟩
    · refine Ends.bind (P := (· = .ok n)) (ends_settle rfl) (fun m _ => ?_) (fun _ ho => by cases ho)
      exact ends_note ⟨n, hc⟩

theorem ends_converse (h : env.Unobtrusive) {c : Course} (hc : c.Orderly) (command : String)
    (limit : Option Decimal.Number) : (converse env c command limit).Ends Orderly := by
  have stage {α : Type} {pause : Pause} {s : Except Problem α} (hs : Orderly s) :
      (await env pause s).Ends Orderly := (ends_await h pause s).mono fun o ho => ho ▸ hs
  unfold converse
  refine Ends.after_note ?_
  refine (stage hc.opening).bind (fun _ _ => ?_) (fun _ hp q hq => hp q (by cases hq; rfl))
  refine Ends.after_note ?_
  refine Orderly.ensuring ?_ ?_
  · exact Ends.after_note (stage hc.waiting)
  · exact Ends.after_note (stage hc.closing)

/-- A fault of the host that interrupts a command becomes its result. -/
theorem interrupted?_of_isHostFault (limit : Option Decimal.Number) {f : Fault}
    (hf : f.kind.isHostFault = true) :
    ∃ result text, interrupted? limit f = some (result, text) ∧
      ∀ why, result.ending = .failed why → why.category = .execution := by
  unfold interrupted?
  rw [if_pos hf]
  split
  · exact ⟨_, _, rfl, fun why hw => by cases hw; rfl⟩
  · split
    · exact ⟨_, _, rfl, fun why hw => by cases hw; rfl⟩
    · exact ⟨_, _, rfl, fun why hw => by cases hw; rfl⟩

/-- A command on an orderly host always has a result. -/
theorem ends_run (h : env.Unobtrusive) (hh : env.host.Orderly) (command : String)
    (limit : Option Decimal.Number) :
    (run env command limit).Ends fun o => ∃ e, o = .ok e ∧
      ∀ why, e.ending = .failed why → why.category = .execution := by
  unfold run
  refine ends_ask_bind fun s => ?_
  refine (ends_converse h (hh.command command s) command limit).attempt_bind fun outcome hx => ?_
  rcases outcome with p | completion
  · rcases p with f | f | f
    · cases hx _ rfl
    · cases hx _ rfl
    · obtain ⟨result, text, hr, hcat⟩ := interrupted?_of_isHostFault limit (hx _ rfl)
      dsimp only
      rw [hr]
      exact Ends.after_note (ends_pure ⟨result, rfl, hcat⟩)
  · have done : ∀ why, (completed completion).ending = .failed why → why.category = .execution := by
      intro why hw
      unfold completed at hw
      split at hw <;> cases hw
      rfl
    dsimp only
    split
    · exact Ends.after_note (ends_pure ⟨_, rfl, done⟩)
    · exact ends_pure ⟨_, rfl, done⟩

end Channel

/-! ## 3. Scripts -/

/-- The failure may clear by itself, and is about the host and not about
what the script or the credentials say. -/
structure Failure.Passing (why : Failure) : Prop where
  isTransient : why.isTransient = true
  notMisconfiguration : why.isMisconfiguration = false
  notFatalExit : why.isFatalExit = false

/-- What goes wrong between here and the host passes. -/
theorem Failure.passing_of_category {why : Failure}
    (h : why.category ∈ [.connection, .transfer, .execution]) : why.Passing := by
  obtain ⟨trouble, cause⟩ := why
  cases trouble with
  | stated => exact absurd h (show Category.general ∉ _ by decide)
  | configuration => exact absurd h (show Category.configuration ∉ _ by decide)
  | scriptExit => exact absurd h (show Category.scriptExit ∉ _ by decide)
  | connection => exact ⟨rfl, rfl, rfl⟩
  | transfer => exact ⟨rfl, rfl, rfl⟩
  | execution => exact ⟨rfl, rfl, rfl⟩

/-- A script's exit that needs no operator passes too. -/
theorem Failure.passing_of_exited {exit : ScriptExit} (h : exit.fatal = false) :
    (Failure.exited exit).Passing where
  isTransient := congrArg (!·) h
  notMisconfiguration := rfl
  notFatalExit := h

namespace Staging

variable {env : Surroundings σ}

/-- What is wrong with a script that no host could take: it cannot be
filled, or what it is filled to has no octets. -/
def refusal? (script : Script) (vars : List Variable) : Option Fault :=
  match filled script vars with
  | .error f => some f
  | .ok content =>
    match Channel.octetCount content with
    | .error f => some f
    | .ok _ => none

/-- A script that no host could take: half of a surrogate pair has no
octets. -/
def half : Script := .text (String.singleton (Text.charOf 0xD800))

/-- What is wrong with half of a surrogate pair. -/
def halfFault : Fault :=
  ⟨.unencodableText,
    "'utf-8' codec can't encode character '\\ud800' in position 0: surrogates not allowed"⟩

example : refusal? half [] = some halfFault := by decide +kernel

/-- The script has a result: if it failed, it failed in a way that may clear
by itself; and if no host could take it, it failed to be put on this one. -/
structure Yields (script : Script) (vars : List Variable) (e : Execution) : Prop where
  passing : ∀ why, e.ending = .failed why → why.Passing
  unsent : (refusal? script vars).isSome = true →
    ∃ why, e.ending = .failed why ∧ why.isTransfer = true

/-- What can come of a script on an orderly host: a result; or nothing,
because no host could take the script. -/
def Comes (script : Script) (vars : List Variable) : Except Problem Execution → Prop
  | .ok e => Yields script vars e
  | .error p => ∃ f, p = .fault f ∧ refusal? script vars = some f

/-- The failure of a transfer is a result, whatever the script. -/
theorem yields_of_transfer (script : Script) (vars : List Variable) {why : Failure}
    (h : why.category = .transfer) : Yields script vars (.failed why) where
  passing _ hw := by
    cases hw
    exact Failure.passing_of_category (by simp [h])
  unsent _ := ⟨why, rfl, by simp [Failure.isTransfer, h]⟩

/-- So is any result of a script that a host can take. -/
theorem yields_of_sendable {script : Script} {vars : List Variable} {e : Execution}
    (sendable : refusal? script vars = none)
    (h : ∀ why, e.ending = .failed why → why.category = .execution) : Yields script vars e where
  passing why hw := Failure.passing_of_category (by simp [h why hw])
  unsent refused := by
    rw [sendable] at refused
    cases refused

/-- Whatever comes of the removal of a file, it raises nothing. -/
theorem ends_remove (h : env.Unobtrusive) (hh : env.host.Orderly) (path : String) :
    (remove (Session.over env) path).Ends (· = .ok ()) := by
  unfold remove
  refine (Channel.ends_run h hh _ _).returned_bind fun removal _ => ?_
  split
  · exact ends_note rfl
  · split
    · exact ends_note rfl
    · exact ends_pure rfl

theorem ends_execute (h : env.Unobtrusive) (hh : env.host.Orderly) (script : Script)
    (m : Manner) : (execute env (Session.over env) script m).Ends (Comes script m.vars) := by
  unfold execute
  rcases hf : filled script m.vars with f | content
  · refine Ends.bind (P := (· = .error (.fault f))) (ends_settle rfl) (fun _ ho => by cases ho) ?_
    intro p hp
    cases hp
    exact ⟨f, rfl, by simp only [refusal?, hf]⟩
  · refine Ends.bind (P := (· = .ok content)) (ends_settle rfl) ?_ (fun _ ho => by cases ho)
    intro _ hc
    cases hc
    refine Ends.after (fun w => ⟨_, rfl⟩) fun path => ?_
    refine (Channel.ends_upload h hh content path).attempt_bind fun outcome hup => ?_
    rcases outcome with p | _
    · obtain ⟨why, rfl, hcat⟩ | ⟨f, rfl, hcount⟩ := hup
      · dsimp only
        rw [if_pos (show why.isTransfer = true by simp [Failure.isTransfer, hcat])]
        exact ends_pure (yields_of_transfer script m.vars hcat)
      · exact ends_raise ⟨f, rfl, by simp only [refusal?, hf, hcount]⟩
    · obtain ⟨n, hcount⟩ := hup
      have sendable : refusal? script m.vars = none := by simp only [refusal?, hf, hcount]
      refine (Channel.ends_run h hh _ _).returned_bind fun result hcat => ?_
      have yields : Comes script m.vars (.ok result) := yields_of_sendable sendable hcat
      split
      · exact ends_pure yields
      · refine (ends_remove h hh path).bind (fun _ _ => ?_) (fun p ho => by cases ho)
        exact Ends.after (fun w => ⟨(), rfl⟩) fun _ => ends_pure yields

end Staging

/-! ## 4. Connections -/

/-- The failure is about the connection. -/
def Failure.isConnection (why : Failure) : Bool := why.category == .connection

namespace Connection

variable {env : Surroundings σ}

/-- Why a session cannot be opened: the key or the known hosts make no
sense, or no attempt to connect went well. -/
def Refused : Except Problem (Session σ) → Prop
  | .ok _ => True
  | .error p => ∃ why, p = .failure why ∧
      (why.isMisconfiguration = true ∨ why.isConnection = true)

theorem ends_knownHosts (hh : env.host.Orderly) (c : Credentials) :
    (knownHosts env c).Ends fun o => ∀ p, o = .error p →
      ∃ why, p = .failure why ∧ why.isMisconfiguration = true := by
  unfold knownHosts
  split
  · refine ends_get_bind fun w => ?_
    split
    · exact ends_pure fun p hp => by cases hp
    · rename_i f hf
      have value : f.kind.isValueFault = true := hh.importKnownHosts _ _ _ hf
      rw [value, Bool.true_or, if_pos rfl]
      exact ends_raise fun p hp => by cases hp; exact ⟨_, rfl, rfl⟩
    · rename_i p hother hp
      have value := hh.importKnownHosts _ _ _ hp
      cases p <;> first | exact absurd rfl (hother _) | cases value
  · refine Ends.after_note ?_
    exact ends_pure fun p hp => by cases hp

theorem ends_login (hh : env.host.Orderly) (c : Credentials) :
    (login env c).Ends fun o => ∀ p, o = .error p →
      ∃ why, p = .failure why ∧ why.isMisconfiguration = true := by
  unfold login
  split
  · refine ends_get_bind fun w => ?_
    split
    · exact ends_pure fun p hp => by cases hp
    · rename_i f hf
      rw [if_pos (show f.kind.isValueFault = true from hh.importKey _ _ _ hf)]
      exact ends_raise fun p hp => by cases hp; exact ⟨_, rfl, rfl⟩
    · rename_i p hother hp
      have value := hh.importKey _ _ _ hp
      cases p <;> first | exact absurd rfl (hother _) | cases value
  · exact ends_pure fun p hp => by cases hp

theorem ends_tryConnect (h : env.Unobtrusive) (hh : env.host.Orderly) (c : Credentials)
    (p : Patience) (d : Dial) (more attempt : Nat) :
    (tryConnect env c p d more attempt).Ends Refused := by
  have quiet {pause : Pause} : (env.meanwhile pause).Ends (· = .ok ()) := fun w => by
    obtain ⟨_, _, ho, _⟩ := h pause w
    exact ho
  unfold tryConnect
  refine Ends.after_note ?_
  refine quiet.bind (fun _ _ => ?_) (fun p hp => by cases hp)
  refine ends_ask_bind fun s => ?_
  rcases hstage : (env.host.connect d s).1 with problem | _
  · have fault := hh.connect d s problem hstage
    rcases problem with f | f | f
    · cases fault
    · cases fault
    · dsimp only
      rw [if_pos (show f.kind.isHostFault = true from fault)]
      refine Ends.after_note ?_
      cases more with
      | zero =>
        refine Ends.after_note ?_
        exact ends_raise ⟨_, rfl, Or.inr rfl⟩
      | succ more =>
        refine Ends.after_note ?_
        refine quiet.bind (fun _ _ => ?_) (fun p hp => by cases hp)
        exact ends_tryConnect h hh c p d more (attempt + 1)
  · refine Ends.after_note ?_
    refine Ends.after_note ?_
    exact ends_pure trivial

/-- A connection that an orderly host refuses is a failure that says so. -/
theorem ends_connect (h : env.Unobtrusive) (hh : env.host.Orderly) (c : Credentials)
    (p : Patience) : (connect env c p).Ends Refused := by
  unfold connect
  refine (ends_knownHosts hh c).bind (fun _ _ => ?_) ?_
  · refine (ends_login hh c).bind (fun _ _ => ends_tryConnect h hh c p _ _ _) ?_
    intro q hq
    obtain ⟨why, rfl, hw⟩ := hq q rfl
    exact ⟨why, rfl, Or.inl hw⟩
  · intro q hq
    obtain ⟨why, rfl, hw⟩ := hq q rfl
    exact ⟨why, rfl, Or.inl hw⟩

end Connection

end Upkeep
