/-
Upkeep.Proofs.Commands — what becomes of a command.

A command opens a channel, is waited for, and leaves the channel again. What
it comes to as a whole is `Course.outcome`: a problem of leaving the channel
takes the place of what waiting has come to. `Concludes` says which result a
command has by that: a status, or one of four interruptions by the class of
the fault, a time limit before all others; and with it the output that was
captured (`Capture.Renders`).

Main statement: `Channel.run_concludes` — on a host that reports only faults
of its own a command always has a result, this one and no other, and its
channel is closed if it was opened.

The surroundings are `Calm`: what other tasks do in a pause has nothing to do
with the host. Deletions may be requested meanwhile (`calm_marking`).
-/
import Upkeep.Proofs.Orderly
import Upkeep.Proofs.Utf8

namespace Upkeep

open Upkeep.Act
open Upkeep.Decimal (Number)

variable {σ : Type}

/-! ## 1. Calm surroundings -/

@[simp] theorem World.host_note (w : World σ) (e : Entry) : (w.note e).host = w.host := rfl

namespace Journal

@[simp] theorem events_cons_event (e : Event) (es : Journal) :
    events (.event e :: es) = e :: events es := rfl

@[simp] theorem events_cons_log (r : Log.Record) (es : Journal) :
    events (.log r :: es) = events es := rfl

@[simp] theorem events_cons_milestone (m : Milestone) (es : Journal) :
    events (.milestone m :: es) = events es := rfl

@[simp] theorem events_nil : events [] = [] := rfl

end Journal

/-- What other tasks do in a pause raises nothing, leaves the host alone and
writes no events. -/
def Surroundings.Calm (env : Surroundings σ) : Prop :=
  ∀ pause w, (env.meanwhile pause).Gives w fun es o w' =>
    o = .ok () ∧ es.events = [] ∧ w'.host = w.host

/-- What other tasks do in a pause adds no events to what comes next. -/
theorem Surroundings.Calm.bind {env : Surroundings σ} (calm : env.Calm) {pause : Pause}
    {α : Type} {f : Unit → Act σ α} {w : World σ}
    {R : Journal → Except Problem α → World σ → Prop}
    (next : ∀ es w', es.events = [] → w'.host = w.host →
      (f ()).Gives w' fun es' o w'' => R (es ++ es') o w'') :
    (env.meanwhile pause >>= f).Gives w R := by
  apply (calm pause w).bind
  · rintro es _ w' ⟨-, silent, same⟩
    exact next es w' silent same
  · rintro es q w' ⟨ho, -⟩
    cases ho

theorem Register.gives_markDeleting_calm (name : String) (w : World σ) :
    (markDeleting name : Act σ Bool).Gives w fun es o w' =>
      (∃ known, o = .ok known) ∧ es.events = [] ∧ w'.host = w.host := by
  unfold markDeleting
  apply gives_get_bind
  split
  · exact gives_pure ⟨⟨_, rfl⟩, rfl, rfl⟩
  · apply gives_note_bind
    apply gives_record_bind
    split
    · apply gives_edit_bind
      apply gives_note_bind
      exact gives_pure ⟨⟨_, rfl⟩, rfl, rfl⟩
    · exact gives_pure ⟨⟨_, rfl⟩, rfl, rfl⟩

theorem Surroundings.calm_marking (env : Surroundings σ)
    (marks : Pause → World σ → List String) : (env.marking marks).Calm := by
  have marked : ∀ (names : List String) (w : World σ),
      (Register.markAll names : Act σ Unit).Gives w fun es o w' =>
        o = .ok () ∧ es.events = [] ∧ w'.host = w.host := by
    intro names
    induction names with
    | nil => intro w; exact gives_pure ⟨rfl, rfl, rfl⟩
    | cons name rest ih =>
      intro w
      unfold Register.markAll
      apply (Register.gives_markDeleting_calm name w).bind
      · rintro es known w' ⟨-, silent, same⟩
        refine (ih w').mono ?_
        rintro es' o w'' ⟨ho, silent', same'⟩
        exact ⟨ho, by simp [silent, silent'], same'.trans same⟩
      · rintro es p w' ⟨⟨_, ho⟩, -⟩
        cases ho
  intro pause w
  exact gives_bind (gives_get (marked (marks pause w) w))

namespace Capture

/-- The text of a captured stream: none if nothing was captured, a text as it
is, and octets by what they stand for. -/
inductive Renders : Capture → String → Prop
  | absent : Renders .absent ""
  | text (s : String) : Renders (.text s) s
  | octets {bytes : List UInt8} {s : String} : Encoding.Utf8.Reads bytes s.toList →
      Renders (.octets bytes) s

theorem renders_iff {c : Capture} {s : String} : c.Renders s ↔ c.asText = s := by
  constructor
  · intro h
    cases h with
    | absent => rfl
    | text => rfl
    | octets read => rw [asText, Encoding.Utf8.reads_iff.mp read, String.ofList_toList]
  · rintro rfl
    cases c with
    | absent => exact .absent
    | text s => exact .text s
    | octets bytes =>
      apply Renders.octets
      rw [Encoding.Utf8.reads_iff, asText, String.toList_ofList]

theorem renders_asText (c : Capture) : c.Renders c.asText := renders_iff.mpr rfl

end Capture

/-! ## 3. What a command comes to -/

namespace Course

/-- What a command comes to as a whole. -/
def outcome (c : Course) : Except Problem Completion :=
  c.opening.bind fun _ => c.closing.bind fun _ => c.waiting

/-- What happens on the wire: the channel is opened, waited for and closed,
or it could not be opened. -/
def events (c : Course) (command : String) (limit : Option Number) : List Event :=
  .start command :: match c.opening with
    | .ok () => [.openCommand, .wait limit, .closeCommand]
    | .error _ => []

theorem Orderly.outcome {c : Course} (h : c.Orderly) : Upkeep.Orderly c.outcome := by
  intro p hp
  unfold Course.outcome at hp
  rcases ho : c.opening with q | _ <;> rw [ho] at hp
  · cases hp
    exact h.opening p ho
  · rcases hc : c.closing with q | _ <;> rw [hc] at hp
    · cases hp
      exact h.closing p hc
    · exact h.waiting p hp

end Course

namespace Channel

/-- The result of a command with a time limit, by what it came to. -/
inductive Concludes (limit : Option Number) : Except Problem Completion → Execution → Prop
  /-- Every stage went well, and a status was sent. -/
  | exited {c : Completion} {status : Int} {stdout stderr : String} :
      c.status = some status → c.stdout.Renders stdout → c.stderr.Renders stderr →
      Concludes limit (.ok c) ⟨stdout, stderr, .exited status⟩
  /-- Every stage went well, and no status was sent. -/
  | lost {c : Completion} {stdout stderr : String} :
      c.status = none → c.stdout.Renders stdout → c.stderr.Renders stderr →
      Concludes limit (.ok c) ⟨stdout, stderr, .failed ⟨.execution .connectionLost none, none⟩⟩
  /-- A time limit, and the fault brings the output so far. -/
  | cutShort {out err : Capture} {text stdout stderr : String} :
      out.Renders stdout → err.Renders stderr →
      Concludes limit (.error (.fault ⟨.commandTimedOut out err, text⟩))
        ⟨stdout, stderr,
          .failed ⟨.execution (.timedOut limit) (some ⟨.commandTimedOut out err, text⟩), none⟩⟩
  /-- A time limit, and the fault brings no output. -/
  | timedOut {f : Fault} :
      f.kind.isTimeout = true → (∀ out err, f.kind ≠ .commandTimedOut out err) →
      Concludes limit (.error (.fault f))
        ⟨"", "", .failed ⟨.execution (.timedOut limit) (some f), none⟩⟩
  | notOpened {f : Fault} :
      f.kind = .channelNotOpened →
      Concludes limit (.error (.fault f)) ⟨"", "", .failed ⟨.execution .notOpened (some f), none⟩⟩
  /-- Any other fault of the host. -/
  | broken {f : Fault} :
      f.kind.isHostFault = true → f.kind.isTimeout = false → f.kind ≠ .channelNotOpened →
      Concludes limit (.error (.fault f)) ⟨"", "", .failed ⟨.execution .broken (some f), none⟩⟩

variable {limit : Option Number}

/-- Without a fault, the result is that of the completion. -/
theorem concludes_ok_iff {c : Completion} {e : Execution} :
    Concludes limit (.ok c) e ↔ completed c = e := by
  constructor
  · intro h
    cases h with
    | exited sent out err =>
      simp [completed, sent, Capture.renders_iff.mp out, Capture.renders_iff.mp err]
    | lost unsent out err =>
      simp [completed, unsent, Capture.renders_iff.mp out, Capture.renders_iff.mp err]
  · rintro rfl
    unfold completed
    cases sent : c.status with
    | some status => exact .exited sent c.stdout.renders_asText c.stderr.renders_asText
    | none => exact .lost sent c.stdout.renders_asText c.stderr.renders_asText

/-- The classes of faults overlap, and a time limit is looked at first: so a
fault of the host has one result. -/
theorem concludes_fault_iff {f : Fault} (host : f.kind.isHostFault = true) {e : Execution} :
    Concludes limit (.error (.fault f)) e ↔ (interrupted? limit f).map Prod.fst = some e := by
  constructor
  · intro h
    cases h with
    | cutShort out err =>
      simp [interrupted?, partialOutput, Fault.Kind.isTimeout, Capture.renders_iff.mp out,
        Capture.renders_iff.mp err]
    | timedOut late bare =>
      have silent : partialOutput f.kind = ("", "") := by
        unfold partialOutput
        split
        · exact absurd ‹_› (bare _ _)
        · rfl
      simp [interrupted?, late, silent]
    | notOpened kind => simp [interrupted?, kind, Fault.Kind.isTimeout, Execution.failed]
    | broken _ inTime other => simp [interrupted?, host, inTime, other, Execution.failed]
  · obtain ⟨kind, text⟩ := f
    unfold interrupted?
    split
    · rename_i late
      simp only [Option.map_some, Option.some.injEq]
      rintro rfl
      by_cases brings : ∃ out err, kind = .commandTimedOut out err
      · obtain ⟨out, err, rfl⟩ := brings
        exact .cutShort out.renders_asText err.renders_asText
      · simp only [not_exists] at brings
        have silent : partialOutput kind = ("", "") := by
          unfold partialOutput
          split
          · exact absurd rfl (brings _ _)
          · rfl
        rw [silent]
        exact .timedOut late brings
    · rename_i inTime
      split
      · simp only [Option.map_some, Option.some.injEq]
        rintro rfl
        exact .notOpened ‹_›
      · simp only [Option.map_some, Option.some.injEq]
        rintro rfl
        exact .broken host (by simpa using inTime) ‹_›

/-! ## 4. Running a command -/

variable {env : Surroundings σ}

theorem gives_await_calm {α : Type} (calm : env.Calm) (pause : Pause)
    (stage : Except Problem α) (w : World σ) :
    (await env pause stage).Gives w fun es o w' =>
      o = stage ∧ es.events = [] ∧ w'.host = w.host := by
  apply calm.bind
  intro es w' silent same
  exact gives_settle ⟨rfl, by simpa using silent, same⟩

/-- Whatever comes of a command, its channel is closed if it was opened. -/
theorem gives_converse (calm : env.Calm) (c : Course) (command : String) (w : World σ) :
    (converse env c command limit).Gives w fun es o _ =>
      o = c.outcome ∧ es.events = c.events command limit := by
  unfold converse Course.outcome Course.events
  apply gives_note_bind
  apply (gives_await_calm calm .starting c.opening _).bind
  · rintro es _ w₁ ⟨opened, silent, -⟩
    rw [← opened]
    apply gives_note_bind
    have waited : (event (.wait limit) >>= fun _ => await env .running c.waiting).Gives
        (w₁.note (.event .openCommand)) fun es o _ =>
          o = c.waiting ∧ es.events = [.wait limit] := by
      apply gives_note_bind
      refine (gives_await_calm calm .running c.waiting _).mono ?_
      rintro es' o _ ⟨rfl, silent', -⟩
      exact ⟨rfl, by simp [silent']⟩
    apply waited.ensuring
    rintro es₁ o₁ w₂ ⟨rfl, waiting⟩
    apply gives_note_bind
    refine (gives_await_calm calm .finishing c.closing _).mono ?_
    rintro es₂ o₂ _ ⟨rfl, silent₂, -⟩
    refine ⟨rfl, ?_⟩
    simp [silent, waiting, silent₂]
  · rintro es p w₁ ⟨refused, silent, -⟩
    rw [← refused]
    exact ⟨rfl, by simp [silent]⟩

/-- A command on a host that reports only faults of its own raises nothing
and has one result; a result has a status or a failure, and not both; and the
channel of the command is closed if it was opened. -/
theorem run_concludes (env : Surroundings σ) (calm : env.Calm) (command : String)
    (limit : Option Number) (w : World σ)
    (orderly : (env.host.command command w.host).1.Orderly) :
    (run env command limit).Gives w fun es o _ =>
      let course := (env.host.command command w.host).1
      es.events = course.events command limit ∧
      ∃ e, o = .ok e ∧ (e.status? = none ↔ e.failure? ≠ none) ∧
        ∀ e', Concludes limit course.outcome e' ↔ e = e' := by
  have exclusive (e : Execution) : e.status? = none ↔ e.failure? ≠ none := by
    unfold Execution.status? Execution.failure?
    cases e.ending <;> simp
  unfold run
  apply gives_bind
  apply gives_ask
  apply (gives_converse calm _ command _).attempt_bind
  rintro es _ w₁ ⟨rfl, happened⟩
  cases came : (env.host.command command w.host).1.outcome with
  | ok completion =>
    dsimp only
    split
    · apply gives_note_bind
      apply gives_pure
      refine ⟨by simp [happened], _, rfl, exclusive _, fun e' => ?_⟩
      rw [came, concludes_ok_iff]
    · apply gives_pure
      refine ⟨by simp [happened], _, rfl, exclusive _, fun e' => ?_⟩
      rw [came, concludes_ok_iff]
  | error p =>
    have host : p.isHostFault = true := orderly.outcome p came
    cases p with
    | failure => cases host
    | told => cases host
    | fault f =>
      obtain ⟨e, text, result, -⟩ := interrupted?_of_isHostFault limit host
      dsimp only
      rw [result]
      apply gives_note_bind
      apply gives_pure
      refine ⟨by simp [happened], _, rfl, exclusive _, fun e' => ?_⟩
      rw [came, concludes_fault_iff host, result, Option.map_some, Option.some.injEq]

/-- A time limit is exceeded, after some output with an octet that stands
for no character. -/
def overrun : Fault := ⟨.commandTimedOut (.octets [0x61, 0xFF]) .absent, "too slow"⟩

/-- A host whose commands all take too long. -/
def tardy : Host Unit :=
  { Host.unreachable with command := fun _ s => ({ waiting := .error (.fault overrun) }, s) }

/-- A deletion is requested while a command takes too long. -/
theorem run_concludes_cut_short :
    let env := tardy.counted.marking fun _ _ => ["web"]
    env.Calm ∧ (env.host.command "sh run" ()).1.Orderly ∧
      (run env "sh run" none).Gives { host := () } fun es o _ =>
        es.events = [.start "sh run", .openCommand, .wait none, .closeCommand] ∧
        o = .ok ⟨"a\uFFFD", "",
          .failed ⟨.execution (.timedOut none) (some overrun), none⟩⟩ := by
  intro env
  have calm : env.Calm := tardy.counted.calm_marking _
  have orderly : (env.host.command "sh run" ()).1.Orderly :=
    ⟨orderly_ok (), fun p h => by cases h; rfl, orderly_ok ()⟩
  refine ⟨calm, orderly, ?_⟩
  refine (run_concludes env calm _ _ _ orderly).mono ?_
  rintro es o _ ⟨happened, e, ho, -, result⟩
  have read : Encoding.Utf8.Reads [0x61, 0xFF] "a\uFFFD".toList :=
    Encoding.Utf8.reads_iff.mpr (by decide)
  have same : e = _ := (result _).mp (.cutShort (.octets read) .absent)
  exact ⟨happened, ho.trans (congrArg Except.ok same)⟩

end Channel

end Upkeep
