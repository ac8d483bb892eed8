/-
Upkeep.Proofs.Executions — what running a script asks of a session.

A session can be given a record: `Session.recorded` answers as the session
does and keeps every call together with its answer, beside the state of the
host. `Act.Records` says of two acts, one where a record is kept and one
where none is, that they come to the same, and what is recorded. So the
record shows what is asked of a session that knows nothing of it
(`Staging.records_execute`).

`Staging.Staged` lists the calls that running a script may make of a session
that keeps its promises (`Session.Promised`): the filled script is put into
a file; if that fails, nothing follows; otherwise the file is made
executable and run, and if the script exited, whatever its status, the same
file is removed. What comes of the script is what came of the second call.
What the two commands say is told by the words that the shell reads them as
(`Shell.Reads`).

Main statement: `Staging.performs_staged` — this holds of every execution in
any sequence of executions, whatever happens between them, and if the tokens
that are drawn differ no two executions use one path.
-/
import Upkeep.Staging
import Upkeep.Proofs.Act
import Upkeep.Proofs.CommandLines

namespace Upkeep

open Upkeep.Act
open Upkeep.Decimal (Number)

variable {σ α β : Type}

/-! ## 1. Sessions with a record -/

/-- A call of a session, with its answer. -/
inductive Session.Call
  | upload (content : Json) (path : String) (answer : Except Problem Unit)
  | run (command : String) (limit : Option Number) (answer : Except Problem Execution)

/-- The path that a call uploads to. -/
def Session.Call.target? : Session.Call → Option String
  | .upload _ path _ => some path
  | .run .. => none

/-- The command that a call runs. -/
def Session.Call.command? : Session.Call → Option String
  | .upload .. => none
  | .run command _ _ => some command

namespace World

/-- The state with calls recorded beside it. -/
def beside (w : World σ) (calls : List Session.Call) : World (σ × List Session.Call) where
  host := (w.host, calls)
  journal := w.journal
  store := w.store
  boundary := w.boundary
  polling := w.polling
  tokens := w.tokens
  readings := w.readings

/-- The state without what is recorded beside it. -/
def bare (w : World (σ × List Session.Call)) : World σ where
  host := w.host.1
  journal := w.journal
  store := w.store
  boundary := w.boundary
  polling := w.polling
  tokens := w.tokens
  readings := w.readings

/-- What is recorded beside the state. -/
def calls (w : World (σ × List Session.Call)) : List Session.Call := w.host.2

@[simp] theorem calls_beside (w : World σ) (calls : List Session.Call) :
    (w.beside calls).calls = calls := rfl

end World

/-- An act that is recorded as a call. -/
def Act.recording (act : Act σ α) (call : Except Problem α → Session.Call) :
    Act (σ × List Session.Call) α := fun w =>
  let (answer, w') := act.runOn w.bare
  (answer, w'.beside (w.calls ++ [call answer]))

/-- An act that is not recorded. -/
def Act.unrecorded (act : Act σ α) : Act (σ × List Session.Call) α := fun w =>
  let (outcome, w') := act.runOn w.bare
  (outcome, w'.beside w.calls)

/-- The session, with a record of what it is asked to do. -/
def Session.recorded (s : Session σ) : Session (σ × List Session.Call) where
  upload content path := (s.upload content path).recording (.upload content path)
  run command limit := (s.run command limit).recording (.run command limit)
  close := s.close.unrecorded

/-- The host, with calls recorded beside its state. -/
def Host.recorded (h : Host σ) : Host (σ × List Session.Call) where
  importKey material s := h.importKey material s.1
  importKnownHosts known s := h.importKnownHosts known s.1
  connect d s := ((h.connect d s.1).1, (h.connect d s.1).2, s.2)
  transfer path content s := ((h.transfer path content s.1).1, (h.transfer path content s.1).2, s.2)
  command text s := ((h.command text s.1).1, (h.command text s.1).2, s.2)
  disconnect s := ((h.disconnect s.1).1, (h.disconnect s.1).2, s.2)

/-- The surroundings, with calls recorded beside the state of the host. -/
def Surroundings.recorded (env : Surroundings σ) : Surroundings (σ × List Session.Call) where
  host := env.host.recorded
  settings := env.settings
  depths := env.depths
  token := env.token
  clock := env.clock
  meanwhile pause := (env.meanwhile pause).unrecorded

/-! ## 2. Acts with and without a record -/

namespace Act

/-- In state `w`, whatever is recorded already, the act comes to what the
plain one comes to, and what it adds to the record, the outcome and the state
afterwards are as `Q` says. -/
def Records (act : Act (σ × List Session.Call) α) (plain : Act σ α) (w : World σ)
    (Q : List Session.Call → Except Problem α → World σ → Prop) : Prop :=
  ∃ made, (∀ before, act.runOn (w.beside before) =
      ((plain.runOn w).1, (plain.runOn w).2.beside (before ++ made))) ∧
    Q made (plain.runOn w).1 (plain.runOn w).2

section Rules

variable {act : Act (σ × List Session.Call) α} {plain : Act σ α} {w : World σ}
  {P Q : List Session.Call → Except Problem α → World σ → Prop}
  {R : List Session.Call → Except Problem β → World σ → Prop}

theorem records_pure {a : α} (h : Q [] (.ok a) w) :
    (pure a : Act (σ × List Session.Call) α).Records (pure a) w Q :=
  ⟨[], fun before => by rw [List.append_nil]; rfl, h⟩

/-- One act after another: what the second records comes after what the first
has recorded. -/
theorem Records.bind {f : α → Act (σ × List Session.Call) β} {f' : α → Act σ β}
    (h : act.Records plain w P)
    (next : ∀ made a w', P made (.ok a) w' →
      (f a).Records (f' a) w' fun made' o w'' => R (made ++ made') o w'')
    (failed : ∀ made p w', P made (.error p) w' → R made (.error p) w') :
    (act >>= f).Records (plain >>= f') w R := by
  obtain ⟨made, same, hP⟩ := h
  unfold Records
  simp only [runOn_bind, same]
  rcases hrun : plain.runOn w with ⟨p | a, w'⟩ <;> rw [hrun] at hP
  · exact ⟨made, fun _ => rfl, failed made p w' hP⟩
  · obtain ⟨made', same', hR⟩ := next made a w' hP
    refine ⟨made ++ made', fun before => ?_, hR⟩
    dsimp only
    rw [same', List.append_assoc]

/-- An act that raises nothing, before another one. -/
theorem Records.returned_bind {S : List Session.Call → α → World σ → Prop}
    {f : α → Act (σ × List Session.Call) β} {f' : α → Act σ β}
    (h : act.Records plain w fun made o w' => ∃ a, o = .ok a ∧ S made a w')
    (next : ∀ made a w', S made a w' →
      (f a).Records (f' a) w' fun made' o w'' => R (made ++ made') o w'') :
    (act >>= f).Records (plain >>= f') w R := by
  refine h.bind ?_ ?_
  · rintro made a w' ⟨_, ho, hS⟩
    cases ho
    exact next made a w' hS
  · rintro made p w' ⟨_, ho, -⟩
    cases ho

/-- Whatever an act comes to, it is a value for the next one. -/
theorem Records.attempt_bind {f : Except Problem α → Act (σ × List Session.Call) β}
    {f' : Except Problem α → Act σ β} (h : act.Records plain w P)
    (next : ∀ made outcome w', P made outcome w' →
      (f outcome).Records (f' outcome) w' fun made' o w'' => R (made ++ made') o w'') :
    (Act.attempt act >>= f).Records (Act.attempt plain >>= f') w R := by
  refine Records.returned_bind (S := P) ?_ next
  obtain ⟨made, same, hP⟩ := h
  refine ⟨made, fun before => ?_, _, rfl, hP⟩
  show (Except.ok (act.runOn _).1, (act.runOn _).2) = _
  rw [same]
  rfl

/-- Writing into the journal is not recorded. -/
theorem records_note {e : Entry} {Q : List Session.Call → Except Problem Unit → World σ → Prop}
    (h : Q [] (.ok ()) (w.note e)) :
    (note e : Act (σ × List Session.Call) Unit).Records (note e) w Q :=
  ⟨[], fun before => by rw [List.append_nil]; rfl, h⟩

theorem records_note_bind {e : Entry} {f : Unit → Act (σ × List Session.Call) β}
    {f' : Unit → Act σ β} (h : (f ()).Records (f' ()) (w.note e) R) :
    (note e >>= f).Records (note e >>= f') w R := h

/-- A call is recorded with its answer. -/
theorem records_recording {call : Except Problem α → Session.Call}
    (h : Q [call (plain.runOn w).1] (plain.runOn w).1 (plain.runOn w).2) :
    (plain.recording call).Records plain w Q :=
  ⟨[call (plain.runOn w).1], fun _ => rfl, h⟩

end Rules

end Act

/-! ## 3. What a session promises -/

/-- An upload goes well or is a failed transfer, a command has a result, and
neither gives back a token that was drawn. -/
structure Session.Promised (s : Session σ) : Prop where
  upload : ∀ content path w p, ((s.upload content path).runOn w).1 = .error p →
    ∃ f, p = .failure f ∧ f.isTransfer = true
  run : ∀ command limit w, ∃ e, ((s.run command limit).runOn w).1 = .ok e
  upload_tokens : ∀ content path w, w.tokens ≤ ((s.upload content path).runOn w).2.tokens
  run_tokens : ∀ command limit w, w.tokens ≤ ((s.run command limit).runOn w).2.tokens

/-! ## 4. The calls of an execution -/

namespace Staging

/-- What the shell has to read in order to make a file executable and, if
that succeeds, run it. -/
def runTokens (path : String) (privileged : Bool) : List Shell.Token :=
  [.word "chmod", .word "+x", .word path, .operator "&&"] ++
    (if privileged then [.word "sudo"] else []) ++ [.word path]

/-- What the shell has to read in order to remove a file without asking. -/
def removeTokens (path : String) : List Shell.Token := [.word "rm", .word "-f", .word path]

/-- The calls that running a script from a path makes, with their answers,
and what comes of it. -/
inductive Staged (script path : String) (m : Manner) :
    List Session.Call → Except Problem Execution → Prop
  /-- The script could not be put into a file. -/
  | refused {f : Failure} : f.isTransfer = true →
      Staged script path m
        [.upload (.text (Placeholder.fill script m.vars)) path (.error (.failure f))]
        (.ok (.failed f))
  /-- The script did not run to completion. -/
  | broken {result : Execution} {why : Failure} : result.ending = .failed why →
      Shell.Reads (Shell.runCommand path m.privileged) (runTokens path m.privileged) →
      Staged script path m
        [.upload (.text (Placeholder.fill script m.vars)) path (.ok ()),
          .run (Shell.runCommand path m.privileged) m.limit (.ok result)]
        (.ok result)
  /-- The script exited, and something came of the removal. -/
  | removed {result removal : Execution} {status : Int} : result.ending = .exited status →
      Shell.Reads (Shell.runCommand path m.privileged) (runTokens path m.privileged) →
      Shell.Reads (Shell.removeCommand path) (removeTokens path) →
      Staged script path m
        [.upload (.text (Placeholder.fill script m.vars)) path (.ok ()),
          .run (Shell.runCommand path m.privileged) m.limit (.ok result),
          .run (Shell.removeCommand path) none (.ok removal)]
        (.ok result)

variable {env : Surroundings σ} {s : Session σ} {w : World σ}

/-- A command of a session that keeps its promises, before something else. -/
theorem records_run_bind (promised : s.Promised) {command : String} {limit : Option Number}
    {f : Execution → Act (σ × List Session.Call) β} {f' : Execution → Act σ β}
    {R : List Session.Call → Except Problem β → World σ → Prop}
    (next : ∀ result w', w.tokens ≤ w'.tokens →
      (f result).Records (f' result) w' fun made o w'' =>
        R (.run command limit (.ok result) :: made) o w'') :
    (s.recorded.run command limit >>= f).Records (s.run command limit >>= f') w R := by
  obtain ⟨result, answered⟩ := promised.run command limit w
  refine Records.returned_bind (S := fun made result w' =>
    made = [.run command limit (.ok result)] ∧ w.tokens ≤ w'.tokens) ?_ ?_
  · refine records_recording ⟨result, answered, ?_, promised.run_tokens command limit w⟩
    rw [answered]
  · rintro made result w' ⟨rfl, later⟩
    exact next result w' later

/-- The removal of a file is one command, whatever comes of it. -/
theorem records_remove_bind (promised : s.Promised) {path : String}
    {f : Unit → Act (σ × List Session.Call) β} {f' : Unit → Act σ β}
    {R : List Session.Call → Except Problem β → World σ → Prop}
    (next : ∀ removal w', w.tokens ≤ w'.tokens →
      (f ()).Records (f' ()) w' fun made o w'' =>
        R (.run (Shell.removeCommand path) none (.ok removal) :: made) o w'') :
    (remove s.recorded path >>= f).Records (remove s path >>= f') w R := by
  unfold remove
  refine Records.returned_bind (S := fun made _ w' => ∃ removal,
    made = [.run (Shell.removeCommand path) none (.ok removal)] ∧ w.tokens ≤ w'.tokens) ?_ ?_
  · refine records_run_bind promised fun removal w' later => ?_
    split
    · exact records_note ⟨(), rfl, removal, rfl, later⟩
    · split
      · exact records_note ⟨(), rfl, removal, rfl, later⟩
      · exact records_pure ⟨(), rfl, removal, rfl, later⟩
  · rintro made _ w' ⟨removal, rfl, later⟩
    exact next removal w' later

/-- How a script ran is logged and nothing else. -/
theorem records_logRun (status : Int) (result : Execution) :
    (logRun status result : Act (σ × List Session.Call) Unit).Records (logRun status result) w
      fun made o w' => ∃ u, o = .ok u ∧ made = [] ∧ w'.tokens = w.tokens := by
  unfold logRun
  exact records_note_bind (records_note_bind (records_note ⟨_, rfl, rfl, rfl⟩))

/-- A path that nothing was uploaded to uses the next token. -/
theorem records_freshPath (directory : String) :
    (freshPath env.recorded directory).Records (freshPath env directory) w fun made o w' =>
      ∃ name, o = .ok name ∧ made = [] ∧ name = path directory (env.token w.tokens) ∧
        w'.tokens = w.tokens + 1 :=
  ⟨[], fun _ => by rw [List.append_nil]; rfl, _, rfl, rfl, rfl, rfl⟩

/-- Running a script draws the next token, and makes the calls of a staged
script with the path of that token. -/
theorem records_execute (env : Surroundings σ) (w : World σ) (promised : s.Promised)
    (script : String) (m : Manner) :
    (execute env.recorded s.recorded (.text script) m).Records
      (execute env s (.text script) m) w fun made o w' =>
        Staged script (path m.directory (env.token w.tokens)) m made o ∧
          w.tokens < w'.tokens := by
  unfold execute
  refine Records.returned_bind (S := fun made content w' =>
    made = [] ∧ content = .text (Placeholder.fill script m.vars) ∧ w' = w)
    (records_pure ⟨_, rfl, rfl, rfl, rfl⟩) ?_
  rintro _ _ _ ⟨rfl, rfl, rfl⟩
  refine Records.returned_bind (records_freshPath m.directory) ?_
  rintro _ _ w₁ ⟨rfl, rfl, drawn⟩
  refine Records.attempt_bind (P := fun made o w' =>
    (∀ p, o = .error p → ∃ f, p = .failure f ∧ f.isTransfer = true) ∧
      made = [.upload (.text (Placeholder.fill script m.vars)) _ o] ∧ w₁.tokens ≤ w'.tokens)
    (records_recording ⟨promised.upload _ _ _, rfl, promised.upload_tokens _ _ _⟩) ?_
  rintro _ outcome w₂ ⟨refusal, rfl, later⟩
  rcases outcome with p | _
  · obtain ⟨f, rfl, transfer⟩ := refusal p rfl
    dsimp only
    rw [if_pos transfer, if_pos transfer]
    exact records_pure ⟨.refused transfer, by omega⟩
  · refine records_run_bind promised fun result w₃ later' => ?_
    cases ending : result.ending with
    | failed why => exact records_pure ⟨.broken ending (Shell.reads_runCommand _ _), by omega⟩
    | exited status =>
      refine records_remove_bind promised fun removal w₄ later'' => ?_
      refine Records.returned_bind (records_logRun status result) ?_
      rintro _ _ w₅ ⟨rfl, same⟩
      exact records_pure ⟨.removed ending (Shell.reads_runCommand _ _)
        (Shell.reads_removeCommand _), by omega⟩

/-! ## 5. Paths -/

/-- The path is that of a staged file with a token: in the directory, without
the slashes that this ends with. -/
def Names (directory token path : String) : Prop :=
  ∃ stem slashes, directory.toList = stem ++ List.replicate slashes '/' ∧
    stem.getLast? ≠ some '/' ∧ path.toList = stem ++ '/' :: "script-mcp.".toList ++ token.toList

theorem names_path (directory token : String) : Names directory token (path directory token) := by
  obtain ⟨slashes, split⟩ := Text.exists_eq_dropEndWhile_append '/' directory.toList
  refine ⟨_, slashes, split, Text.getLast?_dropEndWhile '/' _, ?_⟩
  simp [path, fileStem]

/-- What stands behind the last slash of a text is determined. -/
theorem eq_of_append_slash {a a' b b' : List Char} (hb : '/' ∉ b) (hb' : '/' ∉ b')
    (same : a ++ '/' :: b = a' ++ '/' :: b') : b = b' := by
  obtain ⟨c, -, hc⟩ | ⟨c, -, hc⟩ := List.append_eq_append_iff.mp same
  · cases c with
    | nil => exact (List.cons.inj hc).2
    | cons d rest => exact absurd ((List.cons.inj hc).2 ▸ by simp) hb
  · cases c with
    | nil => exact (List.cons.inj hc).2.symm
    | cons d rest => exact absurd ((List.cons.inj hc).2 ▸ by simp) hb'

/-- Paths of different tokens are different, whatever the directories. -/
theorem token_eq_of_path_eq {directory directory' token token' : String}
    (plain : '/' ∉ token.toList) (plain' : '/' ∉ token'.toList)
    (same : path directory token = path directory' token') : token = token' := by
  have texts := congrArg String.toList same
  simp only [path, fileStem, String.toList_append, String.toList_ofList, List.append_assoc] at texts
  have free {t : String} (h : '/' ∉ t.toList) : '/' ∉ "script-mcp.".toList ++ t.toList := by
    simpa using h
  have behind := eq_of_append_slash (free plain) (free plain') texts
  exact String.toList_inj.mp (List.append_cancel_left behind)

/-! ## 6. Sequences of executions -/

/-- A script to be run through a session. -/
structure Errand (σ : Type) where
  session : Session σ
  script : String
  manner : Manner

/-- Running the script. -/
def Errand.act (env : Surroundings σ) (e : Errand σ) : Act σ Execution :=
  execute env e.session (.text e.script) e.manner

/-- The calls of its session that running the script makes in a state. -/
def Errand.calls (env : Surroundings σ) (e : Errand σ) (w : World σ) : List Session.Call :=
  ((execute env.recorded e.session.recorded (.text e.script) e.manner).runOn (w.beside [])).2.calls

/-- A script that was run, what its session was asked to do, and what came of
it. -/
structure Performance (σ : Type) where
  errand : Errand σ
  calls : List Session.Call
  outcome : Except Problem Execution

/-- Scripts were run one after the other between two states, through sessions
that keep their promises. Before, between and after them anything else may
have happened that gives no token back. -/
inductive Performs (env : Surroundings σ) : World σ → List (Performance σ) → World σ → Prop
  | rest {w w' : World σ} : w.tokens ≤ w'.tokens → Performs env w [] w'
  | next {w w₁ w' : World σ} {e : Errand σ} {done : List (Performance σ)} :
      w.tokens ≤ w₁.tokens → e.session.Promised →
      Performs env ((e.act env).runOn w₁).2 done w' →
      Performs env w (⟨e, e.calls env w₁, ((e.act env).runOn w₁).1⟩ :: done) w'

/-- An execution draws a token and makes the calls of a staged script with
its path. -/
theorem Errand.staged (env : Surroundings σ) {e : Errand σ} (promised : e.session.Promised)
    (w : World σ) :
    Staged e.script (path e.manner.directory (env.token w.tokens)) e.manner (e.calls env w)
      ((e.act env).runOn w).1 ∧ w.tokens < ((e.act env).runOn w).2.tokens := by
  obtain ⟨made, same, staged⟩ := records_execute env w promised e.script e.manner
  have recorded : e.calls env w = made := by
    unfold Errand.calls
    rw [same, World.calls_beside, List.nil_append]
  rw [recorded]
  exact staged

/-- A staged script is put into one file. -/
theorem Staged.targets {script path : String} {m : Manner} {calls : List Session.Call}
    {o : Except Problem Execution} (h : Staged script path m calls o) :
    calls.filterMap Session.Call.target? = [path] := by
  cases h <;> rfl

variable {env : Surroundings σ} {w w' : World σ} {done : List (Performance σ)}

theorem Performs.tokens_le (h : Performs env w done w') : w.tokens ≤ w'.tokens := by
  induction h with
  | rest later => exact later
  | @next w w₁ _ _ _ later promised _ ih =>
    have grows := (Errand.staged env promised w₁).2
    omega

/-- Each execution has a token that was drawn between the two states. -/
theorem Performs.staged (h : Performs env w done w') : ∀ d ∈ done,
    ∃ n, (w.tokens ≤ n ∧ n < w'.tokens) ∧
      Staged d.errand.script (path d.errand.manner.directory (env.token n)) d.errand.manner
        d.calls d.outcome := by
  induction h with
  | rest => simp
  | @next w w₁ w' e done later promised after ih =>
    obtain ⟨staged, grows⟩ := Errand.staged env promised w₁
    have le := after.tokens_le
    intro d hd
    rcases List.mem_cons.mp hd with rfl | hd
    · exact ⟨w₁.tokens, by omega, staged⟩
    · obtain ⟨n, between, staged⟩ := ih d hd
      exact ⟨n, by omega, staged⟩

end Staging

/-- The tokens before the `n`-th are hexadecimal, and none comes twice. -/
structure Surroundings.Distinct (env : Surroundings σ) (n : Nat) : Prop where
  hexadecimal : ∀ i < n, ∀ c ∈ (env.token i).toList, (Text.hexValue? c).isSome
  differ : ∀ i j, i < j → j < n → env.token i ≠ env.token j

theorem Surroundings.Distinct.plain {env : Surroundings σ} {n i : Nat} (h : env.Distinct n)
    (hi : i < n) : '/' ∉ (env.token i).toList := fun slash =>
  absurd (h.hexadecimal i hi _ slash) (by decide)

namespace Staging

variable {env : Surroundings σ} {w w' : World σ} {done : List (Performance σ)}

/-- The path of an execution is none of those that come after it: its token
was drawn before theirs. -/
theorem Performs.nodup_targets (h : Performs env w done w') (distinct : env.Distinct w'.tokens) :
    (done.flatMap fun d => d.calls.filterMap Session.Call.target?).Nodup := by
  induction h with
  | rest => exact List.nodup_nil
  | @next w w₁ w' e done later promised after ih =>
    obtain ⟨staged, grows⟩ := Errand.staged env promised w₁
    have le := after.tokens_le
    rw [List.flatMap_cons, staged.targets, List.singleton_append, List.nodup_cons]
    refine ⟨fun found => ?_, ih distinct⟩
    obtain ⟨d, hd, target⟩ := List.mem_flatMap.mp found
    obtain ⟨n, between, staged'⟩ := after.staged d hd
    rw [staged'.targets, List.mem_singleton] at target
    have same := token_eq_of_path_eq (distinct.plain (by omega)) (distinct.plain (by omega)) target
    exact distinct.differ w₁.tokens n (by omega) between.2 same

/-- In a sequence of executions, whatever happens between them, each script
is filled and put into a file of its own, the calls that follow are about
that file: one command makes it executable and runs it, and another one
removes it. What comes of the execution is what came of the script. If the
tokens differ, no two files have one path. -/
theorem performs_staged (h : Performs env w done w') :
    (∀ d ∈ done, ∃ n path, (w.tokens ≤ n ∧ n < w'.tokens) ∧
      Names d.errand.manner.directory (env.token n) path ∧
      Staged d.errand.script path d.errand.manner d.calls d.outcome) ∧
    (env.Distinct w'.tokens →
      (done.flatMap fun d => d.calls.filterMap Session.Call.target?).Nodup) := by
  refine ⟨fun d hd => ?_, h.nodup_targets⟩
  obtain ⟨n, between, staged⟩ := h.staged d hd
  exact ⟨n, _, between, names_path _ _, staged⟩

end Staging

/-- A host that accepts everything and stays as it is. -/
def Host.steady : Host σ where
  importKey _ _ := .ok ()
  importKnownHosts _ _ := .ok ()
  connect _ s := (.ok (), s)
  transfer _ _ s := ({}, s)
  command _ s := ({}, s)
  disconnect s := (.ok (), s)

/-- A session where every upload goes well and commands come to the results
of a list, one after the other. -/
def Session.listed : Session (List Execution) where
  upload _ _ := pure ()
  run _ _ := ask fun results => (results.headD ⟨"", "", .exited 0⟩, results.tail)
  close := pure ()

theorem Session.promised_listed : Session.listed.Promised where
  upload _ _ _ _ h := by cases h
  run _ _ _ := ⟨_, rfl⟩
  upload_tokens _ _ _ := Nat.le_refl _
  run_tokens _ _ _ := Nat.le_refl _

namespace Staging

/-- A script that exits with a status, whose file cannot be removed, and then
one that is interrupted and needs privileges: three commands for the two of
them. -/
theorem performs_staged_twice :
    let env : Surroundings (List Execution) :=
      { host := .steady, token := fun n => Text.hexText 32 (n + 1), clock := fun n => toString n }
    let interrupted : Execution := .failed ⟨.execution .broken none, none⟩
    let w : World (List Execution) :=
      { host := [⟨"", "", .exited 3⟩, interrupted, interrupted] }
    let first : Errand (List Execution) :=
      ⟨.listed, "echo \x7b\x7bA\x7d\x7d", { vars := [⟨"A", "1"⟩], directory := "/tmp//" }⟩
    let second : Errand (List Execution) := ⟨.listed, "true", { privileged := true }⟩
    let w₁ := ((first.act env).runOn w).2
    let w₂ := ((second.act env).runOn w₁).2
    let done : List (Performance (List Execution)) :=
      [⟨first, first.calls env w, ((first.act env).runOn w).1⟩,
        ⟨second, second.calls env w₁, ((second.act env).runOn w₁).1⟩]
    Performs env w done w₂ ∧ env.Distinct w₂.tokens ∧
      (∀ d ∈ done, ∃ n path, (w.tokens ≤ n ∧ n < w₂.tokens) ∧
        Names d.errand.manner.directory (env.token n) path ∧
        Staged d.errand.script path d.errand.manner d.calls d.outcome) ∧
      (done.flatMap fun d => d.calls.filterMap Session.Call.target?).Nodup ∧
      done.map (fun d => d.calls.filterMap Session.Call.command?) =
        [["chmod +x /tmp/script-mcp.00000000000000000000000000000001 && " ++
            "/tmp/script-mcp.00000000000000000000000000000001",
          "rm -f /tmp/script-mcp.00000000000000000000000000000001"],
        ["chmod +x /tmp/script-mcp.00000000000000000000000000000002 && " ++
          "sudo /tmp/script-mcp.00000000000000000000000000000002"]] := by
  intro env interrupted w first second w₁ w₂ done
  have performs : Performs env w done w₂ :=
    .next (Nat.le_refl _) Session.promised_listed
      (.next (Nat.le_refl _) Session.promised_listed (.rest (Nat.le_refl _)))
  have drawn : w₂.tokens = 2 := rfl
  have distinct : env.Distinct w₂.tokens := by
    rw [drawn]
    refine ⟨fun i _ c hc => Text.isSome_hexValue?_of_mem_hexText hc, fun i j hij hj => ?_⟩
    obtain rfl : j = 1 := by omega
    obtain rfl : i = 0 := by omega
    decide
  obtain ⟨staged, nodup⟩ := performs_staged performs
  exact ⟨performs, distinct, staged, nodup distinct, by decide +kernel⟩

end Staging

end Upkeep
