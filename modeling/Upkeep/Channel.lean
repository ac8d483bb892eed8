/-
Upkeep.Channel — uploads and commands over a connection to a host.

Each upload and each command opens a channel of its own and closes it
again, whatever happens in between. `Session.over` is the session that
they make.
-/
import Upkeep.Session

namespace Upkeep

open Upkeep.Decimal (Number)
open Upkeep.Act

namespace Channel

variable {σ : Type}

/-! ## 1. Uploads -/

/-- A stage that is waited for. -/
def await {α : Type} (env : Surroundings σ) (pause : Pause) (stage : Except Problem α) :
    Act σ α := do
  env.meanwhile pause
  settle stage

/-- Write a file through a channel of its own. -/
def sendFile (env : Surroundings σ) (t : Transfer) (content : Json) (path : String) :
    Act σ Unit := do
  await env .sending t.opening
  event .openChannel
  ensuring
    (do
      event (.openPath path)
      await env .sending t.openingFile
      event .openFile
      ensuring
        (do
          await env .sending t.writing
          event (.write content))
        (do
          event .closeFile
          await env .sending t.closingFile))
    (do
      event .closeChannel
      await env .sending t.closing)

/-- How many octets of content were written. Only a text has octets, and
only one without surrogates. -/
def octetCount (content : Json) : Except Fault Nat :=
  match content with
  | .text s => (Encoding.Utf8.octetCount s).mapError fun u => ⟨.unencodableText, u.message⟩
  | j => .error ⟨.missingAttribute, s!"'{j.kindWord}' object has no attribute 'encode'"⟩

/-- Put content into a file on the host, and count its octets afterwards.
A fault of the host becomes a failure of the transfer. -/
def upload (env : Surroundings σ) (content : Json) (path : String) : Act σ Unit := do
  let t ← ask (env.host.transfer path content)
  match ← attempt (sendFile env t content path) with
  | .ok () =>
    let count ← settle ((octetCount content).mapError Problem.fault)
    log .debug Log.Source.session s!"Uploaded {count} byte(s) to {path}"
  | .error (.fault f) =>
    if f.kind.isHostFault then do
      log .error Log.Source.session s!"Failed to send script to {path}: {f.text}"
      raise (.failure ⟨.transfer path f, some f⟩)
    else raise (.fault f)
  | .error p => raise p

/-! ## 2. Commands -/

/-- Run a command through a channel of its own and wait for it. -/
def converse (env : Surroundings σ) (c : Course) (command : String) (limit : Option Number) :
    Act σ Completion := do
  event (.start command)
  await env .starting c.opening
  event .openCommand
  ensuring
    (do
      event (.wait limit)
      await env .running c.waiting)
    (do
      event .closeCommand
      await env .finishing c.closing)

/-- The output that a fault carries. -/
def partialOutput : Fault.Kind → String × String
  | .commandTimedOut stdout stderr => (stdout.asText, stderr.asText)
  | _ => ("", "")

/-- What becomes of a command that a fault of the host interrupts, and
what is logged about it; nothing if the fault is not the host's. A time
limit is looked at first, whatever else the fault may be. -/
def interrupted? (limit : Option Number) (f : Fault) : Option (Execution × String) :=
  if f.kind.isTimeout then
    let (stdout, stderr) := partialOutput f.kind
    let what := Interruption.timedOut limit
    some (⟨stdout, stderr, .failed ⟨.execution what (some f), none⟩⟩, what.message)
  else if f.kind = .channelNotOpened then
    some (.failed ⟨.execution .notOpened (some f), none⟩,
      s!"{Interruption.notOpened.message}: {f.text}")
  else if f.kind.isHostFault then
    some (.failed ⟨.execution .broken (some f), none⟩, s!"{Interruption.broken.message}: {f.text}")
  else none

/-- The result of a command whose channel delivered everything. -/
def completed (c : Completion) : Execution :=
  match c.status with
  | some status => ⟨c.stdout.asText, c.stderr.asText, .exited status⟩
  | none =>
    ⟨c.stdout.asText, c.stderr.asText, .failed ⟨.execution .connectionLost none, none⟩⟩

/-- Run a command. A fault of the host becomes part of the result. -/
def run (env : Surroundings σ) (command : String) (limit : Option Number) : Act σ Execution := do
  let c ← ask (env.host.command command)
  match ← attempt (converse env c command limit) with
  | .ok completion =>
    if completion.status.isNone then
      log .error Log.Source.session Interruption.connectionLost.message
    return completed completion
  | .error (.fault f) =>
    match interrupted? limit f with
    | some (result, text) =>
      log .error Log.Source.session text
      return result
    | none => raise (.fault f)
  | .error p => raise p

/-! ## 3. The end -/

/-- Close the connection to the host. -/
def close (env : Surroundings σ) : Act σ Unit := do
  event .disconnect
  event .awaitDisconnect
  let outcome ← ask env.host.disconnect
  note (.milestone (.closed outcome))
  await env .closing outcome

end Channel

/-- The session over an open connection. -/
def Session.over {σ : Type} (env : Surroundings σ) : Session σ where
  upload := Channel.upload env
  run := Channel.run env
  close := Channel.close env

end Upkeep
