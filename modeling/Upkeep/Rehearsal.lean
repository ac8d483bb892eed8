/-
Upkeep.Rehearsal — a host that answers from prepared lists.

A rehearsal shows what the service does when a host behaves in a given
way. Every list of answers is taken from the front, and the last answer
stays for ever; an empty list means that all goes well. A command that is
the result of staging a script finds its answers by the script that was
written last. While a command runs, something else may be done, an
*interlude* of any type `ι`, so the interleavings of passes with other work
can be rehearsed too.
-/
import Upkeep.Surroundings

namespace Upkeep

open Upkeep.Act

/-! ## 1. Prepared answers -/

/-- The next answer, and the answers that remain. -/
def nextAnswer {α : Type} (otherwise : α) : List α → α × List α
  | [] => (otherwise, [])
  | [last] => (last, [last])
  | first :: rest => (first, rest)

/-- A prepared answer to a command, and what is done while it runs. -/
structure Scene (ι : Type) where
  course : Course := {}
  interlude : Option ι := none

/-- The scenes of each command or script, by its text. -/
abbrev Scenes (ι : Type) := List (String × List (Scene ι))

/-- The scenes of a text, if there is an entry for it. -/
def Scenes.find? {ι : Type} (text : String) : Scenes ι → Option (List (Scene ι))
  | [] => none
  | (t, scenes) :: rest => if t == text then some scenes else Scenes.find? text rest

/-- The next scene of a text, and the scenes that remain. -/
def Scenes.take {ι : Type} (text : String) (s : Scenes ι) : Scene ι × Scenes ι :=
  let (scene, rest) := nextAnswer {} ((s.find? text).getD [])
  (scene, s.map fun e => if e.1 == text then (e.1, rest) else e)

/-! ## 2. The state of a rehearsal -/

/-- What a host has prepared, and what it remembers. -/
structure Rehearsal (ι : Type) where
  /-- The outcome of every look at key material. -/
  key : Stage := .ok ()
  /-- The outcome of every look at known hosts. -/
  knownHosts : Stage := .ok ()
  connects : List Stage := []
  transfers : List Transfer := []
  removals : List (Scene ι) := []
  commands : Scenes ι := []
  scripts : Scenes ι := []
  disconnects : List Stage := []
  /-- The content that was written last, if it is a text. -/
  written : Option String := none
  /-- What is done while the current command runs. -/
  pending : Option ι := none

namespace Rehearsal

variable {ι : Type}

/-- The key under which scripts without an entry of their own find their
scenes. -/
def anyScript : String := "*"

/-- The scene of a command, and the rehearsal afterwards. -/
def takeScene (command : String) (r : Rehearsal ι) : Scene ι × Rehearsal ι :=
  if "rm -f ".toList.isPrefixOf command.toList then
    let (scene, rest) := nextAnswer {} r.removals
    (scene, { r with removals := rest })
  else if (r.commands.find? command).isSome then
    let (scene, rest) := r.commands.take command
    (scene, { r with commands := rest })
  else
    let known := (r.written.map fun text => (r.scripts.find? text).isSome).getD false
    let (scene, rest) := r.scripts.take (if known then r.written.getD anyScript else anyScript)
    (scene, { r with scripts := rest })

/-- Nothing in a transfer stands in the way of writing. -/
def writes (t : Transfer) : Bool :=
  t.opening.isOk && t.openingFile.isOk && t.writing.isOk

/-- The host of a rehearsal. -/
def host : Host (Rehearsal ι) where
  importKey _ r := r.key
  importKnownHosts _ r := r.knownHosts
  connect _ r :=
    let (outcome, rest) := nextAnswer (.ok ()) r.connects
    (outcome, { r with connects := rest })
  transfer _ content r :=
    let (t, rest) := nextAnswer {} r.transfers
    (t, { r with
      transfers := rest
      written := if writes t then content.text? else r.written })
  command text r :=
    let (scene, rest) := r.takeScene text
    (scene.course, { rest with pending := scene.interlude })
  disconnect r :=
    let (outcome, rest) := nextAnswer (.ok ()) r.disconnects
    (outcome, { r with disconnects := rest })

/-- The rehearsal with other answers prepared; what was written last is
still known. -/
def prepare (r next : Rehearsal ι) : Rehearsal ι := { next with written := r.written }

/-! ## 3. Interludes -/

/-- Do the interlude of the current command, once. -/
def interlude (act : ι → Act (Rehearsal ι) Reply) : Pause → Act (Rehearsal ι) Unit
  | .running => do
    match (← get).host.pending with
    | none => pure ()
    | some what =>
      modify fun w => { w with host := { w.host with pending := none } }
      let answer ← act what
      event (.interlude answer)
  | _ => pure ()

/-- The surroundings of a rehearsal, given how an interlude is done in
surroundings; interludes may nest up to a depth. -/
def around (act : Surroundings (Rehearsal ι) → ι → Act (Rehearsal ι) Reply)
    (env : Surroundings (Rehearsal ι)) : (depth : Nat) → Surroundings (Rehearsal ι)
  | 0 => { env with host, meanwhile := fun _ => pure () }
  | depth + 1 => { env with host, meanwhile := interlude (act (around act env depth)) }

end Rehearsal

end Upkeep
