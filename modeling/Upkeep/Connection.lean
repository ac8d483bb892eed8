/-
Upkeep.Connection — opening a connection, with bounded retry.

Known hosts and the key are looked at once, before the first attempt: if
they cannot be used, nothing is tried at all. Then up to a given number of
attempts follow, all with the same arguments and with the same delay in
between.
-/
import Upkeep.Channel

namespace Upkeep.Connection

open Upkeep.Decimal (Number)
open Upkeep.Act

variable {σ : Type}

/-! ## 1. Before the first attempt -/

/-- The known hosts to check against, or nothing, which is warned about. -/
def knownHosts (env : Surroundings σ) (c : Credentials) : Act σ (Option Json) := do
  if c.knownHosts.isGiven then
    match env.host.importKnownHosts c.knownHosts (← get).host with
    | .ok () => return some c.knownHosts
    | .error (.fault f) =>
      if f.kind.isValueFault || f.kind.isProtocol then
        raise (.misconfigured (.unusableKnownHosts f) (some f))
      else raise (.fault f)
    | .error p => raise p
  else do
    log .warning Log.Source.connection
      "SSH host key verification DISABLED - vulnerable to MITM attacks. Add knownHosts to the credentials to enable it."
    return none

/-- The login for credentials: the key alone, or the password alone. -/
def login (env : Surroundings σ) (c : Credentials) : Act σ Login := do
  if c.hasKey then
    let material := c.privateKey.getD []
    match env.host.importKey material (← get).host with
    | .ok () => return { key := some material }
    | .error (.fault f) =>
      if f.kind.isValueFault then raise (.misconfigured (.unusableKey f) (some f))
      else raise (.fault f)
    | .error p => raise p
  else return { password := c.password }

/-! ## 2. Attempts -/

/-- How often and how patiently to connect. -/
structure Patience where
  attempts : Int := 3
  delay : Option Number := some (.double (.ofNat 2))
  timeout : Option Number := none

/-- The number of attempts, which is at least one. -/
def Patience.total (p : Patience) : Int := max 1 p.attempts

/-- Attempt number `attempt`, and up to `more` further ones. -/
def tryConnect (env : Surroundings σ) (c : Credentials) (p : Patience) (d : Dial) :
    (more attempt : Nat) → Act σ (Session σ)
  | more, attempt => do
    event (.connect d)
    env.meanwhile .connecting
    let outcome ← ask (env.host.connect d)
    match outcome with
    | .ok () =>
      note (.milestone .connected)
      log .info Log.Source.connection
        s!"SSH connection established to {c.username.asText}@{c.address} (auth={c.method}, attempt {attempt}/{p.total})"
      return Session.over env
    | .error (.fault f) =>
      if f.kind.isHostFault then do
        log .warning Log.Source.connection
          s!"Failed to dial {c.address} with username {c.username.asText}, attempt {attempt}/{p.total}: {f.text}"
        match more with
        | 0 =>
          log .error Log.Source.connection
            s!"All {p.total} attempts to connect to {c.address} failed"
          raise (.failure ⟨.connection c.address f p.total, some f⟩)
        | more + 1 =>
          event (.sleep p.delay)
          env.meanwhile .retrying
          tryConnect env c p d more (attempt + 1)
      else raise (.fault f)
    | .error problem => raise problem

/-- Open a connection with the given credentials. -/
def connect (env : Surroundings σ) (c : Credentials) (p : Patience) : Act σ (Session σ) := do
  let known ← knownHosts env c
  let offered ← login env c
  let d : Dial :=
    { host := c.host
      port := c.port
      username := c.username
      knownHosts := known
      timeout := p.timeout
      login := offered }
  tryConnect env c p d (p.total.toNat - 1) 1

end Upkeep.Connection
