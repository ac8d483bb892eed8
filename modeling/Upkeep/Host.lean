/-
Upkeep.Host — the remote side, as a value.

A host answers what it is asked from a state of any type, and an answer is
data: how a whole file transfer goes (`Transfer`) or how a whole command
goes (`Course`), each stage either well or with a problem. What the service
makes of an answer is therefore a function of the answer, and "for every
behaviour of the host" is "for every host and every state".
-/
import Upkeep.Credentials

namespace Upkeep

open Upkeep.Decimal (Number)

/-! ## 1. Dialling -/

/-- What a login offers: a key, a password, or an agent that has keys. -/
structure Login where
  key : Option (List UInt8) := none
  password : Json := .null
  agent : Option String := none
  deriving BEq, Repr

/-- One attempt to connect. -/
structure Dial where
  host : String
  port : Int
  username : Json
  knownHosts : Option Json
  timeout : Option Number
  login : Login
  deriving BEq, Repr

/-! ## 2. Answers -/

/-- A stage goes well or ends with a problem. -/
abbrev Stage := Except Problem Unit

/-- How a file transfer goes, stage by stage. -/
structure Transfer where
  opening : Stage := .ok ()
  openingFile : Stage := .ok ()
  writing : Stage := .ok ()
  closingFile : Stage := .ok ()
  closing : Stage := .ok ()

/-- What is known of a command when its channel has delivered everything:
its status, if it sent one, and its output. -/
structure Completion where
  status : Option Int := some 0
  stdout : Capture := .text ""
  stderr : Capture := .text ""
  deriving DecidableEq, Repr

/-- How a command goes, stage by stage. -/
structure Course where
  opening : Stage := .ok ()
  waiting : Except Problem Completion := .ok {}
  closing : Stage := .ok ()

/-! ## 3. Hosts -/

/-- A remote host whose state has type `σ`. -/
structure Host (σ : Type) where
  /-- Whether key material makes a key. -/
  importKey : List UInt8 → σ → Stage
  /-- Whether known hosts can be read. -/
  importKnownHosts : Json → σ → Stage
  connect : Dial → σ → Stage × σ
  /-- A transfer of some content to a path. -/
  transfer : (path : String) → (content : Json) → σ → Transfer × σ
  /-- A command that is started. -/
  command : String → σ → Course × σ
  /-- The end of a connection. -/
  disconnect : σ → Stage × σ

/-- A host that refuses every connection. -/
def Host.unreachable : Host Unit where
  importKey _ _ := .ok ()
  importKnownHosts _ _ := .ok ()
  connect _ s := (.error (.fault ⟨.connectionRefused, "Connection refused"⟩), s)
  transfer _ _ s := ({}, s)
  command _ s := ({}, s)
  disconnect s := (.ok (), s)

end Upkeep
