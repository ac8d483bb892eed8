/-
Upkeep.Failure — failures: what this service itself reports.

A failure names its trouble, each trouble belongs to one category, and the
category decides whether the condition may clear by itself (`isTransient`)
or needs an operator; for the exit of a script that depends on who asked.
A failure may remember the fault that it was raised from. `Problem` is
anything that can be raised.
-/
import Upkeep.Fault
import Upkeep.Json.Shown
import Upkeep.Text.Blank

namespace Upkeep

open Upkeep.Decimal (Number)

/-! ## 1. Troubles -/

/-- What is wrong with credentials or with a bundle of scripts. -/
inductive Misconfiguration
  | stated (text : String)
  | unreadableCredentials (why : Fault)
  | credentialsNotAnObject
  | undecodableKey
  | noUsername
  | noHost
  | invalidHost (host : Json)
  | portNotANumber (written : Json)
  | portOutOfRange (port : Int)
  | twoSecrets
  | noSecret
  | unusableKnownHosts (why : Fault)
  | unusableKey (why : Fault)
  | namelessVariable (entry : Json)
  deriving BEq, Repr

/-- The wording of a misconfiguration. -/
def Misconfiguration.message : Misconfiguration → String
  | .stated text => text
  | .unreadableCredentials why => s!"Cannot parse credentials: {why.text}"
  | .credentialsNotAnObject => "Credentials must be a JSON object"
  | .undecodableKey => "Error decoding base64 private key"
  | .noUsername => "Username not found in the credentials"
  | .noHost => "Remote host not found in the credentials"
  | .invalidHost host => s!"Remote host address is not valid: {host.display}"
  | .portNotANumber written => s!"Remote host port is not a number: {written.display}"
  | .portOutOfRange port => s!"Remote host port out of range: {port}"
  | .twoSecrets => "Credentials carry both a password and a private key; set only one"
  | .noSecret => "Private key or password not found in the credentials"
  | .unusableKnownHosts why => s!"Failed to create known hosts verification: {why.text}"
  | .unusableKey why => s!"Failed to parse private key: {why.text}"
  | .namelessVariable entry => s!"Variable without a name: {entry.display}"

/-- Why a command has no exit status. -/
inductive Interruption
  | stated (text : String)
  | timedOut (limit : Option Number)
  | notOpened
  | broken
  | connectionLost
  deriving DecidableEq, Repr

/-- A time limit in words. -/
def limitText : Option Number → String
  | none => "None"
  | some n => n.text

/-- The wording of an interruption. -/
def Interruption.message : Interruption → String
  | .stated text => text
  | .timedOut limit => s!"Command timed out after {limitText limit}s"
  | .notOpened => "Failed to create session"
  | .broken => "Command execution failed"
  | .connectionLost => "Connection lost before command exited"

/-- A script that ran and exited with a status that counts as failure. -/
structure ScriptExit where
  status : Int
  stdout : String := ""
  stderr : String := ""
  phase : String := "script"
  fatal : Bool := true
  deriving DecidableEq, Repr

/-- The wording of a script's exit: its status, and the last line that it
wrote to the error stream. -/
def ScriptExit.message (e : ScriptExit) : String :=
  let main := s!"{e.phase} script exited with status {e.status}"
  match Text.lastLine e.stderr.toList with
  | [] => main
  | detail => main ++ ": " ++ String.ofList detail

/-- What a failure is about. -/
inductive Trouble
  | stated (text : String)
  | configuration (what : Misconfiguration)
  | connection (address : String) (fault : Fault) (attempts : Int)
  | transfer (path : String) (fault : Fault)
  | execution (what : Interruption) (fault : Option Fault)
  | scriptExit (exit : ScriptExit)
  deriving BEq, Repr

/-! ## 2. Categories -/

/-- What a failure is counted as. -/
inductive Category
  | general
  | configuration
  | connection
  | transfer
  | execution
  | scriptExit
  deriving DecidableEq, Repr

/-- The word for a category. -/
def Category.word : Category → String
  | .general => "error"
  | .configuration => "invalid_configuration"
  | .connection => "connection_failure"
  | .transfer => "transfer_failure"
  | .execution => "execution_failure"
  | .scriptExit => "script_exit"

namespace Trouble

/-- The category of a trouble. -/
def category : Trouble → Category
  | .stated _ => .general
  | .configuration _ => .configuration
  | .connection .. => .connection
  | .transfer .. => .transfer
  | .execution .. => .execution
  | .scriptExit _ => .scriptExit

/-- The condition may clear by itself. -/
def isTransient : Trouble → Bool
  | .stated _ | .configuration _ => false
  | .connection .. | .transfer .. | .execution .. => true
  | .scriptExit exit => !exit.fatal

/-- The wording of a trouble. -/
def message : Trouble → String
  | .stated text => text
  | .configuration what => what.message
  | .connection address fault attempts =>
    s!"Cannot connect to {address} after {attempts} attempt(s): {fault.text}"
  | .transfer path fault => s!"Failed to write {path}: {fault.text}"
  | .execution what none => what.message
  | .execution what (some fault) => s!"{what.message}: {fault.text}"
  | .scriptExit exit => exit.message

end Trouble

/-! ## 3. Failures -/

/-- A failure: its trouble and the fault that it was raised from, if any. -/
structure Failure where
  trouble : Trouble
  cause : Option Fault := none
  deriving BEq, Repr

namespace Failure

/-- The category of a failure. -/
def category (f : Failure) : Category := f.trouble.category

/-- The condition may clear by itself. -/
def isTransient (f : Failure) : Bool := f.trouble.isTransient

/-- The wording of a failure. -/
def message (f : Failure) : String := f.trouble.message

/-- Credentials or scripts are at fault. -/
def isMisconfiguration (f : Failure) : Bool := f.category == .configuration

/-- A script's exit that needs an operator. -/
def isFatalExit (f : Failure) : Bool :=
  match f.trouble with
  | .scriptExit exit => exit.fatal
  | _ => false

/-- A file could not be put on the host. -/
def isTransfer (f : Failure) : Bool := f.category == .transfer

/-- The failure as a client is told of it: with its category, and whether
a later pass may clear it. -/
def describe (f : Failure) : String :=
  let kind := if f.isTransient then "transient" else "terminal"
  s!"[{f.category.word}/{kind}] {f.message}"

/-- A failure for a misconfiguration. -/
def misconfigured (what : Misconfiguration) (cause : Option Fault := none) : Failure :=
  ⟨.configuration what, cause⟩

/-- A failure for a script's exit. -/
def exited (exit : ScriptExit) : Failure := ⟨.scriptExit exit, none⟩

end Failure

/-! ## 4. Problems -/

/-- Anything that can be raised: a failure, a failure told to a client, or
a fault that nothing has handled. -/
inductive Problem
  | failure (f : Failure)
  | told (f : Failure)
  | fault (f : Fault)
  deriving BEq, Repr

namespace Problem

/-- What a problem says. -/
def text : Problem → String
  | .failure f => f.message
  | .told f => f.describe
  | .fault f => f.text

/-- A name was not known. -/
def isUnknownName : Problem → Bool
  | .fault f => f.kind == .unknownName
  | _ => false

/-- A misconfiguration as a problem. -/
def misconfigured (what : Misconfiguration) (cause : Option Fault := none) : Problem :=
  .failure (.misconfigured what cause)

/-- A misconfiguration whose message shows a value, or the number that the
value writes; if the value cannot be shown, the fault that says why. -/
def refusing (depths : Json.Depths) (written : Json) (what : Misconfiguration)
    (cause : Option Fault := none) : Problem :=
  match written.obstacle? depths.message with
  | some found => .fault found
  | none => .misconfigured what cause

end Problem

end Upkeep
