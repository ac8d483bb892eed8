/-
Upkeep.Settings — the settings of the service, from environment variables.

Each setting is read from one variable by itself (`readWhole`,
`readSeconds`, …), so no variable touches another's setting. A value that
cannot be read falls back to the default and is warned about.
-/
import Upkeep.Decimal.Notation
import Upkeep.Decimal.Reading
import Upkeep.Log.Record
import Upkeep.Text.Case

namespace Upkeep

open Upkeep.Decimal (Binary64)

/-- The variables of the environment. -/
abbrev Environment := String → Option String

/-- How clients reach the service. -/
inductive Transport
  | http
  | stdio
  deriving DecidableEq, Repr

/-- The word for a transport. -/
def Transport.word : Transport → String
  | .http => "http"
  | .stdio => "stdio"

/-- The settings of the service. A time of zero seconds means no limit for
a command, and no periodic passes. -/
structure Settings where
  connectAttempts : Int := 3
  retryDelay : Binary64 := .ofNat 2
  connectTimeout : Binary64 := .ofNat 30
  commandTimeout : Binary64 := .ofNat 0
  stagingDirectory : String := "/tmp"
  pollInterval : Binary64 := .ofNat 60
  transport : Transport := .http
  httpHost : String := "0.0.0.0"
  httpPort : Int := 8000
  logLevel : String := "INFO"
  includeTraceback : Bool := false
  deriving DecidableEq, Repr

namespace Settings

/-- The time limit for one script, if there is one. -/
def scriptTimeout (s : Settings) : Option Binary64 :=
  if s.commandTimeout.isPositive then some s.commandTimeout else none

/-- The time limit for one attempt to connect, if there is one. -/
def dialTimeout (s : Settings) : Option Binary64 :=
  if s.connectTimeout.isZero then none else some s.connectTimeout

/-! ## 1. Variables -/

/-- What the names of all variables start with. -/
def variableStem : String := "SCRIPT_MCP_"

/-- What follows the stem in the name of each variable. -/
def variableKeys : List String :=
  ["CONNECT_ATTEMPTS", "CONNECT_RETRY_DELAY", "CONNECT_TIMEOUT", "COMMAND_TIMEOUT", "TMP_DIR",
    "POLL_INTERVAL", "TRANSPORT", "HTTP_HOST", "HTTP_PORT", "LOG_LEVEL", "LOG_COLORS",
    "INCLUDE_TRACEBACK"]

/-- A setting, and the warnings about its variable. -/
abbrev Read (α : Type) := α × List Log.Record

/-- A warning about a variable. -/
def warn (text : String) : Log.Record := ⟨.warning, Log.Source.settings, text⟩

/-- A whole number from a variable. -/
def readWhole (env : Environment) (key : String) (fallback : Int) : Read Int :=
  match env (variableStem ++ key) with
  | none => (fallback, [])
  | some value =>
    match Decimal.readInt? value with
    | some n => (n, [])
    | none =>
      (fallback, [warn s!"Invalid int for {variableStem}{key}: {value}, using default {fallback}"])

/-- A number that is not below zero, from a variable. -/
def readSeconds (env : Environment) (key : String) (fallback : Binary64) : Read Binary64 :=
  match env (variableStem ++ key) with
  | none => (fallback, [])
  | some value =>
    match Decimal.readDouble? value with
    | none =>
      (fallback,
        [warn s!"Invalid number for {variableStem}{key}: {value}, using default {fallback.text}"])
    | some x =>
      if x.isNegative then
        (fallback,
          [warn s!"{variableStem}{key} must be >= 0, got {value}, using default {fallback.text}"])
      else (x, [])

/-- The words that switch a setting on. -/
def onWords : List String := ["1", "true", "yes", "on"]

/-- A switch from a variable; it is off if the variable is not set. -/
def readSwitch (env : Environment) (key : String) : Bool :=
  match env (variableStem ++ key) with
  | none => false
  | some value => onWords.contains (Text.lower value)

/-- The transport from its variable. -/
def readTransport (env : Environment) : Read Transport :=
  let word := Text.lower ((env (variableStem ++ "TRANSPORT")).getD "")
  if word == Transport.http.word then (.http, [])
  else if word == Transport.stdio.word then (.stdio, [])
  else if word.isEmpty then (.http, [])
  else (.http, [warn s!"Invalid {variableStem}TRANSPORT: {word}, using http"])

/-- The directory for staged scripts from its variable. -/
def readDirectory (env : Environment) : String :=
  let path := (env (variableStem ++ "TMP_DIR")).getD "/tmp"
  if path.isEmpty then "/tmp" else path

/-! ## 2. All settings -/

/-- The settings, and all warnings in the order of the variables. -/
def read (env : Environment) : Read Settings :=
  let attempts := readWhole env "CONNECT_ATTEMPTS" 3
  let delay := readSeconds env "CONNECT_RETRY_DELAY" (.ofNat 2)
  let dialLimit := readSeconds env "CONNECT_TIMEOUT" (.ofNat 30)
  let commandLimit := readSeconds env "COMMAND_TIMEOUT" (.ofNat 0)
  let interval := readSeconds env "POLL_INTERVAL" (.ofNat 60)
  let transport := readTransport env
  let port := readWhole env "HTTP_PORT" 8000
  ({ connectAttempts := max 1 attempts.1
     retryDelay := delay.1
     connectTimeout := dialLimit.1
     commandTimeout := commandLimit.1
     stagingDirectory := readDirectory env
     pollInterval := interval.1
     transport := transport.1
     httpHost := (env (variableStem ++ "HTTP_HOST")).getD "0.0.0.0"
     httpPort := port.1
     logLevel := Text.upper ((env (variableStem ++ "LOG_LEVEL")).getD "INFO")
     includeTraceback := readSwitch env "INCLUDE_TRACEBACK" },
   attempts.2 ++ delay.2 ++ dialLimit.2 ++ commandLimit.2 ++ interval.2 ++ transport.2 ++ port.2)

end Settings

end Upkeep
