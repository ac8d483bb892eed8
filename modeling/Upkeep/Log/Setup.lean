/-
Upkeep.Log.Setup — setting up the log.

The level is looked up by its name among all names that the logging
facility knows; two of those are no levels, and setting one of them is a
fault. A name that is not known means the level of information. A handler
is installed unless there is one, and sources of others are quieted.
-/
import Upkeep.Fault
import Upkeep.Settings

namespace Upkeep.Log

/-! ## 1. Names of levels -/

/-- What a name of the logging facility stands for. -/
inductive Named
  | level (number : Int)
  | text (s : String)
  | table (shown : String)

/-- The pattern of plain log lines, which is no level. -/
def plainPattern : String := "%(levelname)s:%(name)s:%(message)s"

/-- The table of pattern styles as it is shown, which is no level. -/
def styleTable : String :=
  "\x7b'%': (<class 'logging.PercentStyle'>, '%(levelname)s:%(name)s:%(message)s'), '\x7b': (<class 'logging.StrFormatStyle'>, '\x7blevelname\x7d:\x7bname\x7d:\x7bmessage\x7d'), '$': (<class 'logging.StringTemplateStyle'>, '$\x7blevelname\x7d:$\x7bname\x7d:$\x7bmessage\x7d')\x7d"

/-- What a name in capital letters stands for. -/
def named? (name : String) : Option Named :=
  match name with
  | "CRITICAL" | "FATAL" => some (.level 50)
  | "ERROR" => some (.level 40)
  | "WARNING" | "WARN" => some (.level 30)
  | "INFO" => some (.level 20)
  | "DEBUG" => some (.level 10)
  | "NOTSET" => some (.level 0)
  | "BASIC_FORMAT" => some (.text plainPattern)
  | "_STYLES" => some (.table styleTable)
  | _ => none

/-- The number of the level that a name sets. -/
def levelNumber (name : String) : Except Fault Int :=
  match (named? name).getD (.level Level.info.number) with
  | .level n => .ok n
  | .text s => .error ⟨.value, "Unknown level: " ++ Text.quote s⟩
  | .table shown => .error ⟨.wrongType, "Level not an integer or a valid string: " ++ shown⟩

/-! ## 2. The set-up -/

/-- The state of the log of this service. -/
structure Setup where
  level : Int := 0
  propagate : Bool := true
  /-- The handlers, each with or without colours. -/
  handlers : List Bool := []
  /-- The levels of other sources. -/
  quieted : List (String × Int) := []
  deriving DecidableEq, Repr

/-- Sources of others that are quieted. -/
def noisySources : List String :=
  ["uvicorn", "uvicorn.access", "uvicorn.error", "asyncssh", "asyncssh.sftp", "fastmcp",
    "starlette", "anyio"]

/-- Colours are wanted: the console shows them and nobody switched them
off. -/
def wantsColours (env : Environment) (console : Bool) : Bool :=
  console && Text.lower ((env (Settings.variableStem ++ "LOG_COLORS")).getD "true") != "false"

/-- Set up the log. -/
def Setup.configure (env : Environment) (console : Bool) (s : Setup) : Except Fault Setup := do
  let level ← levelNumber (Settings.read env).1.logLevel
  let quieted := noisySources.map fun source => (source, Level.warning.number)
  if s.handlers.isEmpty then
    return { level, propagate := false, handlers := [wantsColours env console], quieted }
  else return { s with level, quieted }

/-- The log shows a record: the level of the record is at least its own. -/
def Setup.shows (s : Setup) (r : Record) : Bool := s.level ≤ r.level.number

/-- Set up the log a number of times. -/
def Setup.configureTimes (env : Environment) (console : Bool) : Nat → Setup → Except Fault Setup
  | 0, s => .ok s
  | n + 1, s => do configureTimes env console n (← s.configure env console)

end Upkeep.Log
