/-
Upkeep.Log.Record — log records: a level, the source that speaks, and what
it says.
-/
namespace Upkeep.Log

/-- How grave a record is. -/
inductive Level
  | debug
  | info
  | warning
  | error
  | critical
  deriving DecidableEq, Repr

namespace Level

/-- The name of a level. -/
def name : Level → String
  | .debug => "DEBUG"
  | .info => "INFO"
  | .warning => "WARNING"
  | .error => "ERROR"
  | .critical => "CRITICAL"

/-- The number of a level; graver levels have greater numbers. -/
def number : Level → Int
  | .debug => 10
  | .info => 20
  | .warning => 30
  | .error => 40
  | .critical => 50

end Level

/-- A log record. -/
structure Record where
  level : Level
  source : String
  text : String
  deriving DecidableEq, Repr

/-- The name under which all sources of this service stand. -/
def root : String := "script_mcp"

/-! ## Sources -/

namespace Source

/-- Decoding of credentials. -/
def credentials : String := "script_mcp.models.credentials"

/-- Reading of settings. -/
def settings : String := "script_mcp.config.settings"

/-- Opening of connections. -/
def connection : String := "script_mcp.services.connection"

/-- Uploads and commands. -/
def session : String := "script_mcp.services.session"

/-- Staged scripts. -/
def staging : String := "script_mcp.services.runner"

/-- Lifecycle scripts. -/
def lifecycle : String := "script_mcp.services.controller"

/-- Passes and sweeps. -/
def pass : String := "script_mcp.services.reconciler"

/-- The store of resources. -/
def store : String := "script_mcp.services.store"

/-- The boundary at which errors are told to clients. -/
def boundary : String := "script_mcp.middleware.base"

/-- Start and end of the service. -/
def server : String := "script_mcp.server"

/-- The command line. -/
def launch : String := "script_mcp.__main__"

end Source

end Upkeep.Log
