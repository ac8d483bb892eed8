/-
Upkeep.Launch — how the service is launched, and its answer to the question
whether it lives.
-/
import Upkeep.Settings

namespace Upkeep.Launch

/-- How clients reach a launched service. -/
inductive Plan
  | stdio
  | http (host : String) (port : Int)
  deriving DecidableEq, Repr

/-- The plan by the settings. -/
def Plan.of (s : Settings) : Plan :=
  match s.transport with
  | .stdio => .stdio
  | .http => .http s.httpHost s.httpPort

/-- The record about a plan. -/
def Plan.record (p : Plan) : Log.Record :=
  let detail := match p with
    | .stdio => "(transport=stdio)"
    | .http host port => s!"(transport=http, host={host}, port={port})"
  ⟨.info, Log.Source.launch, "Starting Script MCP server " ++ detail⟩

/-- Plan the launch in an environment; what is logged comes with it. -/
def launch (env : Environment) : List Log.Record × Plan :=
  let (settings, warnings) := Settings.read env
  let plan := Plan.of settings
  (warnings ++ [plan.record], plan)

/-! ## Health -/

/-- The answer to a request over HTTP. -/
structure Answer where
  status : Nat
  body : String
  deriving DecidableEq, Repr

/-- The path of the health check. -/
def healthPath : String := "/health"

/-- The record about the boundary of a new server. -/
def serverRecord (includeTraceback : Bool) : Log.Record :=
  let word := if includeTraceback then "True" else "False"
  ⟨.debug, Log.Source.server, s!"Middleware configured: ErrorHandling(traceback={word})"⟩

/-- The path is that of the health check; one line feed may end it. -/
def isHealthPath (path : List Char) : Bool :=
  path == healthPath.toList || path == healthPath.toList ++ ['\n']

/-- The path has slashes at its end that it should not have. -/
def hasSurplusSlash (path : List Char) : Bool := path != ['/'] && path.getLast? == some '/'

/-- Answer a request: the health check can only be read, and there is
nothing else. That an answer to `HEAD` goes out without its body is left to
the transport; a path that only has slashes too many is redirected. -/
def health (method path : String) (client : Option String) : List Log.Record × Answer :=
  let path := path.toList
  if isHealthPath path then
    if method == "GET" || method == "HEAD" then
      let asker := client.getD "unknown"
      ([⟨.debug, Log.Source.server, s!"Health check from {asker}"⟩], ⟨200, "OK"⟩)
    else ([], ⟨405, "Method Not Allowed"⟩)
  else if hasSurplusSlash path && isHealthPath (Text.dropEndWhile (· == '/') path) then
    ([], ⟨307, ""⟩)
  else ([], ⟨404, "Not Found"⟩)

end Upkeep.Launch
