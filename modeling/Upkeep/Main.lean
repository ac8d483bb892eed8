/-
Upkeep.Main — the command line: the service on standard input and output.

A line of input is a call: an object with the name of a tool under `tool`
and an object under `arguments`. Its answer is a line of output, an object
with `text` or `error`. The log goes to standard error; its times count
from the launch. No transport to remote hosts is built in here, so every
host refuses the connection.
-/
import Upkeep.Json.Reader
import Upkeep.Launch
import Upkeep.Log.Line
import Upkeep.Log.Setup
import Upkeep.Service
import Upkeep.Tool

namespace Upkeep.Main

/-- The variables of the service that are set. -/
def readEnvironment : IO Environment := do
  let set ← Settings.variableKeys.filterMapM fun key => do
    let name := Settings.variableStem ++ key
    return (← IO.getEnv name).map fun value => (name, value)
  return fun name => set.lookup name

/-- Write log records to standard error. -/
def writeLog (setup : Log.Setup) (records : List Log.Record) : IO Unit := do
  let now ← IO.monoMsNow
  let colours := setup.handlers.head?.getD false
  for r in records.filter setup.shows do
    let line : Log.Line :=
      { seconds := now / 1000
        milliseconds := now % 1000
        level := r.level.name
        source := r.source
        message := r.text }
    IO.eprintln (line.render colours)

/-- The answer to an outcome, as a line. -/
def reply (outcome : Except Problem String) : String :=
  let field : String × Json := match outcome with
    | .ok text => ("text", .text text)
    | .error p => ("error", .text p.text)
  (Json.object [field]).compact

/-- The call that a line writes. -/
def readCall (line : String) : Call :=
  let written : Except Fault Call := do
    let document ← Credentials.readDocument line.toList true .usual
    let tool := ((document.get? "tool").map Json.asText).getD ""
    return Tool.call tool (← ((document.get? "arguments").getD (.object [])).fields)
  match written with
  | .ok call => call
  | .error why => .misfit why

/-- Answer the lines of the input until it ends. -/
partial def serve (setup : Log.Setup) (settings : Settings) (input output : IO.FS.Stream)
    (w : World Unit) : IO Unit := do
  let line ← input.getLine
  if line.isEmpty then return
  let seed := (← IO.getRandomBytes 16).foldl (fun n b => n * 256 + b.toNat) 0
  let now ← IO.monoMsNow
  let env : Surroundings Unit :=
    { host := .unreachable
      settings := settings
      token := fun n => Text.hexText 32 (seed + n)
      clock := fun _ => Log.stamp (now / 1000) (now % 1000) }
  let (outcome, after) := (Service.guarded env (some "tools/call") (readCall line)).runOn w
  writeLog setup after.journal.logs
  output.putStrLn (reply outcome)
  output.flush
  serve setup settings input output { after with journal := [] }

/-- Launch the service. -/
def run : IO UInt32 := do
  let environment ← readEnvironment
  let (records, _) := Launch.launch environment
  match Log.Setup.configure environment (← (← IO.getStderr).isTty) {} with
  | .error fault =>
    IO.eprintln fault.report
    return 1
  | .ok setup =>
    writeLog setup records
    serve setup (Settings.read environment).1 (← IO.getStdin) (← IO.getStdout) { host := () }
    return 0

end Upkeep.Main

def main : IO UInt32 := Upkeep.Main.run
