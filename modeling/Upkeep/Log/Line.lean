/-
Upkeep.Log.Line — a log record as a line on a console.

The line has the time, the level, the component and the message, parted by
bars. With colours, each part is painted and the message is highlighted;
the text is the same either way.
-/
import Upkeep.Log.Calendar
import Upkeep.Log.Highlight
import Upkeep.Log.Record

namespace Upkeep.Log

/-! ## 1. What a line shows -/

/-- What a line shows. Levels and sources of other origin have any name. -/
structure Line where
  seconds : Int
  milliseconds : Int
  level : String
  source : String
  message : String
  /-- What is shown below the line. -/
  trouble : Option String := none
  deriving DecidableEq, Repr

/-- A text with blanks at its end up to a width. -/
def padRight (width : Nat) (s : List Char) : List Char :=
  s ++ List.replicate (width - s.length) ' '

/-! ## 2. Colours -/

/-- The colour of a level. -/
def levelColour (level : String) : Colour :=
  if level == Level.debug.name then .brightBlack
  else if level == Level.info.name then .brightGreen
  else if level == Level.warning.name then .brightYellow
  else if level == Level.error.name then .brightRed
  else if level == Level.critical.name then Colour.onRed ++ Colour.white ++ Colour.bold
  else .white

/-- The colours of components, by the beginnings of their names. -/
def componentColours : List (String × Colour) := [
  ("script_mcp.server", .brightCyan),
  ("script_mcp.services.connection", .brightMagenta),
  ("script_mcp.services.session", .brightMagenta),
  ("script_mcp.services.runner", .brightBlue),
  ("script_mcp.services.controller", .cyan),
  ("script_mcp.services.reconciler", .cyan),
  ("script_mcp.middleware", .yellow),
  ("script_mcp.config", .green)]

/-- The colour of a component. -/
def componentColour (source : String) : Colour :=
  match componentColours.find? fun c => c.1.toList.isPrefixOf source.toList with
  | some c => c.2
  | none => .white

/-- The name of a component: its source, without the name of the service. -/
def componentName (source : String) : List Char :=
  let stem := root.toList ++ ['.']
  if stem.isPrefixOf source.toList then source.toList.drop stem.length else source.toList

/-! ## 3. Lines -/

/-- Text in a colour, if colours are wanted. -/
def painted (colours : Bool) (c : Colour) (text : List Char) : List Char :=
  if colours then c.paint text else text

namespace Line

/-- The line on a console. -/
def chars (colours : Bool) (l : Line) : List Char :=
  let time := painted colours .dim (stamp l.seconds l.milliseconds).toList
  let level := painted colours (levelColour l.level) (padRight 8 l.level.toList)
  let component := painted colours (componentColour l.source) (padRight 20 (componentName l.source))
  let bar := [' '] ++ painted colours .dim ['|'] ++ [' ']
  let message := if colours then Highlight.message l.message.toList else l.message.toList
  let below := match l.trouble with
    | some trouble => '\n' :: trouble.toList
    | none => []
  time ++ bar ++ level ++ bar ++ component ++ bar ++ message ++ below

/-- The line on a console, as a string. -/
def render (colours : Bool) (l : Line) : String := String.ofList (l.chars colours)

end Line

end Upkeep.Log
