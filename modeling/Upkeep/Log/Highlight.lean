/-
Upkeep.Log.Highlight — what stands out in a message.

Three things do: the target of a connection (`user@host:port`), the exit
status of a script, and a readiness. They are looked for one kind after
the other, each in the text that the kind before has coloured.
-/
import Upkeep.Log.Colour
import Upkeep.Text.Digit
import Upkeep.Text.Substitution
import Upkeep.Text.Word

namespace Upkeep.Log.Highlight

open Upkeep.Text

/-! ## 1. Runs -/

/-- The characters of a class at the head of a text, if there are any, and
the rest. -/
def run? (p : Char → Bool) (s : List Char) : Option (List Char × List Char) :=
  match s.takeWhile p with
  | [] => none
  | found => some (found, s.dropWhile p)

/-- The rest of a text that starts with the given characters. -/
def after? (start s : List Char) : Option (List Char) :=
  if start.isPrefixOf s then some (s.drop start.length) else none

/-! ## 2. Targets of connections -/

/-- A character of a host. -/
def isHostChar (c : Char) : Bool := isWord c || c == '.' || c == '-'

/-- What follows the target that a text starts with. -/
def afterTarget? (s : List Char) : Option (List Char) := do
  let (_, rest) ← run? isWord s
  let rest ← after? ['@'] rest
  let (_, rest) ← run? isHostChar rest
  let rest ← after? [':'] rest
  let (_, rest) ← run? isDecimalDigit rest
  return rest

/-- Paint what a text starts with, given what follows it. -/
def paintUpTo (colour : Colour) (s rest : List Char) : Nat × List Char :=
  let taken := s.length - rest.length
  (taken, colour.paint (s.take taken))

/-- Targets are bright magenta. -/
def target : Rule := fun s => (afterTarget? s).map (paintUpTo .brightMagenta s)

/-! ## 3. Exit statuses -/

/-- A number may have a minus in front. -/
def afterMinus (s : List Char) : List Char :=
  match s with
  | '-' :: rest => rest
  | _ => s

/-- What follows the exit status that a text starts with. -/
def afterExit? (s : List Char) : Option (List Char) := do
  let rest ← after? ['e', 'x', 'i', 't'] s
  let rest ← match after? ['='] rest with
    | some rest => some rest
    | none => after? [' ', 'w', 'i', 't', 'h', ' '] rest
  let (_, rest) ← run? isDecimalDigit (afterMinus rest)
  return rest

/-- Exit statuses are bright yellow. -/
def exitStatus : Rule := fun s => (afterExit? s).map (paintUpTo .brightYellow s)

/-! ## 4. Readinesses -/

/-- What stands before a readiness. -/
def readinessMark : List Char := ['r', 'e', 'a', 'd', 'i', 'n', 'e', 's', 's', '=']

/-- The colour of a readiness. -/
def readinessColour (word : String) : Colour :=
  if word == "ready" then .brightGreen
  else if word == "absent" then .brightBlue
  else if word == "needs_remediation" then .brightYellow
  else if word == "fatal" then .brightRed
  else if word == "unknown" then .brightBlack
  else .white

/-- Readinesses have a colour each. -/
def readiness : Rule := fun s => do
  let rest ← after? readinessMark s
  let (word, _) ← run? isWord rest
  return (readinessMark.length + word.length,
    readinessMark ++ (readinessColour (String.ofList word)).paint word)

/-! ## 5. Messages -/

/-- A message with all that stands out in colour. -/
def message (s : List Char) : List Char :=
  substitute readiness (substitute exitStatus (substitute target s))

end Upkeep.Log.Highlight
