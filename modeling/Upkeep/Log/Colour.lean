/-
Upkeep.Log.Colour — colour sequences of a terminal.

A sequence is the escape character, a bracket, digits, and an `m`. Text in
a colour stands between a sequence that switches it on and one that
switches everything off.
-/
namespace Upkeep.Log

/-- One or more display attributes, by their numbers. -/
abbrev Colour := List Nat

namespace Colour

/-- No attribute. -/
def reset : Colour := [0]

def bold : Colour := [1]
def dim : Colour := [2]
def cyan : Colour := [36]
def green : Colour := [32]
def yellow : Colour := [33]
def white : Colour := [37]
def onRed : Colour := [41]
def brightBlack : Colour := [90]
def brightRed : Colour := [91]
def brightGreen : Colour := [92]
def brightYellow : Colour := [93]
def brightBlue : Colour := [94]
def brightMagenta : Colour := [95]
def brightCyan : Colour := [96]

/-- The character that starts a sequence. -/
def escape : Char := '\x1b'

/-- The sequence for one attribute. -/
def sequence (n : Nat) : List Char :=
  escape :: '[' :: Nat.toDigits 10 n ++ ['m']

/-- The sequences for a colour. -/
def code (c : Colour) : List Char := c.flatMap sequence

/-- Text in a colour. -/
def paint (c : Colour) (text : List Char) : List Char := c.code ++ text ++ reset.code

end Colour

end Upkeep.Log
