/-
Upkeep.Shell — command lines for the remote shell.

A word that consists of harmless characters is written as it is. Any other
word is put between apostrophes, inside which the shell expands nothing;
an apostrophe of the word closes them, is written between double quotes,
and opens them again.
-/
namespace Upkeep.Shell

/-- A character that means nothing to the shell: an ASCII letter or digit,
or one of ten signs. -/
def isHarmless (c : Char) : Bool :=
  let n := c.toNat
  (0x30 ≤ n && n ≤ 0x39) || (0x41 ≤ n && n ≤ 0x5A) || (0x61 ≤ n && n ≤ 0x7A) ||
    ['_', '@', '%', '+', '=', ':', ',', '.', '/', '-'].contains c

/-- One character between apostrophes. -/
def quoteChar (c : Char) : List Char :=
  if c == '\'' then ['\'', '"', '\'', '"', '\''] else [c]

/-- The word as the shell has to be given it, on characters. -/
def quoteChars (word : List Char) : List Char :=
  if word.isEmpty then ['\'', '\'']
  else if word.all isHarmless then word
  else '\'' :: word.flatMap quoteChar ++ ['\'']

/-- The word as the shell has to be given it. -/
def quote (word : String) : String := String.ofList (quoteChars word.toList)

/-- The command that makes a file executable and, if that succeeds, runs
it. -/
def runCommand (path : String) (privileged : Bool := false) : String :=
  let quoted := quote path
  let runner := if privileged then "sudo " ++ quoted else quoted
  "chmod +x " ++ quoted ++ " && " ++ runner

/-- The command that removes a file. -/
def removeCommand (path : String) : String := "rm -f " ++ quote path

end Upkeep.Shell
