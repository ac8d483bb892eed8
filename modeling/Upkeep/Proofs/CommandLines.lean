/-
Upkeep.Proofs.CommandLines — the shell reads a command as it was meant.

`Shell.split` goes through a command line by the rules of the POSIX shell for
quoting and for the recognition of tokens, character by character. It yields
the words, without their quotes, and the operators between them. It yields
nothing where the shell may put something else in the place of what is
written: where a dollar sign or a backquote is neither escaped nor between
apostrophes, or a tilde or a character of a pattern is not quoted at all. It
also yields nothing if a quotation is not closed or the line goes on below.
What a word means at its place, say a command or an assignment, is not a
matter of splitting.

## How the proof goes

A text `Spells` a word if it is read as that word wherever a token may begin,
up to but not including what ends the word. What `Shell.quoteChars` writes
spells the word that it was given (`spells_quoteChars`), by induction over the
word in each of the modes that reading passes through; and a command is a
sequence of such texts with a blank after each.

Main statement: `split_commands` — the command that runs a staged script and
the command that removes it are split into the words that they were built
from, and no operator but the one between the two steps. That they are read
as these words does not depend on NUL (`reads_runCommand`,
`reads_removeCommand`).
-/
import Upkeep.Shell

namespace Upkeep.Shell

/-! ## 1. Reading a command line -/

/-- What a command line consists of. -/
inductive Token
  | word (text : String)
  | operator (signs : String)
  deriving DecidableEq, Repr

/-- How the next character of a word is quoted. -/
inductive Quoting
  | bare
  | escaped
  | apostrophes
  | quotes
  | quotesEscaped
  deriving DecidableEq, Repr

/-- Where in a command line reading stands, with what it has read of the
token. -/
inductive Mode
  | between
  | comment
  | operator (signs : List Char)
  | word (quoting : Quoting) (read : List Char)
  deriving DecidableEq, Repr

/-- A character between words. -/
def isSeparator (c : Char) : Bool := c == ' ' || c == '\t'

/-- A character that makes an operator, or begins one. The end of a line is
one of them. -/
def isOperatorSign (c : Char) : Bool := ['&', '|', ';', '<', '>', '(', ')', '\n'].contains c

/-- The operators of more than one character, but for the two that take what
follows from the lines below. -/
def longOperators : List (List Char) :=
  ["&&", "||", ";;", "<&", ">&", "<>", ">>", ">|"].map String.toList

/-- A character in the place of which the shell may put something else,
unless it is quoted. -/
def mayExpand (c : Char) : Bool := ['$', '\x60', '*', '?', '[', '~'].contains c

/-- What a character of a word does; the character belongs to the word. -/
def takeIn (read : List Char) (c : Char) : Option Mode :=
  if c == '\\' then some (.word .escaped read)
  else if c == '\'' then some (.word .apostrophes read)
  else if c == '"' then some (.word .quotes read)
  else if mayExpand c then none
  else some (.word .bare (read ++ [c]))

/-- What a character does that no token before it takes in. -/
def begin (c : Char) : Option Mode :=
  if isSeparator c then some .between
  else if c == '#' then some .comment
  else if isOperatorSign c then some (.operator [c])
  else takeIn [] c

/-- What a character does: the token that it ends, if it ends one, and where
reading stands after it. -/
def step : Mode → Char → Option (Option Token × Mode)
  | .between, c => (begin c).map (none, ·)
  | .comment, c => some (none, if c == '\n' then .operator ['\n'] else .comment)
  | .operator signs, c =>
    if longOperators.contains (signs ++ [c]) then some (none, .operator (signs ++ [c]))
    else if signs == ['<'] && c == '<' then none
    else (begin c).map (some (.operator (String.ofList signs)), ·)
  | .word .bare read, c =>
    if isSeparator c || isOperatorSign c then
      (begin c).map (some (.word (String.ofList read)), ·)
    else (takeIn read c).map (none, ·)
  | .word .escaped read, c =>
    if c == '\n' then none else some (none, .word .bare (read ++ [c]))
  | .word .apostrophes read, c =>
    some (none, if c == '\'' then .word .bare read else .word .apostrophes (read ++ [c]))
  | .word .quotes read, c =>
    if c == '"' then some (none, .word .bare read)
    else if c == '\\' then some (none, .word .quotesEscaped read)
    else if c == '$' || c == '\x60' then none
    else some (none, .word .quotes (read ++ [c]))
  | .word .quotesEscaped read, c =>
    if c == '\n' then none
    else if ['$', '\x60', '"', '\\'].contains c then some (none, .word .quotes (read ++ [c]))
    else some (none, .word .quotes (read ++ ['\\', c]))

/-- The token that the end of the command line ends. -/
def finish : Mode → Option (List Token)
  | .between | .comment => some []
  | .operator signs => some [.operator (String.ofList signs)]
  | .word .bare read => some [.word (String.ofList read)]
  | .word _ _ => none

/-- The tokens from some place on. -/
def scan : Mode → List Char → Option (List Token)
  | mode, [] => finish mode
  | mode, c :: rest =>
    match step mode c with
    | none => none
    | some (none, next) => scan next rest
    | some (some token, next) => (scan next rest).map (token :: ·)

/-- The line is read as these tokens, whether or not a shell can be given it:
this says nothing about NUL. -/
def Reads (line : String) (tokens : List Token) : Prop :=
  scan .between line.toList = some tokens

/-- The tokens of a command line; a command line does not contain NUL. -/
def split (line : String) : Option (List Token) :=
  if '\x00' ∈ line.toList then none else scan .between line.toList

example : split "cat \"a \\$ b\" 'c;d'>>e\\ f # g" =
    some [.word "cat", .word "a $ b", .word "c;d", .operator ">>", .word "e f"] := by decide

example : split "rm -f $HOME" = none := by decide

/-! ## 2. Steps -/

/-- A character that ends no token. -/
theorem scan_cons_of_none {mode next : Mode} {c : Char} (h : step mode c = some (none, next))
    (rest : List Char) : scan mode (c :: rest) = scan next rest := by
  rw [scan, h]

/-! A harmless character stands for itself. -/

theorem ne_of_isHarmless {c d : Char} (h : isHarmless c = true) (hd : isHarmless d = false) :
    c ≠ d := by
  rintro rfl
  rw [h] at hd
  cases hd

theorem not_contains_of_isHarmless {c : Char} (h : isHarmless c = true) {ds : List Char}
    (hd : ds.all (fun d => !isHarmless d) = true) : ds.contains c = false := by
  rw [List.contains_eq_mem, decide_eq_false_iff_not]
  intro hc
  have := List.all_eq_true.mp hd c hc
  rw [h] at this
  cases this

theorem takeIn_of_isHarmless {c : Char} (h : isHarmless c = true) (read : List Char) :
    takeIn read c = some (.word .bare (read ++ [c])) := by
  have plain : mayExpand c = false := not_contains_of_isHarmless h (by decide)
  simp [takeIn, plain, ne_of_isHarmless h (show isHarmless '\\' = false by decide),
    ne_of_isHarmless h (show isHarmless '\'' = false by decide),
    ne_of_isHarmless h (show isHarmless '"' = false by decide)]

theorem isSeparator_of_isHarmless {c : Char} (h : isHarmless c = true) : isSeparator c = false := by
  simp [isSeparator, ne_of_isHarmless h (show isHarmless ' ' = false by decide),
    ne_of_isHarmless h (show isHarmless '\t' = false by decide)]

theorem isOperatorSign_of_isHarmless {c : Char} (h : isHarmless c = true) :
    isOperatorSign c = false := not_contains_of_isHarmless h (by decide)

theorem begin_of_isHarmless {c : Char} (h : isHarmless c = true) :
    begin c = some (.word .bare [c]) := by
  rw [begin, isSeparator_of_isHarmless h, isOperatorSign_of_isHarmless h, takeIn_of_isHarmless h]
  simp [ne_of_isHarmless h (show isHarmless '#' = false by decide)]

/-- Harmless characters are taken in as they are. -/
theorem scan_bare {word : List Char} (h : ∀ c ∈ word, isHarmless c = true) (read rest : List Char) :
    scan (.word .bare read) (word ++ rest) = scan (.word .bare (read ++ word)) rest := by
  induction word generalizing read with
  | nil => simp
  | cons c word ih =>
    obtain ⟨harmless, more⟩ := List.forall_mem_cons.mp h
    have taken : step (.word .bare read) c = some (none, .word .bare (read ++ [c])) := by
      rw [step, isSeparator_of_isHarmless harmless, isOperatorSign_of_isHarmless harmless,
        takeIn_of_isHarmless harmless]
      rfl
    rw [List.cons_append, scan_cons_of_none taken, ih more, List.append_assoc,
      List.singleton_append]

/-- Between apostrophes, what is written for a character is that character. An
apostrophe is written in five characters, which pass through four modes. -/
theorem scan_quoteChar (c : Char) (read rest : List Char) :
    scan (.word .apostrophes read) (quoteChar c ++ rest) =
      scan (.word .apostrophes (read ++ [c])) rest := by
  unfold quoteChar
  split
  · rename_i same
    rw [eq_of_beq same]
    rfl
  · rename_i other
    have taken : step (.word .apostrophes read) c =
        some (none, .word .apostrophes (read ++ [c])) := by
      rw [step, if_neg other]
    rw [List.singleton_append, scan_cons_of_none taken]

theorem scan_flatMap_quoteChar (word read rest : List Char) :
    scan (.word .apostrophes read) (word.flatMap quoteChar ++ rest) =
      scan (.word .apostrophes (read ++ word)) rest := by
  induction word generalizing read with
  | nil => simp
  | cons c word ih =>
    rw [List.flatMap_cons, List.append_assoc, scan_quoteChar, ih, List.append_assoc,
      List.singleton_append]

/-! ## 3. Words -/

/-- The text is read as the word wherever a token may begin. -/
def Spells (text word : List Char) : Prop :=
  ∀ rest, scan .between (text ++ rest) = scan (.word .bare word) rest

/-- A quoted word spells that word. -/
theorem spells_quoteChars (word : List Char) : Spells (quoteChars word) word := by
  intro rest
  unfold quoteChars
  split
  · rename_i empty
    rw [List.isEmpty_iff.mp empty]
    rfl
  · split
    · rename_i nonempty harmless
      have each := List.all_eq_true.mp harmless
      cases word with
      | nil => cases nonempty rfl
      | cons c word =>
        obtain ⟨first, more⟩ := List.forall_mem_cons.mp each
        have begun : step .between c = some (none, .word .bare [c]) := by
          rw [step, begin_of_isHarmless first]
          rfl
        rw [List.cons_append, scan_cons_of_none begun, scan_bare more, List.singleton_append]
    · have opened : step .between '\'' = some (none, .word .apostrophes []) := rfl
      have closed : step (.word .apostrophes word) '\'' = some (none, .word .bare word) := rfl
      rw [List.cons_append, List.cons_append, scan_cons_of_none opened, List.append_assoc,
        scan_flatMap_quoteChar, List.nil_append, List.singleton_append, scan_cons_of_none closed]

/-- A blank ends a word. -/
theorem Spells.scan_blank {text word : List Char} (h : Spells text word) (rest : List Char) :
    scan .between (text ++ ' ' :: rest) =
      (scan .between rest).map (.word (String.ofList word) :: ·) := by
  rw [h]
  rfl

/-- The end of the line ends a word. -/
theorem Spells.scan_end {text word : List Char} (h : Spells text word) :
    scan .between text = some [.word (String.ofList word)] := by
  have read := h []
  rw [List.append_nil] at read
  rw [read]
  rfl

/-- The operator that goes on if the command before it succeeded. -/
theorem scan_and (rest : List Char) :
    scan .between ('&' :: '&' :: ' ' :: rest) = (scan .between rest).map (.operator "&&" :: ·) :=
  rfl

/-! ## 4. Commands -/

/-- A plain word spells itself. -/
theorem spells_plain {word : List Char} (h : quoteChars word = word) : Spells word word := by
  have spells := spells_quoteChars word
  rwa [h] at spells

/-- Quoting brings in apostrophes and double quotes, and nothing else. -/
theorem mem_quoteChar {c d : Char} (h : c ∈ quoteChar d) : c = d ∨ c = '\'' ∨ c = '"' := by
  unfold quoteChar at h
  split at h
  · simp only [List.mem_cons, List.not_mem_nil, or_false] at h
    rcases h with h | h | h | h | h
    · exact Or.inr (Or.inl h)
    · exact Or.inr (Or.inr h)
    · exact Or.inr (Or.inl h)
    · exact Or.inr (Or.inr h)
    · exact Or.inr (Or.inl h)
  · exact Or.inl (List.mem_singleton.mp h)

theorem mem_quoteChars {word : List Char} {c : Char} (h : c ∈ quoteChars word) :
    c ∈ word ∨ c = '\'' ∨ c = '"' := by
  unfold quoteChars at h
  split at h
  · exact Or.inr (Or.inl (by simpa using h))
  · split at h
    · exact Or.inl h
    · simp only [List.cons_append, List.mem_cons, List.mem_append, List.mem_flatMap,
        List.not_mem_nil, or_false] at h
      rcases h with h | ⟨d, hd, hc⟩ | h
      · exact Or.inr (Or.inl h)
      · rcases mem_quoteChar hc with rfl | hc
        · exact Or.inl hd
        · exact Or.inr hc
      · exact Or.inr (Or.inl h)

theorem nul_not_mem_quoteChars {word : List Char} (h : '\x00' ∉ word) :
    '\x00' ∉ quoteChars word := by
  intro hc
  rcases mem_quoteChars hc with hc | hc | hc
  · exact h hc
  · exact absurd hc (by decide)
  · exact absurd hc (by decide)

theorem toList_removeCommand (path : String) :
    (removeCommand path).toList =
      ['r', 'm'] ++ ' ' :: (['-', 'f'] ++ ' ' :: quoteChars path.toList) := by
  simp [removeCommand, quote]

theorem toList_runCommand (path : String) (privileged : Bool) :
    (runCommand path privileged).toList =
      ['c', 'h', 'm', 'o', 'd'] ++ ' ' :: (['+', 'x'] ++ ' ' :: (quoteChars path.toList ++ ' ' ::
        '&' :: '&' :: ' ' :: (if privileged then
          ['s', 'u', 'd', 'o'] ++ ' ' :: quoteChars path.toList else quoteChars path.toList))) := by
  cases privileged with
  | false => simp [runCommand, quote]
  | true => simp [runCommand, quote]

/-- The command that removes a file is read as three words: the path is one
of them, exactly as it was given. -/
theorem reads_removeCommand (path : String) :
    Reads (removeCommand path) [.word "rm", .word "-f", .word path] := by
  have path_word := spells_quoteChars path.toList
  unfold Reads
  rw [toList_removeCommand, (spells_plain rfl).scan_blank, (spells_plain rfl).scan_blank,
    path_word.scan_end, String.ofList_toList]
  rfl

/-- The command that runs a file is read as two steps, the second of which is
made if the first succeeds. -/
theorem reads_runCommand (path : String) (privileged : Bool) :
    Reads (runCommand path privileged)
      ([.word "chmod", .word "+x", .word path, .operator "&&"] ++
        (if privileged then [.word "sudo"] else []) ++ [.word path]) := by
  have path_word := spells_quoteChars path.toList
  unfold Reads
  rw [toList_runCommand, (spells_plain rfl).scan_blank, (spells_plain rfl).scan_blank,
    path_word.scan_blank, scan_and]
  cases privileged with
  | false =>
    rw [if_neg Bool.false_ne_true, path_word.scan_end, String.ofList_toList]
    rfl
  | true =>
    rw [if_pos rfl, (spells_plain rfl).scan_blank, path_word.scan_end, String.ofList_toList]
    rfl

/-- A line without NUL is split into the tokens that it is read as. -/
theorem Reads.split {line : String} {tokens : List Token} (h : Reads line tokens)
    (clean : '\x00' ∉ line.toList) : split line = some tokens := by
  rw [Shell.split, if_neg clean]
  exact h

/-- The shell splits the commands for a staged script into the words that they
were built from: the path is one word, exactly as it was given, nothing is
expanded, and the only operator is the one between making the file executable
and running it. -/
theorem split_commands {path : String} (h : '\x00' ∉ path.toList) :
    split (removeCommand path) = some [.word "rm", .word "-f", .word path] ∧
      ∀ privileged, split (runCommand path privileged) =
        some ([.word "chmod", .word "+x", .word path, .operator "&&"] ++
          (if privileged then [.word "sudo"] else []) ++ [.word path]) := by
  have clean := nul_not_mem_quoteChars h
  constructor
  · refine (reads_removeCommand path).split ?_
    rw [toList_removeCommand]
    simp [clean]
  · intro privileged
    refine (reads_runCommand path privileged).split ?_
    rw [toList_runCommand]
    cases privileged <;> simp [clean]

/-- A path that needs every kind of care, in the longest command. -/
theorem split_commands_hostile :
    '\x00' ∉ "/tmp/it's $HOME\n`x`".toList ∧
      split (runCommand "/tmp/it's $HOME\n`x`" true) =
        some [.word "chmod", .word "+x", .word "/tmp/it's $HOME\n`x`", .operator "&&",
          .word "sudo", .word "/tmp/it's $HOME\n`x`"] := by
  have plain : '\x00' ∉ "/tmp/it's $HOME\n`x`".toList := by decide
  exact ⟨plain, (split_commands plain).2 true⟩

end Upkeep.Shell
