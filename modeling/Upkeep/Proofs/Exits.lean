/-
Upkeep.Proofs.Exits — what the exit of a script says.

A text is cut into lines at its line boundaries (`Text.Lines`, which `lines`
computes: `Text.lines_iff`). Every line boundary is blank, so a trimmed text
ends inside its last line, and that line is there and not blank unless the
text was blank to begin with (`Text.exists_lastLine`).

Main statement: `Failure.exited_says` — the exit of a script says its status and
the last line of what was written to the error stream, in one line.
-/
import Upkeep.Failure

namespace Upkeep.Text

/-! ## 1. Lines -/

/-- What ends a line, with what comes behind it: a carriage return takes a
line feed behind it along. -/
inductive LineEnd : List Char → List Char → Prop
  | one {c : Char} {rest : List Char} : isLineBreak c = true →
      (c = '\r' → rest.head? ≠ some '\n') → LineEnd [c] rest
  | both (rest : List Char) : LineEnd ['\r', '\n'] rest

/-- A text and its lines. The last line needs no end, and if it has one, no
further line is behind it. -/
inductive Lines : List Char → List (List Char) → Prop
  | done : Lines [] []
  | last {line : List Char} : line ≠ [] → (∀ c ∈ line, isLineBreak c = false) →
      Lines line [line]
  | next {line ending rest : List Char} {others : List (List Char)} :
      (∀ c ∈ line, isLineBreak c = false) → LineEnd ending rest → Lines rest others →
      Lines (line ++ (ending ++ rest)) (line :: others)

theorem linesAfter_lineEnd {ending rest : List Char} (h : LineEnd ending rest)
    (current : List Char) :
    linesAfter current (ending ++ rest) = current.reverse :: lines rest := by
  cases h with
  | both => rfl
  | one ends alone =>
    rename_i c
    rw [List.singleton_append, linesAfter, if_pos ends]
    · rfl
    · rintro others rfl rfl
      exact alone rfl rfl

theorem linesAfter_cons {c : Char} (inner : isLineBreak c = false) (current rest : List Char) :
    linesAfter current (c :: rest) = linesAfter (c :: current) rest := by
  rw [linesAfter, if_neg (by simp [inner])]
  rintro others rfl rfl
  cases inner

theorem linesAfter_append {line : List Char} (inner : ∀ c ∈ line, isLineBreak c = false)
    (current rest : List Char) :
    linesAfter current (line ++ rest) = linesAfter (line.reverse ++ current) rest := by
  induction line generalizing current with
  | nil => rfl
  | cons c line ih =>
    obtain ⟨hc, hl⟩ := List.forall_mem_cons.mp inner
    rw [List.cons_append, linesAfter_cons hc, ih hl]
    simp

theorem lines_linesAfter {current : List Char} (inner : ∀ c ∈ current, isLineBreak c = false)
    (s : List Char) : Lines (current.reverse ++ s) (linesAfter current s) := by
  have plain : ∀ c ∈ current.reverse, isLineBreak c = false :=
    fun c hc => inner c (List.mem_reverse.mp hc)
  fun_induction linesAfter current s with
  | case1 current none =>
    rw [List.isEmpty_iff.mp none]
    exact .done
  | case2 current some =>
    rw [List.append_nil]
    exact .last (by simpa using some) plain
  | case3 current rest ih => exact .next plain (.both rest) (ih nofun nofun)
  | case4 current c rest alone ends ih =>
    refine .next plain (.one ends ?_) (ih nofun nofun)
    rintro rfl feed
    obtain ⟨others, rfl⟩ := List.head?_eq_some_iff.mp feed
    exact alone others rfl rfl
  | case5 current c rest _ within ih =>
    have more : ∀ d ∈ c :: current, isLineBreak d = false :=
      List.forall_mem_cons.mpr ⟨Bool.eq_false_iff.mpr within, inner⟩
    have := ih more fun d hd => more d (List.mem_reverse.mp hd)
    simpa using this

/-- The lines of a text are what the splitting makes of it. -/
theorem lines_iff {s : List Char} {ls : List (List Char)} : Lines s ls ↔ lines s = ls := by
  constructor
  · intro h
    induction h with
    | done => rfl
    | last full inner =>
      have whole := linesAfter_append inner [] []
      rw [List.append_nil] at whole
      rw [lines, whole]
      simp [linesAfter, full]
    | next inner ends _ ih =>
      rw [lines, linesAfter_append inner, linesAfter_lineEnd ends, ih]
      simp
  · rintro rfl
    have start : ∀ c ∈ ([] : List Char), isLineBreak c = false := nofun
    exact lines_linesAfter start s

example : lines "a\r\n\nb\u2028".toList = ["a".toList, [], "b".toList] := by decide

theorem Lines.inner {s : List Char} {ls : List (List Char)} (h : Lines s ls) :
    ∀ line ∈ ls, ∀ c ∈ line, isLineBreak c = false := by
  induction h with
  | done => exact nofun
  | last _ inner => exact List.forall_mem_singleton.mpr inner
  | next inner _ _ ih => exact List.forall_mem_cons.mpr ⟨inner, ih⟩

theorem LineEnd.getLast? {ending rest : List Char} (h : LineEnd ending rest) :
    ∃ c, ending.getLast? = some c ∧ isLineBreak c = true := by
  cases h with
  | one ends _ => exact ⟨_, rfl, ends⟩
  | both => exact ⟨'\n', rfl, rfl⟩

/-- A text that does not end with a line boundary ends inside its last
line. -/
theorem Lines.exists_last {s : List Char} {ls : List (List Char)} (h : Lines s ls) {c : Char}
    (final : s.getLast? = some c) (inner : isLineBreak c = false) :
    ∃ before line, ls = before ++ [line] ∧ line.getLast? = some c := by
  induction h with
  | done => cases final
  | last _ _ => exact ⟨[], _, rfl, final⟩
  | next _ ends split ih =>
    rename_i line ending rest others _
    obtain ⟨b, ended, breaks⟩ := ends.getLast?
    cases rest with
    | nil =>
      -- the text would end with the boundary
      have same : b = c := by simpa [List.getLast?_append, ended] using final
      rw [same, inner] at breaks
      cases breaks
    | cons d more =>
      have behind : (d :: more).getLast? = some c := by
        simpa [List.getLast?_append, List.getLast?_cons] using final
      obtain ⟨before, last, rfl, same⟩ := ih behind
      exact ⟨line :: before, last, rfl, same⟩

/-! ## 2. The last line -/

/-- A text that is not blank has a last line, and the line is not blank. -/
theorem exists_lastLine {s : List Char} (h : ∃ c ∈ s, isBlank c = false) :
    ∃ before last, Lines (trim s) (before ++ [last]) ∧ lastLine s = last ∧
      ∃ c, last.getLast? = some c ∧ isBlank c = false := by
  have left := trimmed_trim s
  cases final : (trim s).getLast? with
  | none =>
    rw [List.getLast?_eq_none_iff.mp final] at left
    obtain ⟨c, hc, full⟩ := h
    rw [left.of_nil c hc] at full
    cases full
  | some c =>
    have full : isBlank c = false := left.last c final
    have inner : isLineBreak c = false := by
      cases breaks : isLineBreak c with
      | false => rfl
      | true => rw [isBlank_of_isLineBreak breaks] at full; cases full
    have split : Lines (trim s) (lines (trim s)) := lines_iff.mpr rfl
    obtain ⟨before, last, same, ending⟩ := split.exists_last final inner
    refine ⟨before, last, same ▸ split, ?_, c, ending, full⟩
    simp [lastLine, same]

/-- The last line of the trimmed text, asked for by its place among the lines:
nothing, if there is no such place. -/
def lastLine? (s : List Char) : Option (List Char) :=
  if trim s = [] then some [] else (lines (trim s)).getLast?

theorem lastLine_of_blank {s : List Char} (h : ∀ c ∈ s, isBlank c = true) : lastLine s = [] := by
  simp [lastLine, trim_of_blank h, lines, linesAfter]

/-- There is always such a place. -/
theorem lastLine?_eq (s : List Char) : lastLine? s = some (lastLine s) := by
  by_cases blank : ∀ c ∈ s, isBlank c = true
  · simp [lastLine?, trim_of_blank blank, lastLine_of_blank blank]
  · have some : ∃ c ∈ s, isBlank c = false := by simpa using blank
    obtain ⟨before, last, split, same, -⟩ := exists_lastLine some
    have cut : lines (trim s) = before ++ [last] := lines_iff.mp split
    have full : trim s ≠ [] := by
      intro none
      rw [none] at cut
      simp [lines, linesAfter] at cut
    rw [lastLine?, if_neg full, same, cut]
    simp

/-! ## 3. One line -/

theorem inner_of_any {s : List Char} (h : s.any isLineBreak = false) :
    ∀ c ∈ s, isLineBreak c = false :=
  fun c hc => Bool.eq_false_iff.mpr (List.any_eq_false.mp h c hc)

theorem not_isLineBreak_of_isDigit {c : Char} (h : c.isDigit = true) : isLineBreak c = false := by
  have range : 0x30 ≤ c.toNat ∧ c.toNat ≤ 0x39 := Char.isDigit_iff_toNat.mp h
  simp only [isLineBreak, Bool.or_eq_false_iff, Bool.and_eq_false_iff, decide_eq_false_iff_not,
    beq_eq_false_iff_ne]
  omega

theorem inner_toString (n : Int) : ∀ c ∈ (toString n).toList, isLineBreak c = false := by
  have digits (m : Nat) : ∀ c ∈ Nat.toDigits 10 m, isLineBreak c = false := fun c hc =>
    not_isLineBreak_of_isDigit (Nat.isDigit_of_mem_toDigits (by decide) (by decide) hc)
  cases n with
  | ofNat m => simpa [toString, Int.repr, Nat.repr] using digits m
  | negSucc m =>
    intro c hc
    have parts : c = '-' ∨ c ∈ Nat.toDigits 10 (m + 1) := by
      simpa [toString, Int.repr, Nat.repr] using hc
    rcases parts with rfl | hc
    · rfl
    · exact digits (m + 1) c hc

end Upkeep.Text

namespace Upkeep

open Text (Trimmed Lines isBlank isLineBreak lastLine lastLine? lines_iff)

/-! ## 4. The exit of a script -/

/-- What the exit of a script says without the error stream. -/
def ScriptExit.heading (e : ScriptExit) : String :=
  s!"{e.phase} script exited with status {e.status}"

theorem ScriptExit.message_of_blank {e : ScriptExit} (h : lastLine e.stderr.toList = []) :
    e.message = e.heading := by
  simp [message, heading, h]

theorem ScriptExit.message_of_line {e : ScriptExit} {last : List Char} (full : last ≠ [])
    (h : lastLine e.stderr.toList = last) :
    e.message = e.heading ++ ": " ++ String.ofList last := by
  unfold message
  rw [h]
  cases last with
  | nil => exact absurd rfl full
  | cons c rest => rfl

theorem ScriptExit.inner_heading {e : ScriptExit}
    (single : ∀ c ∈ e.phase.toList, isLineBreak c = false) :
    ∀ c ∈ e.heading.toList, isLineBreak c = false := by
  have words : ∀ c ∈ " script exited with status ".toList, isLineBreak c = false :=
    Text.inner_of_any (by decide)
  have parts : e.heading.toList =
      e.phase.toList ++ " script exited with status ".toList ++ (toString e.status).toList := by
    simp [heading, toString]
  rw [parts]
  exact List.forall_mem_append.mpr
    ⟨List.forall_mem_append.mpr ⟨single, words⟩, Text.inner_toString e.status⟩

/-- A phase in one line makes a message in one line, whatever the error stream
holds. -/
theorem ScriptExit.inner_message {e : ScriptExit}
    (single : ∀ c ∈ e.phase.toList, isLineBreak c = false) :
    ∀ c ∈ e.message.toList, isLineBreak c = false := by
  by_cases blank : ∀ c ∈ e.stderr.toList, isBlank c = true
  · rw [message_of_blank (Text.lastLine_of_blank blank)]
    exact inner_heading single
  · have some : ∃ c ∈ e.stderr.toList, isBlank c = false := by simpa using blank
    obtain ⟨before, last, split, same, c, final, -⟩ := Text.exists_lastLine some
    have full : last ≠ [] := by
      rintro rfl
      cases final
    have inner : ∀ c ∈ (String.ofList last).toList, isLineBreak c = false := by
      rw [String.toList_ofList]
      exact split.inner last (by simp)
    rw [message_of_line full same, String.toList_append, String.toList_append]
    exact List.forall_mem_append.mpr
      ⟨List.forall_mem_append.mpr ⟨inner_heading single, Text.inner_of_any (by decide)⟩, inner⟩

/-- The exit of a script can always be told, in one line if its phase is one.

The line that is looked for at the end of the error stream is there. The
message is the heading, and behind it, if the error stream holds more than
blanks, the last of the lines of what is left of it without the blanks at its
ends, which is not blank. The exit is transient unless it is fatal. -/
theorem Failure.exited_says (e : ScriptExit) :
    lastLine? e.stderr.toList = some (lastLine e.stderr.toList) ∧
    ((∀ c ∈ e.phase.toList, isLineBreak c = false) →
      ∀ c ∈ (Failure.exited e).message.toList, isLineBreak c = false) ∧
    ((∃ c ∈ e.stderr.toList, isBlank c = false) →
      ∃ core before last, Trimmed isBlank e.stderr.toList core ∧ Lines core (before ++ [last]) ∧
        (∃ c ∈ last, isBlank c = false) ∧
        (Failure.exited e).message =
          s!"{e.phase} script exited with status {e.status}: " ++ String.ofList last) ∧
    ((∀ c ∈ e.stderr.toList, isBlank c = true) →
      (Failure.exited e).message = s!"{e.phase} script exited with status {e.status}") ∧
    (Failure.exited e).isTransient = !e.fatal := by
  refine ⟨Text.lastLine?_eq _, ScriptExit.inner_message, ?_, ?_, rfl⟩
  · intro some
    obtain ⟨before, last, split, same, c, final, ink⟩ := Text.exists_lastLine some
    have there : c ∈ last := List.mem_of_getLast? final
    refine ⟨_, before, last, Text.trimmed_trim _, split, ⟨c, there, ink⟩, ?_⟩
    have full : last ≠ [] := List.ne_nil_of_mem there
    exact ScriptExit.message_of_line full same
  · intro blank
    exact ScriptExit.message_of_blank (Text.lastLine_of_blank blank)

/-- An update that a signal ended, with lines of all sorts of ends, and a
cleanup that wrote nothing but ends of lines. -/
theorem Failure.exited_says_last :
    let update : ScriptExit :=
      { status := -9, stderr := " first\r\nsecond\x0b\u2028\ndisk full\x85 \x1c", phase := "update",
        fatal := false }
    let cleanup : ScriptExit := { status := 1, stderr := "\r\n\u2029\x0c", phase := "cleanup" }
    (∀ c ∈ update.phase.toList, isLineBreak c = false) ∧
      (∃ c ∈ update.stderr.toList, isBlank c = false) ∧
      (∀ c ∈ (Failure.exited update).message.toList, isLineBreak c = false) ∧
      (Failure.exited update).message = "update script exited with status -9: disk full" ∧
      (Failure.exited update).isTransient = true ∧
      (∀ c ∈ cleanup.stderr.toList, isBlank c = true) ∧
      (Failure.exited cleanup).message = "cleanup script exited with status 1" := by
  intro update cleanup
  have single : ∀ c ∈ update.phase.toList, isLineBreak c = false :=
    Text.inner_of_any (by decide)
  have some : ∃ c ∈ update.stderr.toList, isBlank c = false := ⟨'f', by decide, by decide⟩
  have blank : ∀ c ∈ cleanup.stderr.toList, isBlank c = true :=
    List.all_eq_true.mp (by decide)
  obtain ⟨-, oneLine, told, -, transient⟩ := Failure.exited_says update
  obtain ⟨core, before, last, left, split, -, message⟩ := told some
  have cut : Text.lines (Text.trim update.stderr.toList) = before ++ [last] := by
    rw [Text.trim, Text.trimEnd, Text.trimmed_iff.mp left]
    exact lines_iff.mp split
  have asked : (Text.lines (Text.trim update.stderr.toList)).getLast? =
      Option.some "disk full".toList := by decide
  rw [cut, List.getLast?_concat] at asked
  rw [Option.some.inj asked] at message
  refine ⟨single, some, oneLine single, message.trans (by decide), transient, blank, ?_⟩
  exact ((Failure.exited_says cleanup).2.2.2.1 blank).trans (by decide)

end Upkeep
