/-
Upkeep.Text.Blank — blank characters, line boundaries, and the trimming and
line splitting built on them.

`isBlank` holds the white space of every script, the ASCII separators
`1C`–`1F` included; `isLineBreak` holds the characters at which a text
splits into lines. Every line boundary is blank
(`isBlank_of_isLineBreak`), so a trimmed text neither starts nor ends
with one. What trimming leaves is said without the trimming by `Trimmed`
(`trimmed_iff`).
-/
namespace Upkeep.Text

/-! ## 1. Two classes of characters -/

/-- White space. -/
def isBlank (c : Char) : Bool :=
  let n := c.toNat
  (0x09 ≤ n && n ≤ 0x0D) || (0x1C ≤ n && n ≤ 0x20) || n == 0x85 || n == 0xA0 ||
    n == 0x1680 || (0x2000 ≤ n && n ≤ 0x200A) || n == 0x2028 || n == 0x2029 ||
    n == 0x202F || n == 0x205F || n == 0x3000

/-- A character at which a line ends. -/
def isLineBreak (c : Char) : Bool :=
  let n := c.toNat
  (0x0A ≤ n && n ≤ 0x0D) || (0x1C ≤ n && n ≤ 0x1E) || n == 0x85 ||
    n == 0x2028 || n == 0x2029

theorem isBlank_of_isLineBreak {c : Char} (h : isLineBreak c = true) : isBlank c = true := by
  simp only [isLineBreak, isBlank, Bool.or_eq_true, Bool.and_eq_true, decide_eq_true_eq,
    beq_iff_eq] at h ⊢
  omega

/-! ## 2. Trimming -/

/-- The text without its trailing characters of class `p`. -/
def dropEndWhile (p : Char → Bool) (s : List Char) : List Char :=
  (s.reverse.dropWhile p).reverse

/-- The text without trailing blanks. -/
def trimEnd (s : List Char) : List Char := dropEndWhile isBlank s

/-- The text without leading and trailing blanks. -/
def trim (s : List Char) : List Char := trimEnd (s.dropWhile isBlank)

@[simp] theorem dropEndWhile_nil (p : Char → Bool) : dropEndWhile p [] = [] := rfl

theorem dropEndWhile_append_singleton (p : Char → Bool) (s : List Char) (c : Char) :
    dropEndWhile p (s ++ [c]) = if p c then dropEndWhile p s else s ++ [c] := by
  simp only [dropEndWhile, List.reverse_append, List.reverse_singleton, List.singleton_append,
    List.dropWhile_cons]
  split <;> simp

theorem dropWhile_eq_self {p : Char → Bool} {s : List Char} (h : ∀ c ∈ s.head?, p c = false) :
    s.dropWhile p = s := by
  cases s with
  | nil => rfl
  | cons c rest =>
    have other : p c = false := h c rfl
    exact List.dropWhile_cons_of_neg (by simp [other])

theorem of_mem_head?_dropWhile {p : Char → Bool} {s : List Char} :
    ∀ c ∈ (s.dropWhile p).head?, p c = false := by
  intro c hc
  have other := List.head?_dropWhile_not p s
  rw [Option.mem_def.mp hc] at other
  simpa using other

theorem of_mem_getLast?_dropEndWhile {p : Char → Bool} {s : List Char} :
    ∀ c ∈ (dropEndWhile p s).getLast?, p c = false := by
  rw [dropEndWhile, List.getLast?_reverse]
  exact of_mem_head?_dropWhile

theorem dropEndWhile_append_takeWhile (p : Char → Bool) (s : List Char) :
    dropEndWhile p s ++ (s.reverse.takeWhile p).reverse = s := by
  rw [dropEndWhile, ← List.reverse_append, List.takeWhile_append_dropWhile, List.reverse_reverse]

theorem mem_head?_of_dropEndWhile {p : Char → Bool} {s : List Char} {c : Char}
    (h : c ∈ (dropEndWhile p s).head?) : c ∈ s.head? := by
  rw [← dropEndWhile_append_takeWhile p s, List.head?_append]
  simp [Option.mem_def.mp h]

/-! What is dropped is the character over and over, and it is not left. -/

theorem exists_eq_dropEndWhile_append (c : Char) (s : List Char) :
    ∃ n, s = dropEndWhile (· == c) s ++ List.replicate n c := by
  refine ⟨(s.reverse.takeWhile (· == c)).length, ?_⟩
  have same : s.reverse.takeWhile (· == c) = List.replicate _ c :=
    List.eq_replicate_iff.mpr
      ⟨rfl, fun d hd => by simpa using List.all_eq_true.mp List.all_takeWhile d hd⟩
  rw [← List.reverse_replicate, ← same, dropEndWhile_append_takeWhile]

theorem getLast?_dropEndWhile (c : Char) (s : List Char) :
    (dropEndWhile (· == c) s).getLast? ≠ some c := by
  intro h
  have other := of_mem_getLast?_dropEndWhile c h
  simp at other

theorem dropEndWhile_append_replicate {c : Char} {s : List Char} (h : s.getLast? ≠ some c)
    (n : Nat) : dropEndWhile (· == c) (s ++ List.replicate n c) = s := by
  induction n with
  | zero =>
    rw [List.replicate_zero, List.append_nil]
    rcases List.eq_nil_or_concat s with rfl | ⟨t, d, rfl⟩
    · rfl
    · rw [List.concat_eq_append] at h ⊢
      have differs : ¬ d = c := by simpa using h
      simp [dropEndWhile_append_singleton, differs]
  | succ n ih =>
    rw [List.replicate_succ', ← List.append_assoc, dropEndWhile_append_singleton]
    simpa using ih

/-! Taking characters of a class off at both ends. -/

/-- What is left of a text when the characters of class `p` at its two ends
are taken off. -/
inductive Trimmed (p : Char → Bool) : List Char → List Char → Prop
  | intro {before core after : List Char} : (∀ c ∈ before, p c = true) →
      (∀ c ∈ core.head?, p c = false) → (∀ c ∈ core.getLast?, p c = false) →
      (∀ c ∈ after, p c = true) → Trimmed p (before ++ core ++ after) core

theorem trimmed_iff {p : Char → Bool} {s core : List Char} :
    Trimmed p s core ↔ dropEndWhile p (s.dropWhile p) = core := by
  constructor
  · rintro ⟨hb, first, last, ha⟩
    rename_i before after
    have ends : ∀ c ∈ after.reverse, p c = true := fun c hc => ha c (List.mem_reverse.mp hc)
    rw [List.append_assoc, List.dropWhile_append_of_pos hb, dropEndWhile]
    cases core with
    | nil =>
      have none : (after ++ []).dropWhile p = [] := List.dropWhile_append_of_pos ha
      rw [List.append_nil] at none
      simp [none]
    | cons c rest =>
      have start : (c :: rest ++ after).dropWhile p = c :: rest ++ after := dropWhile_eq_self first
      rw [← List.head?_reverse] at last
      rw [start, List.reverse_append, List.dropWhile_append_of_pos ends, dropWhile_eq_self last,
        List.reverse_reverse]
  · rintro rfl
    have before : ∀ c ∈ s.takeWhile p, p c = true := List.all_eq_true.mp List.all_takeWhile
    have start : ∀ c ∈ (dropEndWhile p (s.dropWhile p)).head?, p c = false :=
      fun c hc => of_mem_head?_dropWhile c (mem_head?_of_dropEndWhile hc)
    have after : ∀ c ∈ ((s.dropWhile p).reverse.takeWhile p).reverse, p c = true := fun c hc =>
      List.all_eq_true.mp List.all_takeWhile c (List.mem_reverse.mp hc)
    have left := Trimmed.intro before start of_mem_getLast?_dropEndWhile after
    rwa [List.append_assoc, dropEndWhile_append_takeWhile, List.takeWhile_append_dropWhile] at left

theorem Trimmed.of_nil {p : Char → Bool} {s : List Char} (h : Trimmed p s []) :
    ∀ c ∈ s, p c = true := by
  obtain ⟨hb, -, -, ha⟩ := h
  rw [List.append_nil]
  exact List.forall_mem_append.mpr ⟨hb, ha⟩

theorem Trimmed.last {p : Char → Bool} {s core : List Char} (h : Trimmed p s core) :
    ∀ c ∈ core.getLast?, p c = false := by
  obtain ⟨-, -, last, -⟩ := h
  exact last

theorem trimmed_trim (s : List Char) : Trimmed isBlank s (trim s) := trimmed_iff.mpr rfl

theorem trim_of_blank {s : List Char} (h : ∀ c ∈ s, isBlank c = true) : trim s = [] := by
  have none : Trimmed isBlank (s ++ [] ++ []) [] := .intro h nofun nofun nofun
  rw [List.append_nil, List.append_nil] at none
  exact trimmed_iff.mp none

/-! ## 3. Lines -/

/-- The lines of a text after `current`, the part of the current line
already passed, in reverse. A carriage return and the line feed after it
are one boundary; a boundary at the very end opens no further line. -/
def linesAfter (current : List Char) : List Char → List (List Char)
  | [] => if current.isEmpty then [] else [current.reverse]
  | '\r' :: '\n' :: rest => current.reverse :: linesAfter [] rest
  | c :: rest =>
    if isLineBreak c then current.reverse :: linesAfter [] rest
    else linesAfter (c :: current) rest

/-- The lines of a text, without their boundaries. -/
def lines (s : List Char) : List (List Char) := linesAfter [] s

/-- The last line of the trimmed text, or nothing if the text is blank. -/
def lastLine (s : List Char) : List Char := ((lines (trim s)).getLast?).getD []

/-! ## 4. The same on strings -/

/-- The string without trailing blanks. -/
def trimEndText (s : String) : String := String.ofList (trimEnd s.toList)

/-- The string without leading and trailing blanks. -/
def trimText (s : String) : String := String.ofList (trim s.toList)

end Upkeep.Text
