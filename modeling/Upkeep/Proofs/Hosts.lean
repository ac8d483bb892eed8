/-
Upkeep.Proofs.Hosts — which texts are addresses of hosts.

The grammar of section 1 is that of addresses: a dotted quad (`Quad`), or two
labels or more with at most one dot behind them (`Name`). What is accepted is
wider in two ways (section 2): every label may be followed by a line feed,
and there may be any number of dots at the end (`LooseName`), with one
exception, four groups of digits and a line feed (`QuadLine`).

Main statement: `isValidHost_iff` — this is exactly what is accepted, and the
addresses are what of it has neither a line feed nor two dots at the end.
Nothing accepted has another character that means something to a shell.

The two grammars differ: `isValidHost_line_feed`.
-/
import Mathlib.Data.List.Induction
import Upkeep.Address
import Upkeep.Shell

namespace Upkeep.Address

open Upkeep.Text

/-! ## 1. Addresses -/

/-- Parts joined by dots. -/
def dotted (parts : List (List Char)) : List Char := ['.'].intercalate parts

/-- A decimal octet: how a number up to 255 is written. -/
def Octet (part : List Char) : Prop := ∃ n, n ≤ 255 ∧ part = Nat.toDigits 10 n

/-- Four decimal octets joined by dots. -/
def Quad (host : List Char) : Prop :=
  ∃ a b c d, (∀ part ∈ [a, b, c, d], Octet part) ∧ host = dotted [a, b, c, d]

/-- One to 63 ASCII letters, digits, underscores and inner hyphens. -/
structure Label (label : List Char) : Prop where
  nonempty : label ≠ []
  short : label.length ≤ 63
  signs : ∀ c ∈ label, c.isAlphanum ∨ c = '_' ∨ c = '-'
  first : label.head? ≠ some '-'
  last : label.getLast? ≠ some '-'

/-- All characters are ASCII digits. -/
def Digits (part : List Char) : Prop := ∀ c ∈ part, c.isDigit

/-- Two labels or more, not all of digits, joined by dots, possibly with a dot
behind them. -/
def Name (host : List Char) : Prop :=
  ∃ labels, 2 ≤ labels.length ∧ (host = dotted labels ∨ host = dotted labels ++ ['.']) ∧
    (∀ label ∈ labels, Label label) ∧ ¬ ∀ label ∈ labels, Digits label

/-! ## 2. What is accepted besides -/

/-- A label, possibly with a line feed behind it. -/
def Line (part : List Char) : Prop := ∃ label, Label label ∧ (part = label ∨ part = label ++ ['\n'])

/-- Two labels or more, not all of digits, each possibly with a line feed
behind it, joined by dots, with any number of dots behind them. -/
def LooseName (host : List Char) : Prop :=
  ∃ parts dots, 2 ≤ parts.length ∧ host = dotted parts ++ List.replicate dots '.' ∧
    (∀ part ∈ parts, Line part) ∧ ¬ ∀ part ∈ parts, Digits part

/-- Four groups of one to three digits joined by dots, and a line feed. -/
def QuadLine (host : List Char) : Prop :=
  ∃ a b c d, (∀ part ∈ [a, b, c, d], part ≠ [] ∧ part.length ≤ 3 ∧ Digits part) ∧
    host = dotted [a, b, c, d ++ ['\n']]

/-! ## 3. Characters -/

theorem isAlphanum_iff {c : Char} : c.isAlphanum = true ↔
    (48 ≤ c.toNat ∧ c.toNat ≤ 57) ∨ (65 ≤ c.toNat ∧ c.toNat ≤ 90) ∨
      (97 ≤ c.toNat ∧ c.toNat ≤ 122) := by
  have between (low high : Char) : (c.val ≥ low.val ∧ c.val ≤ high.val) ↔
      low.toNat ≤ c.toNat ∧ c.toNat ≤ high.toNat := by
    rw [ge_iff_le, UInt32.le_iff_toNat_le, UInt32.le_iff_toNat_le]
    rfl
  have upper : c.isUpper = true ↔ 65 ≤ c.toNat ∧ c.toNat ≤ 90 :=
    decide_eq_true_iff.trans (between 'A' 'Z')
  have lower : c.isLower = true ↔ 97 ≤ c.toNat ∧ c.toNat ≤ 122 := by
    refine Iff.trans ?_ (between 'a' 'z')
    exact (Bool.and_eq_true_iff).trans (and_congr decide_eq_true_iff decide_eq_true_iff)
  have digit : c.isDigit = true ↔ 48 ≤ c.toNat ∧ c.toNat ≤ 57 := Char.isDigit_iff_toNat
  show ((c.isUpper || c.isLower) || c.isDigit) = true ↔ _
  rw [Bool.or_eq_true, Bool.or_eq_true, upper, lower, digit]
  omega

theorem isDigit_iff {c : Char} : c.isDigit = true ↔ 48 ≤ c.toNat ∧ c.toNat ≤ 57 :=
  Char.isDigit_iff_toNat

theorem eq_iff_toNat {c d : Char} : c = d ↔ c.toNat = d.toNat := Char.toNat_inj.symm

theorem isEdge_iff {c : Char} : isEdge c = true ↔ c.isAlphanum ∨ c = '_' := by
  rw [isAlphanum_iff]
  simp only [isEdge, Bool.or_eq_true, Bool.and_eq_true, decide_eq_true_eq, beq_iff_eq]
  by_cases low : c = '_'
  · simp [low]
  · simp only [low, or_false]
    omega

theorem isInner_iff {c : Char} : isInner c = true ↔ c.isAlphanum ∨ c = '_' ∨ c = '-' := by
  simp only [isInner, Bool.or_eq_true, isEdge_iff, beq_iff_eq, or_assoc]

/-- Of ASCII characters the digits are the ones from `0` to `9`, in every
class of digits. -/
theorem isDecimalDigit_of_ascii {c : Char} (ascii : c.toNat < 0x80) :
    isDecimalDigit c = c.isDigit := by
  rw [Bool.eq_iff_iff, isDigit_iff]
  unfold isDecimalDigit digitValue?
  rw [if_pos ascii]
  split
  · rename_i digit
    simpa using digit
  · rename_i other
    simpa using other

theorem isDigitLike_of_ascii {c : Char} (ascii : c.toNat < 0x80) : isDigitLike c = c.isDigit := by
  have none : inRanges digitLikeRanges c.toNat = false := by
    rw [Bool.eq_false_iff, ne_eq, inRanges_eq_true_iff]
    rintro ⟨r, found, low, -⟩
    have large : ∀ r ∈ digitLikeRanges, 0x80 ≤ r.1 := by decide
    have := large r found
    omega
  rw [isDigitLike, none, Bool.or_false, isDecimalDigit_of_ascii ascii]

/-! ## 4. Labels -/

theorem Label.ascii {label : List Char} (h : Label label) {c : Char} (hc : c ∈ label) :
    c.toNat < 0x80 := by
  rcases h.signs c hc with letter | rfl | rfl
  · have := isAlphanum_iff.mp letter
    omega
  · decide
  · decide

/-- A label has neither dots nor line feeds. -/
theorem Label.not_mem {label : List Char} (h : Label label) {c : Char}
    (other : c = '.' ∨ c = '\n') : c ∉ label := by
  intro hc
  have signs := h.signs c hc
  rw [isAlphanum_iff] at signs
  rcases other with rfl | rfl <;> simp at signs

theorem dropFinalNewline_append (s : List Char) : dropFinalNewline (s ++ ['\n']) = s := by
  simp [dropFinalNewline]

theorem dropFinalNewline_of_not_mem {s : List Char} (h : '\n' ∉ s) : dropFinalNewline s = s := by
  unfold dropFinalNewline
  split
  · rename_i before same
    have : '\n' ∈ s.reverse := by rw [same]; exact List.mem_cons_self ..
    exact absurd (List.mem_reverse.mp this) h
  · rfl

/-- At most a line feed is dropped. -/
theorem eq_dropFinalNewline_or (s : List Char) :
    s = dropFinalNewline s ∨ s = dropFinalNewline s ++ ['\n'] := by
  unfold dropFinalNewline
  split
  · rename_i before same
    right
    rw [← List.reverse_reverse s, same, List.reverse_cons]
  · exact Or.inl rfl

theorem line_iff {part : List Char} : Line part ↔ Label (dropFinalNewline part) := by
  constructor
  · rintro ⟨label, valid, rfl | rfl⟩
    · rw [dropFinalNewline_of_not_mem (valid.not_mem (Or.inr rfl))]
      exact valid
    · rw [dropFinalNewline_append]
      exact valid
  · exact fun valid => ⟨_, valid, eq_dropFinalNewline_or part⟩

theorem isLabel_iff {part : List Char} : isLabel part = true ↔ Line part := by
  rw [line_iff]
  unfold isLabel
  generalize dropFinalNewline part = label
  have edge {o : Option Char} {c : Char} (given : o = some c)
      (sign : c.isAlphanum ∨ c = '_' ∨ c = '-') :
      (o.map isEdge).getD false = true ↔ o ≠ some '-' := by
    subst given
    rw [Option.map_some, Option.getD_some, isEdge_iff, ne_eq, Option.some.injEq]
    constructor
    · rintro (letter | low) rfl
      · exact absurd letter (by decide)
      · exact absurd low (by decide)
    · intro other
      rcases sign with letter | low | hyphen
      · exact Or.inl letter
      · exact Or.inr low
      · exact absurd hyphen other
  simp only [Bool.and_eq_true, Bool.not_eq_true', List.isEmpty_eq_false_iff, decide_eq_true_eq,
    List.all_eq_true, isInner_iff]
  constructor
  · rintro ⟨⟨⟨⟨nonempty, short⟩, signs⟩, first⟩, last⟩
    obtain ⟨c, rest, rfl⟩ := List.exists_cons_of_ne_nil nonempty
    have final := List.getLast?_eq_some_getLast nonempty
    exact ⟨nonempty, short, signs, (edge rfl (signs c (by simp))).mp first,
      (edge final (signs _ (List.getLast_mem nonempty))).mp last⟩
  · intro valid
    obtain ⟨nonempty, short, signs, first, last⟩ := valid
    obtain ⟨c, rest, rfl⟩ := List.exists_cons_of_ne_nil nonempty
    have final := List.getLast?_eq_some_getLast nonempty
    exact ⟨⟨⟨⟨nonempty, short⟩, signs⟩, (edge rfl (signs c (by simp))).mpr first⟩,
      (edge final (signs _ (List.getLast_mem nonempty))).mpr last⟩

theorem Line.not_mem_dot {part : List Char} (h : Line part) : '.' ∉ part := by
  obtain ⟨label, valid, rfl | rfl⟩ := h
  · exact valid.not_mem (Or.inl rfl)
  · simpa using valid.not_mem (Or.inl rfl)

theorem Line.ne_nil {part : List Char} (h : Line part) : part ≠ [] := by
  obtain ⟨label, valid, rfl | rfl⟩ := h
  · exact valid.nonempty
  · simp

theorem Line.ascii {part : List Char} (h : Line part) : ∀ c ∈ part, c.toNat < 0x80 := by
  obtain ⟨label, valid, rfl | rfl⟩ := h
  · exact fun c hc => valid.ascii hc
  · intro c hc
    rcases List.mem_append.mp hc with hc | hc
    · exact valid.ascii hc
    · rw [List.mem_singleton.mp hc]
      decide

/-- A part that passes for a label is a number exactly if it consists of
digits, which rules a line feed out. -/
theorem Line.isNumeric_iff {part : List Char} (h : Line part) :
    isNumeric part = true ↔ Digits part := by
  have ascii := h.ascii
  have nonempty := h.ne_nil
  simp only [isNumeric, Bool.and_eq_true, Bool.not_eq_true', List.isEmpty_eq_false_iff,
    List.all_eq_true]
  constructor
  · rintro ⟨-, digits⟩ c hc
    rw [← isDigitLike_of_ascii (ascii c hc)]
    exact digits c hc
  · intro digits
    refine ⟨nonempty, fun c hc => ?_⟩
    rw [isDigitLike_of_ascii (ascii c hc)]
    exact digits c hc

/-! ## 5. Parts between dots -/

theorem splitAt_eq_splitOn (separator : Char) (s : List Char) :
    splitAt separator s = s.splitOn separator := by
  induction s with
  | nil => rfl
  | cons c rest ih =>
    rw [splitAt, List.splitOn_cons_eq_if_modifyHead, ih]
    split
    · rfl
    · cases found : rest.splitOn separator with
      | nil => exact absurd found (List.splitOn_ne_nil separator rest)
      | cons part parts => rfl

theorem dotted_splitAt (s : List Char) : dotted (splitAt '.' s) = s := by
  rw [splitAt_eq_splitOn]
  exact List.intercalate_splitOn '.'

theorem splitAt_dotted {parts : List (List Char)} (h : ∀ part ∈ parts, '.' ∉ part)
    (some : parts ≠ []) : splitAt '.' (dotted parts) = parts := by
  rw [splitAt_eq_splitOn]
  exact List.splitOn_intercalate '.' h some

/-- Behind a dot at the end there is one more part, which is empty. -/
theorem splitAt_append_dot (s : List Char) : splitAt '.' (s ++ ['.']) = splitAt '.' s ++ [[]] := by
  rw [splitAt_eq_splitOn, splitAt_eq_splitOn, List.splitOn_append_cons_self]
  rfl

/-- Parts that are not empty, joined by dots, do not end in a dot. -/
theorem getLast?_dotted {parts : List (List Char)} (h : ∀ part ∈ parts, '.' ∉ part)
    (some : parts ≠ []) (nonempty : ∀ part ∈ parts, part ≠ []) :
    (dotted parts).getLast? ≠ .some '.' := by
  intro last
  obtain ⟨s, ends⟩ := List.getLast?_eq_some_iff.mp last
  have split := splitAt_dotted h some
  rw [ends, splitAt_append_dot] at split
  exact nonempty [] (split ▸ by simp) rfl

/-! ## 6. Dotted quads -/

theorem octetValue_append (part : List Char) (c : Char) :
    octetValue (part ++ [c]) = 10 * octetValue part + (c.toNat - 0x30) := by
  simp [octetValue, Nat.mul_comm]

theorem digitChar_of_isDigit {c : Char} (h : c.isDigit) : Nat.digitChar (c.toNat - 0x30) = c := by
  obtain ⟨low, high⟩ := isDigit_iff.mp h
  have each : ∀ n, n ≤ 9 → Nat.digitChar n = Char.ofNat (n + 0x30) := by decide
  rw [each _ (by omega), Nat.sub_add_cancel low, Char.ofNat_toNat]

/-- The number that digits write is written by them, if the first of them is
not zero. -/
theorem toDigits_octetValue {part : List Char} (nonempty : part ≠ []) (digits : Digits part)
    (first : part.head? ≠ some '0') :
    0 < octetValue part ∧ Nat.toDigits 10 (octetValue part) = part := by
  induction part using List.reverseRecOn with
  | nil => exact absurd rfl nonempty
  | append_singleton part c ih =>
    have last : c.isDigit := digits c (by simp)
    obtain ⟨low, high⟩ := isDigit_iff.mp last
    rw [octetValue_append]
    cases part with
    | nil =>
      have positive : c ≠ '0' := fun zero => first (by simp [zero])
      rw [ne_eq, eq_iff_toNat] at positive
      have digit : Nat.toDigits 10 (c.toNat - 0x30) = [c] := by
        rw [Nat.toDigits_of_lt_base (by omega), digitChar_of_isDigit last]
      refine ⟨?_, by simpa [octetValue] using digit⟩
      have : '0'.toNat = 48 := rfl
      omega
    | cons d rest =>
      obtain ⟨positive, written⟩ := ih (by simp)
        (fun x hx => digits x (List.mem_append_left _ hx)) (by simpa using first)
      refine ⟨by omega, ?_⟩
      rw [← Nat.toDigits_append_toDigits (by decide) positive (by omega), written,
        Nat.toDigits_of_lt_base (by omega), digitChar_of_isDigit last]

theorem isOctet_toDigits : ∀ n, n ≤ 255 → isOctet (Nat.toDigits 10 n) = true := by
  decide +kernel

theorem isAsciiDigit_eq (c : Char) : isAsciiDigit c = c.isDigit := by
  rw [Bool.eq_iff_iff, isDigit_iff]
  simp [isAsciiDigit]

theorem isOctet_iff {part : List Char} : isOctet part = true ↔ Octet part := by
  constructor
  · intro h
    simp only [isOctet, isAsciiDigit_eq, Bool.and_eq_true, Bool.not_eq_true',
      List.isEmpty_eq_false_iff, decide_eq_true_eq, List.all_eq_true, Bool.or_eq_true, beq_iff_eq,
      bne_iff_ne] at h
    obtain ⟨⟨⟨⟨nonempty, -⟩, digits⟩, zero | first⟩, small⟩ := h
    · exact ⟨0, by decide, zero⟩
    · exact ⟨_, small, (toDigits_octetValue nonempty digits first).2.symm⟩
  · rintro ⟨n, small, rfl⟩
    exact isOctet_toDigits n small

/-- An octet has one to three digits. -/
theorem Octet.digits {part : List Char} (h : Octet part) :
    part ≠ [] ∧ part.length ≤ 3 ∧ Digits part := by
  obtain ⟨n, small, rfl⟩ := h
  refine ⟨Nat.toDigits_ne_nil, ?_, fun c hc =>
    Nat.isDigit_of_mem_toDigits (by decide) (by decide) hc⟩
  rw [Nat.length_toDigits_le_iff (by decide) (by decide)]
  omega

/-- Digits have neither dots nor line feeds. -/
theorem Digits.not_mem {part : List Char} (h : Digits part) {c : Char}
    (other : c = '.' ∨ c = '\n') : c ∉ part := by
  intro hc
  have digit := h c hc
  rcases other with rfl | rfl <;> exact absurd digit (by decide)

/-- An ASCII text has the shape of an octet if it is one to three digits. -/
theorem hasOctetShape_iff {part : List Char} (ascii : ∀ c ∈ part, c.toNat < 0x80) :
    hasOctetShape part = true ↔ part ≠ [] ∧ part.length ≤ 3 ∧ Digits part := by
  simp only [hasOctetShape, Bool.and_eq_true, Bool.not_eq_true', List.isEmpty_eq_false_iff,
    decide_eq_true_eq, List.all_eq_true, Digits, and_assoc]
  refine and_congr_right fun _ => and_congr_right fun _ => forall₂_congr fun c hc => ?_
  rw [isDecimalDigit_of_ascii (ascii c hc)]

theorem hasOctetShape_of_digits {part : List Char}
    (h : part ≠ [] ∧ part.length ≤ 3 ∧ Digits part) : hasOctetShape part = true := by
  refine (hasOctetShape_iff fun c hc => ?_).mpr h
  have := isDigit_iff.mp (h.2.2 c hc)
  omega

theorem isQuad_iff {host : List Char} : isQuad host = true ↔ Quad host := by
  unfold isQuad
  constructor
  · intro h
    split at h
    · rename_i a b c d parts
      simp only [Bool.and_eq_true, isOctet_iff] at h
      refine ⟨a, b, c, d, by simpa [and_assoc] using h, ?_⟩
      rw [← parts, dotted_splitAt]
    · cases h
  · rintro ⟨a, b, c, d, octets, rfl⟩
    rw [splitAt_dotted (fun part hp => (octets part hp).digits.2.2.not_mem (Or.inl rfl)) (by simp)]
    simpa [isOctet_iff, and_assoc] using octets

/-- Four groups of digits have the shape of a quad, also with a line feed. -/
theorem hasQuadShape_dotted {a b c d : List Char} {feed : List Char}
    (h : ∀ part ∈ [a, b, c, d], part ≠ [] ∧ part.length ≤ 3 ∧ Digits part)
    (ends : feed = [] ∨ feed = ['\n']) : hasQuadShape (dotted [a, b, c, d ++ feed]) = true := by
  have shape := fun part hp => hasOctetShape_of_digits (h part hp)
  have plain : ∀ part ∈ [a, b, c, d], '.' ∉ part := fun part hp =>
    (h part hp).2.2.not_mem (Or.inl rfl)
  have last : dropFinalNewline (d ++ feed) = d := by
    rcases ends with rfl | rfl
    · rw [List.append_nil]
      exact dropFinalNewline_of_not_mem ((h d (by simp)).2.2.not_mem (Or.inr rfl))
    · exact dropFinalNewline_append d
  have parts : splitAt '.' (dotted [a, b, c, d ++ feed]) = [a, b, c, d ++ feed] := by
    refine splitAt_dotted (fun part hp => ?_) (by simp)
    simp only [List.mem_cons, List.not_mem_nil, or_false] at hp plain
    rcases hp with rfl | rfl | rfl | rfl
    · exact plain _ (by simp)
    · exact plain _ (by simp)
    · exact plain _ (by simp)
    · rcases ends with rfl | rfl <;> simpa using plain d (by simp)
  unfold hasQuadShape
  rw [parts]
  simp [last, shape]

theorem Quad.hasQuadShape {host : List Char} (h : Quad host) : hasQuadShape host = true := by
  obtain ⟨a, b, c, d, octets, rfl⟩ := h
  rw [← List.append_nil d]
  exact hasQuadShape_dotted (fun part hp => (octets part hp).digits) (Or.inl rfl)

theorem QuadLine.hasQuadShape {host : List Char} (h : QuadLine host) :
    hasQuadShape host = true := by
  obtain ⟨a, b, c, d, digits, rfl⟩ := h
  exact hasQuadShape_dotted digits (Or.inr rfl)

/-! ## 7. Names -/

/-- The parts of a text that passes for a name. -/
theorem splitAt_loose {parts : List (List Char)} (lines : ∀ part ∈ parts, Line part)
    (some : parts ≠ []) (dots : Nat) :
    dropEndWhile (· == '.') (dotted parts ++ List.replicate dots '.') = dotted parts ∧
      splitAt '.' (dotted parts) = parts := by
  have plain : ∀ part ∈ parts, '.' ∉ part := fun part hp => (lines part hp).not_mem_dot
  refine ⟨dropEndWhile_append_replicate ?_ dots, splitAt_dotted plain some⟩
  exact getLast?_dotted plain some fun part hp => (lines part hp).ne_nil

theorem isName_iff {host : List Char} : isName host = true ↔ LooseName host := by
  have judged {parts : List (List Char)} (lines : ∀ part ∈ parts, Line part) :
      (parts.all isNumeric = true) ↔ ∀ part ∈ parts, Digits part := by
    rw [List.all_eq_true]
    exact forall₂_congr fun part hp => (lines part hp).isNumeric_iff
  unfold isName
  simp only [Bool.and_eq_true, decide_eq_true_eq, Bool.not_eq_true',
    List.all_eq_true (p := isLabel), isLabel_iff]
  constructor
  · rintro ⟨⟨two, names⟩, lines⟩
    obtain ⟨dots, split⟩ := exists_eq_dropEndWhile_append '.' host
    refine ⟨_, dots, two, ?_, lines, fun digits => ?_⟩
    · rw [dotted_splitAt]
      exact split
    · rw [(judged lines).mpr digits] at names
      cases names
  · rintro ⟨parts, dots, two, rfl, lines, names⟩
    obtain ⟨dropped, split⟩ := splitAt_loose lines (by rintro rfl; simp at two) dots
    rw [dropped, split]
    refine ⟨⟨two, ?_⟩, lines⟩
    rw [Bool.eq_false_iff, ne_eq, judged lines]
    exact names

/-- Of what passes for a name, only four groups of digits and a line feed
have the shape of a quad. -/
theorem LooseName.quadLine {host : List Char} (h : LooseName host)
    (shape : hasQuadShape host = true) : QuadLine host := by
  obtain ⟨parts, dots, two, rfl, lines, names⟩ := h
  obtain ⟨-, split⟩ := splitAt_loose lines (by rintro rfl; simp at two) dots
  unfold hasQuadShape at shape
  split at shape
  · rename_i a b c d found
    simp only [Bool.and_eq_true] at shape
    obtain ⟨⟨⟨ha, hb⟩, hc⟩, hd⟩ := shape
    cases dots with
    | succ dots =>
      -- The part behind a dot at the end is empty, and no octet is.
      rw [List.replicate_succ', ← List.append_assoc, splitAt_append_dot] at found
      have last := congrArg List.getLast? found
      rw [List.getLast?_concat] at last
      obtain rfl : [] = d := by simpa using last
      cases hd
    | zero =>
      rw [List.replicate_zero, List.append_nil, split] at found
      subst found
      have digits (part : List Char) (hp : part ∈ [a, b, c, d])
          (octet : hasOctetShape part = true) := (hasOctetShape_iff (lines part hp).ascii).mp octet
      have label := line_iff.mp (lines d (by simp))
      have last := (hasOctetShape_iff fun x hx => label.ascii hx).mp hd
      have all : ∀ part ∈ [a, b, c, dropFinalNewline d],
          part ≠ [] ∧ part.length ≤ 3 ∧ Digits part := by
        simp only [List.mem_cons, List.not_mem_nil, or_false, forall_eq_or_imp, forall_eq]
        exact ⟨digits a (by simp) ha, digits b (by simp) hb, digits c (by simp) hc, last⟩
      rcases eq_dropFinalNewline_or d with same | same
      · rw [← same] at all
        exact absurd (fun part hp => (all part hp).2.2) names
      · refine ⟨a, b, c, dropFinalNewline d, all, ?_⟩
        rw [← same, List.replicate_zero, List.append_nil]
  · cases shape

/-! ## 8. Hosts -/

/-- What is accepted: a quad, or what passes for a name and is not a quad with
a line feed. -/
theorem isValid_iff {host : List Char} : isValid host = true ↔
    host.length ≤ 253 ∧ (Quad host ∨ LooseName host ∧ ¬ QuadLine host) := by
  have nonempty (h : hasQuadShape host = true ∨ isName host = true) : host ≠ [] := by
    rintro rfl
    rcases h with h | h <;> exact absurd h (by decide)
  simp only [isValid, Bool.and_eq_true, Bool.not_eq_true', List.isEmpty_eq_false_iff,
    decide_eq_true_eq, and_assoc]
  constructor
  · rintro ⟨-, short, accepted⟩
    refine ⟨short, ?_⟩
    split at accepted
    · exact Or.inl (isQuad_iff.mp accepted)
    · rename_i shape
      exact Or.inr ⟨isName_iff.mp accepted, fun line => shape line.hasQuadShape⟩
  · rintro ⟨short, quad | ⟨name, other⟩⟩
    · refine ⟨nonempty (Or.inl quad.hasQuadShape), short, ?_⟩
      rw [if_pos quad.hasQuadShape]
      exact isQuad_iff.mpr quad
    · refine ⟨nonempty (Or.inr (isName_iff.mpr name)), short, ?_⟩
      rw [if_neg fun shape => other (name.quadLine shape)]
      exact isName_iff.mpr name

/-! ## 9. Characters of hosts -/

theorem mem_dotted {c : Char} {parts : List (List Char)} :
    c ∈ dotted parts ↔ (2 ≤ parts.length ∧ c = '.') ∨ ∃ part ∈ parts, c ∈ part := by
  induction parts with
  | nil => simp [dotted]
  | cons part rest ih =>
    cases rest with
    | nil => simp [dotted]
    | cons next more =>
      rw [dotted] at ih ⊢
      rw [List.intercalate_cons_cons, List.mem_append, List.mem_append, ih, List.mem_singleton]
      simp only [List.length_cons, List.mem_cons, exists_eq_or_imp]
      have two : 2 ≤ more.length + 1 + 1 := by omega
      simp only [two, true_and]
      tauto

/-- The signs of labels mean nothing to a shell, nor does a dot. -/
theorem isHarmless_of_sign {c : Char} (h : (c.isAlphanum ∨ c = '_' ∨ c = '-') ∨ c = '.') :
    Shell.isHarmless c = true := by
  rcases h with (letter | rfl | rfl) | rfl
  · rcases isAlphanum_iff.mp letter with range | range | range <;> simp [Shell.isHarmless, range]
  · decide
  · decide
  · decide

theorem Digits.sign {part : List Char} (h : Digits part) {c : Char} (hc : c ∈ part) :
    c.isAlphanum ∨ c = '_' ∨ c = '-' := by
  left
  rw [Char.isAlphanum, h c hc, Bool.or_true]

theorem Line.sign {part : List Char} (h : Line part) {c : Char} (hc : c ∈ part) :
    (c.isAlphanum ∨ c = '_' ∨ c = '-') ∨ c = '\n' := by
  obtain ⟨label, valid, rfl | rfl⟩ := h
  · exact Or.inl (valid.signs c hc)
  · rcases List.mem_append.mp hc with hc | hc
    · exact Or.inl (valid.signs c hc)
    · exact Or.inr (List.mem_singleton.mp hc)

theorem Quad.harmless {host : List Char} (h : Quad host) {c : Char} (hc : c ∈ host) :
    Shell.isHarmless c = true := by
  obtain ⟨a, b, x, d, octets, rfl⟩ := h
  rcases mem_dotted.mp hc with ⟨-, dot⟩ | ⟨part, hp, inside⟩
  · exact isHarmless_of_sign (Or.inr dot)
  · exact isHarmless_of_sign (Or.inl ((octets part hp).digits.2.2.sign inside))

theorem LooseName.harmless {host : List Char} (h : LooseName host) {c : Char} (hc : c ∈ host) :
    Shell.isHarmless c = true ∨ c = '\n' := by
  obtain ⟨parts, dots, -, rfl, lines, -⟩ := h
  rcases List.mem_append.mp hc with hc | hc
  · rcases mem_dotted.mp hc with ⟨-, dot⟩ | ⟨part, hp, inside⟩
    · exact Or.inl (isHarmless_of_sign (Or.inr dot))
    · exact ((lines part hp).sign inside).imp_left fun sign => isHarmless_of_sign (Or.inl sign)
  · exact Or.inl (isHarmless_of_sign (Or.inr (List.eq_of_mem_replicate hc)))

theorem QuadLine.mem {host : List Char} (h : QuadLine host) : '\n' ∈ host := by
  obtain ⟨a, b, c, d, -, rfl⟩ := h
  exact mem_dotted.mpr (Or.inr ⟨d ++ ['\n'], by simp, by simp⟩)

/-! ## 10. Texts without line feed -/

theorem Line.label {part : List Char} (h : Line part) (plain : '\n' ∉ part) : Label part := by
  obtain ⟨label, valid, rfl | rfl⟩ := h
  · exact valid
  · exact absurd (by simp) plain

/-- Without line feeds and without two dots at the end, what passes for a name
is one. -/
theorem looseName_iff_name {host : List Char} (plain : '\n' ∉ host)
    (single : ¬ ['.', '.'] <:+ host) : LooseName host ↔ Name host := by
  constructor
  · rintro ⟨parts, dots, two, rfl, lines, names⟩
    have labels : ∀ part ∈ parts, Label part := fun part hp =>
      (lines part hp).label fun feed =>
        plain (List.mem_append_left _ (mem_dotted.mpr (Or.inr ⟨part, hp, feed⟩)))
    refine ⟨parts, two, ?_, labels, names⟩
    match dots with
    | 0 => exact Or.inl (List.append_nil _)
    | 1 => exact Or.inr rfl
    | dots + 2 =>
      refine absurd ⟨dotted parts ++ List.replicate dots '.', ?_⟩ single
      rw [List.append_assoc, ← List.replicate_append_replicate]
      rfl
  · rintro ⟨labels, two, shape, valid, names⟩
    have lines : ∀ label ∈ labels, Line label := fun label hl => ⟨label, valid label hl, Or.inl rfl⟩
    rcases shape with rfl | rfl
    · exact ⟨labels, 0, two, (List.append_nil _).symm, lines, names⟩
    · exact ⟨labels, 1, two, rfl, lines, names⟩

/-- Parts joined by dots end in at most as many dots as stand behind them. -/
theorem not_dots_suffix {parts : List (List Char)} (plain : ∀ part ∈ parts, '.' ∉ part)
    (some : parts ≠ []) (nonempty : ∀ part ∈ parts, part ≠ []) {host : List Char}
    (shape : host = dotted parts ∨ host = dotted parts ++ ['.']) : ¬ ['.', '.'] <:+ host := by
  have last := getLast?_dotted plain some nonempty
  rintro ⟨before, ends⟩
  rcases shape with rfl | rfl
  · exact last (by rw [← ends]; simp)
  · rw [show ['.', '.'] = ['.'] ++ ['.'] from rfl, ← List.append_assoc] at ends
    exact last (by rw [← List.append_cancel_right ends]; simp)

theorem Quad.plain {host : List Char} (h : Quad host) :
    '\n' ∉ host ∧ ¬ ['.', '.'] <:+ host := by
  refine ⟨fun feed => absurd (h.harmless feed) (by decide), ?_⟩
  obtain ⟨a, b, c, d, octets, rfl⟩ := h
  exact not_dots_suffix (fun part hp => (octets part hp).digits.2.2.not_mem (Or.inl rfl)) (by simp)
    (fun part hp => (octets part hp).digits.1) (Or.inl rfl)

theorem Name.plain {host : List Char} (h : Name host) :
    '\n' ∉ host ∧ ¬ ['.', '.'] <:+ host := by
  obtain ⟨labels, two, shape, valid, -⟩ := h
  constructor
  · intro feed
    have inside : '\n' ∈ dotted labels := by
      rcases shape with rfl | rfl
      · exact feed
      · simpa using feed
    rcases mem_dotted.mp inside with ⟨-, dot⟩ | ⟨label, hl, hc⟩
    · exact absurd dot (by decide)
    · exact (valid label hl).not_mem (Or.inr rfl) hc
  · exact not_dots_suffix (fun label hl => (valid label hl).not_mem (Or.inl rfl))
      (by rintro rfl; simp at two) (fun label hl => (valid label hl).nonempty) shape

/-- The quads and the names are what is accepted and has neither a line feed
nor two dots at the end. -/
theorem address_iff {host : List Char} : host.length ≤ 253 ∧ (Quad host ∨ Name host) ↔
    isValid host = true ∧ '\n' ∉ host ∧ ¬ ['.', '.'] <:+ host := by
  have reduced (plain : '\n' ∉ host) (single : ¬ ['.', '.'] <:+ host) :
      isValid host = true ↔ host.length ≤ 253 ∧ (Quad host ∨ Name host) := by
    have other : ¬ QuadLine host := fun line => plain line.mem
    rw [isValid_iff, looseName_iff_name plain single]
    simp only [other, not_false_eq_true, and_true]
  constructor
  · rintro ⟨short, grammar⟩
    have plain := grammar.elim Quad.plain Name.plain
    exact ⟨(reduced plain.1 plain.2).mpr ⟨short, grammar⟩, plain⟩
  · rintro ⟨accepted, plain, single⟩
    exact (reduced plain single).mp accepted

/-! ## 11. Checking a host -/

/-- What is checked is given back as it is, and refused only if it is empty or
no address. -/
theorem checkHost_eq (host : String) :
    checkHost host =
      if isValidHost host then .ok host
      else if host = "" then .error (.misconfigured .noHost)
      else .error (.misconfigured (.invalidHost (.text host))) := by
  unfold checkHost
  by_cases empty : host = ""
  · subst empty
    rfl
  · have given : host.isEmpty = false := by simpa using empty
    simp only [given, empty, Bool.false_eq_true, if_false]

/-- Which texts are accepted as addresses of hosts: the dotted quads, and what
passes for a name and is not a quad with a line feed. The quads and the names
are what is accepted and has neither a line feed nor two dots at the end. No
text that is accepted has a character that means something to a shell, a line
feed apart. A host that is checked is given back as it is if it is accepted,
and is a misconfiguration otherwise. -/
theorem isValidHost_iff (host : String) :
    (isValidHost host = true ↔ host.toList.length ≤ 253 ∧
      (Quad host.toList ∨ LooseName host.toList ∧ ¬ QuadLine host.toList)) ∧
    (host.toList.length ≤ 253 ∧ (Quad host.toList ∨ Name host.toList) ↔
      isValidHost host = true ∧ '\n' ∉ host.toList ∧ ¬ ['.', '.'] <:+ host.toList) ∧
    (isValidHost host = true → ∀ c ∈ host.toList, Shell.isHarmless c = true ∨ c = '\n') ∧
    (∀ given, checkHost host = .ok given ↔ isValidHost host = true ∧ given = host) ∧
    (isValidHost host = false → checkHost host =
      .error (.misconfigured (if host = "" then .noHost else .invalidHost (.text host)))) := by
  refine ⟨isValid_iff, address_iff, ?_, ?_, ?_⟩
  · intro accepted c hc
    rcases (isValid_iff.mp accepted).2 with quad | ⟨name, -⟩
    · exact Or.inl (quad.harmless hc)
    · exact name.harmless hc
  · intro given
    rw [checkHost_eq]
    cases isValidHost host with
    | true => simp [eq_comm]
    | false => by_cases empty : host = "" <;> simp [empty]
  · intro refused
    rw [checkHost_eq, refused]
    by_cases empty : host = "" <;> simp [empty]

/-- A name of two labels is accepted; with a blank in it, it is not. -/
theorem isValidHost_iff_two_labels :
    isValidHost "example.com" = true ∧ isValidHost "example com" = false ∧
      (Quad "example.com".toList ∨ Name "example.com".toList) ∧
      (∀ c ∈ "example.com".toList, Shell.isHarmless c = true ∨ c = '\n') ∧
      checkHost "example.com" = .ok "example.com" ∧
      checkHost "example com" = .error (.misconfigured (.invalidHost (.text "example com"))) := by
  have accepted : isValidHost "example.com" = true := by decide
  have refused : isValidHost "example com" = false := by decide
  obtain ⟨-, address, harmless, checked, -⟩ := isValidHost_iff "example.com"
  obtain ⟨-, -, -, -, told⟩ := isValidHost_iff "example com"
  exact ⟨accepted, refused, (address.mpr ⟨accepted, by decide, by decide⟩).2, harmless accepted,
    (checked _).mpr ⟨accepted, rfl⟩, told refused⟩

/-- A name with a line feed behind it and a name with two dots behind it are
accepted, and neither is an address. -/
theorem isValidHost_line_feed :
    (isValidHost "example.com\n" = true ∧
      ¬ (Quad "example.com\n".toList ∨ Name "example.com\n".toList)) ∧
    isValidHost "example.com.." = true ∧
      ¬ (Quad "example.com..".toList ∨ Name "example.com..".toList) := by
  refine ⟨⟨by decide, fun grammar => ?_⟩, by decide, fun grammar => ?_⟩
  · exact absurd (grammar.elim Quad.plain Name.plain).1 (by decide)
  · exact absurd (grammar.elim Quad.plain Name.plain).2 (by decide)

end Upkeep.Address
