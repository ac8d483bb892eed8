/-
Upkeep.Proofs.Painting — colours change nothing but the colour.

`Colour.strip` takes every colour sequence out of a text. `Painted s t` says
that `s` is `t` with sequences put in between, where `t` itself has no escape
character, so that stripping `s` gives back `t` (`Painted.strip`).

## How the proof goes

A rule `Paints` if it puts a painted copy in the place of what it takes, and
takes no escape character. Such a rule may be applied to a text that is
already painted, provided that it `Spares` the sequences in it, that is,
answers for nothing that begins inside of one (`Painted.substitute`). The rule
for targets does not: the digits of a sequence and its `m` could be the
beginning of a user name. So it has to come first, when there is no sequence
yet; the rules for exit statuses and for readinesses spare them.

Main statement: `strip_render` — a line with colours, stripped of them, is the
line without colours, and a message is left uncoloured only if nothing in it
stands out.
-/
import Upkeep.Log.Line

namespace Upkeep.Log

open Upkeep.Text

/-! ## 1. Taking colours away -/

namespace Colour

/-- What follows the sequence that a text starts with: the escape character, a
bracket, digits and an `m`. -/
def afterSequence? : List Char → Option (List Char)
  | e :: b :: rest =>
    if e = escape ∧ b = '[' ∧ rest.takeWhile isAsciiDigit ≠ [] then
      match rest.dropWhile isAsciiDigit with
      | 'm' :: after => some after
      | _ => none
    else none
  | _ => none

/-- Nothing stands for a sequence. -/
def bare : Rule := fun s => (afterSequence? s).map fun rest => (s.length - rest.length, [])

/-- The text without colour sequences. -/
def strip (s : List Char) : List Char := substitute bare s

example : strip "\x1b[95mdeploy\x1b[0m and \x1b[m".toList = "deploy and \x1b[m".toList := by decide

/-- The digits of a sequence are digits. -/
theorem isAsciiDigit_of_mem_toDigits {n : Nat} {c : Char} (h : c ∈ Nat.toDigits 10 n) :
    isAsciiDigit c = true := by
  have digit := Char.isDigit_iff_toNat.mp (Nat.isDigit_of_mem_toDigits (by decide) (by decide) h)
  simpa [isAsciiDigit] using digit

theorem afterSequence?_sequence (n : Nat) (s : List Char) :
    afterSequence? (sequence n ++ s) = some s := by
  have digits : ∀ c ∈ Nat.toDigits 10 n, isAsciiDigit c = true :=
    fun c hc => isAsciiDigit_of_mem_toDigits hc
  have run : (Nat.toDigits 10 n ++ 'm' :: s).takeWhile isAsciiDigit = Nat.toDigits 10 n := by
    rw [List.takeWhile_append_of_pos digits, List.takeWhile_cons_of_neg (by decide),
      List.append_nil]
  have rest : (Nat.toDigits 10 n ++ 'm' :: s).dropWhile isAsciiDigit = 'm' :: s := by
    rw [List.dropWhile_append_of_pos digits, List.dropWhile_cons_of_neg (by decide)]
  have form : sequence n ++ s = escape :: '[' :: (Nat.toDigits 10 n ++ 'm' :: s) := by
    simp [sequence]
  rw [form, afterSequence?, run, rest, if_pos ⟨rfl, rfl, Nat.toDigits_ne_nil⟩]
  rfl

theorem bare_sequence (n : Nat) (s : List Char) :
    bare (sequence n ++ s) = some ((sequence n).length, []) := by
  rw [bare, afterSequence?_sequence]
  simp

theorem bare_cons_of_ne {c : Char} (h : c ≠ escape) (s : List Char) : bare (c :: s) = none := by
  unfold bare afterSequence?
  cases s with
  | nil => rfl
  | cons b rest => simp [h]

end Colour

/-! ## 2. Painted texts -/

open Colour (escape strip isAsciiDigit_of_mem_toDigits)

/-- The first text is the second with sequences put in, and the second has no
escape character. -/
inductive Painted : List Char → List Char → Prop
  | nil : Painted [] []
  | char {c : Char} {s t : List Char} : c ≠ escape → Painted s t → Painted (c :: s) (c :: t)
  | coloured (n : Nat) {s t : List Char} : Painted s t → Painted (Colour.sequence n ++ s) t

theorem Painted.strip {s t : List Char} (h : Painted s t) : strip s = t := by
  induction h with
  | nil => rfl
  | char plain _ ih =>
    rw [Colour.strip, substitute_cons_of_none (Colour.bare_cons_of_ne plain _)]
    exact congrArg _ ih
  | @coloured n s t _ ih =>
    have answer := Colour.bare_sequence n s
    have form : Colour.sequence n = escape :: (Colour.sequence n).tail := rfl
    rw [form, List.cons_append] at answer ⊢
    rw [Colour.strip, substitute_cons_of_some answer, List.nil_append, List.length_cons,
      Nat.add_sub_cancel, List.drop_left]
    exact ih

theorem painted_self {s : List Char} (h : escape ∉ s) : Painted s s := by
  induction s with
  | nil => exact .nil
  | cons c s ih =>
    rw [List.mem_cons, not_or] at h
    exact .char (Ne.symm h.1) (ih h.2)

theorem Painted.append {s t s' t' : List Char} (h : Painted s t) (h' : Painted s' t') :
    Painted (s ++ s') (t ++ t') := by
  induction h with
  | nil => exact h'
  | char plain _ ih => exact .char plain ih
  | coloured n _ ih =>
    rw [List.append_assoc]
    exact .coloured n ih

theorem Painted.code (c : Colour) {s t : List Char} (h : Painted s t) :
    Painted (c.code ++ s) t := by
  induction c with
  | nil => exact h
  | cons n c ih =>
    rw [Colour.code, List.flatMap_cons, List.append_assoc]
    exact .coloured n ih

/-- Text in a colour. -/
theorem painted_paint (c : Colour) {text : List Char} (h : escape ∉ text) :
    Painted (c.paint text) text := by
  have closed := (painted_self h).append (Painted.code Colour.reset .nil)
  rw [List.append_nil, List.append_nil] at closed
  rw [Colour.paint, List.append_assoc]
  exact closed.code c

theorem Painted.plain {s t : List Char} (h : Painted s t) : escape ∉ t := by
  induction h with
  | nil => exact List.not_mem_nil
  | char plain _ ih => simp [ih, Ne.symm plain]
  | coloured _ _ ih => exact ih

/-- What comes before the first sequence is as it was. -/
theorem Painted.drop {s t : List Char} (h : Painted s t) {n : Nat} (plain : escape ∉ s.take n) :
    ∃ t', t = s.take n ++ t' ∧ Painted (s.drop n) t' := by
  induction h generalizing n with
  | nil => exact ⟨[], by simp, by simpa using .nil⟩
  | @char c s t other h ih =>
    cases n with
    | zero => exact ⟨c :: t, rfl, .char other h⟩
    | succ n =>
      rw [List.take_succ_cons, List.mem_cons, not_or] at plain
      obtain ⟨t', rfl, rest⟩ := ih plain.2
      exact ⟨t', rfl, rest⟩
  | @coloured k s t h ih =>
    cases n with
    | zero => exact ⟨t, rfl, .coloured k h⟩
    | succ n => exact absurd (List.mem_cons_self ..) plain

/-! ## 3. Rules -/

/-- The rule puts a painted copy in the place of what it takes. -/
def Paints (rule : Rule) : Prop :=
  ∀ s n replacement, rule s = some (n, replacement) →
    0 < n ∧ escape ∉ s.take n ∧ Painted replacement (s.take n)

/-- The rule answers for nothing that begins inside a sequence. -/
def Spares (rule : Rule) : Prop := ∀ n, ∀ c ∈ Colour.sequence n, ∀ s, rule (c :: s) = none

theorem substitute_append_of_none {rule : Rule} {u : List Char} (s : List Char)
    (h : ∀ c ∈ u, ∀ t, rule (c :: t) = none) :
    substitute rule (u ++ s) = u ++ substitute rule s := by
  induction u with
  | nil => rfl
  | cons c u ih =>
    obtain ⟨first, more⟩ := List.forall_mem_cons.mp h
    rw [List.cons_append, substitute_cons_of_none (first _), ih more, List.cons_append]

/-- A rule that paints may go over what is painted already, if it spares the
sequences. -/
theorem Painted.substitute {rule : Rule} (paints : Paints rule) {s t : List Char}
    (h : Painted s t) (spares : escape ∈ s → Spares rule) : Painted (substitute rule s) t := by
  induction counted : s.length using Nat.strongRecOn generalizing s t with
  | _ length ih =>
    cases h with
    | nil => exact .nil
    | @char c s t plain h =>
      cases answer : rule (c :: s) with
      | none =>
        rw [substitute_cons_of_none answer]
        exact .char plain (ih s.length (by simp [← counted]) h
          (fun mem => spares (List.mem_cons_of_mem _ mem)) rfl)
      | some a =>
        obtain ⟨n, replacement⟩ := a
        obtain ⟨positive, taken, copy⟩ := paints _ _ _ answer
        obtain ⟨t', same, rest⟩ := (Painted.char plain h).drop taken
        obtain ⟨n, rfl⟩ := Nat.exists_eq_succ_of_ne_zero (Nat.pos_iff_ne_zero.mp positive)
        rw [substitute_cons_of_some answer, same]
        have shorter : (s.drop n).length < length := by
          rw [← counted, List.length_drop, List.length_cons]
          omega
        exact copy.append (ih _ shorter rest
          (fun mem => spares (List.mem_cons_of_mem _ (List.mem_of_mem_drop mem))) rfl)
    | @coloured n s t h =>
      have spared : Spares rule := spares (by simp [Colour.sequence])
      have shorter : s.length < length := by
        rw [← counted, List.length_append]
        exact Nat.lt_add_of_pos_left (Nat.succ_pos _)
      rw [substitute_append_of_none s (spared n)]
      exact .coloured n (ih _ shorter h (fun _ => spared) rfl)

/-! ## 4. What stands out -/

namespace Highlight

/-- What is left of the text follows some characters, none of which is the
escape character. -/
def Follows (s rest : List Char) : Prop := ∃ taken, s = taken ++ rest ∧ taken ≠ [] ∧ escape ∉ taken

theorem Follows.trans {s s' rest : List Char} (h : Follows s s') (h' : Follows s' rest) :
    Follows s rest := by
  obtain ⟨taken, rfl, nonempty, plain⟩ := h
  obtain ⟨taken', rfl, -, plain'⟩ := h'
  exact ⟨taken ++ taken', by simp, by simp [nonempty], by simp [plain, plain']⟩

theorem run?_eq_some {p : Char → Bool} {s found rest : List Char}
    (h : run? p s = some (found, rest)) :
    s = found ++ rest ∧ found ≠ [] ∧ ∀ c ∈ found, p c = true := by
  unfold run? at h
  split at h
  · cases h
  · rename_i nonempty
    obtain ⟨rfl, rfl⟩ := Prod.mk.inj (Option.some.inj h)
    exact ⟨List.takeWhile_append_dropWhile.symm, nonempty,
      fun c hc => List.all_eq_true.mp List.all_takeWhile c hc⟩

theorem after?_eq_some {start s rest : List Char} (h : after? start s = some rest) :
    s = start ++ rest := by
  unfold after? at h
  split at h
  · rename_i begins
    obtain ⟨more, rfl⟩ := List.isPrefixOf_iff_prefix.mp begins
    rw [← Option.some.inj h, List.drop_left]
  · cases h

theorem after?_cons_of_ne {c d : Char} (h : c ≠ d) (start s : List Char) :
    after? (d :: start) (c :: s) = none := by
  simp [after?, List.isPrefixOf, Ne.symm h]

theorem follows_of_run? {p : Char → Bool} {s found rest : List Char}
    (h : run? p s = some (found, rest)) (other : p escape = false) : Follows s rest := by
  obtain ⟨same, nonempty, all⟩ := run?_eq_some h
  refine ⟨found, same, nonempty, fun mem => ?_⟩
  rw [all _ mem] at other
  cases other

theorem follows_of_after? {start s rest : List Char} (h : after? start s = some rest)
    (nonempty : start ≠ []) (plain : escape ∉ start) : Follows s rest :=
  ⟨start, after?_eq_some h, nonempty, plain⟩

theorem follows_target {s rest : List Char} (h : afterTarget? s = some rest) : Follows s rest := by
  obtain ⟨⟨_, s₁⟩, user, h⟩ := Option.bind_eq_some_iff.mp h
  obtain ⟨s₂, sign, h⟩ := Option.bind_eq_some_iff.mp h
  obtain ⟨⟨_, s₃⟩, host, h⟩ := Option.bind_eq_some_iff.mp h
  obtain ⟨s₄, colon, h⟩ := Option.bind_eq_some_iff.mp h
  obtain ⟨⟨_, s₅⟩, port, h⟩ := Option.bind_eq_some_iff.mp h
  obtain rfl := Option.some.inj h
  exact (follows_of_run? user (by decide)).trans <|
    (follows_of_after? sign (by decide) (by decide)).trans <|
    (follows_of_run? host (by decide)).trans <|
    (follows_of_after? colon (by decide) (by decide)).trans <|
    follows_of_run? port (by decide)

theorem follows_afterMinus {s rest : List Char} (h : Follows (afterMinus s) rest) :
    Follows s rest := by
  unfold afterMinus at h
  split at h
  · exact Follows.trans ⟨['-'], rfl, by decide, by decide⟩ h
  · exact h

theorem follows_exit {s rest : List Char} (h : afterExit? s = some rest) : Follows s rest := by
  obtain ⟨s₁, word, h⟩ := Option.bind_eq_some_iff.mp h
  have number {s₂ : List Char} (h : (run? isDecimalDigit (afterMinus s₂)).bind
      (fun found => some found.2) = some rest) : Follows s₂ rest := by
    obtain ⟨⟨_, s₃⟩, status, h⟩ := Option.bind_eq_some_iff.mp h
    obtain rfl := Option.some.inj h
    exact follows_afterMinus (follows_of_run? status (by decide))
  refine (follows_of_after? word (by decide) (by decide)).trans ?_
  dsimp only at h
  split at h
  case h_1 s₂ equals =>
    exact (follows_of_after? equals (by decide) (by decide)).trans (number h)
  case h_2 =>
    obtain ⟨s₂, preposition, h⟩ := Option.bind_eq_some_iff.mp h
    exact (follows_of_after? preposition (by decide) (by decide)).trans (number h)

/-- A rule that paints what it takes in one colour. -/
theorem paints_upTo (colour : Colour) {next? : List Char → Option (List Char)}
    (h : ∀ s rest, next? s = some rest → Follows s rest) :
    Paints fun s => (next? s).map (paintUpTo colour s) := by
  intro s n replacement answer
  obtain ⟨rest, found, same⟩ := Option.map_eq_some_iff.mp answer
  obtain ⟨taken, rfl, nonempty, plain⟩ := h s rest found
  have length : (taken ++ rest).length - rest.length = taken.length := by simp
  obtain ⟨rfl, rfl⟩ := Prod.mk.inj same
  rw [length, List.take_left]
  exact ⟨List.length_pos_iff.mpr nonempty, plain, painted_paint colour plain⟩

theorem paints_target : Paints target := paints_upTo _ fun _ _ => follows_target

theorem paints_exitStatus : Paints exitStatus := paints_upTo _ fun _ _ => follows_exit

theorem paints_readiness : Paints readiness := by
  intro s n replacement answer
  obtain ⟨rest, marked, answer⟩ := Option.bind_eq_some_iff.mp answer
  obtain ⟨⟨word, after⟩, run, answer⟩ := Option.bind_eq_some_iff.mp answer
  obtain ⟨rfl, rfl⟩ := Prod.mk.inj (Option.some.inj answer)
  obtain ⟨rfl, nonempty, letters⟩ := run?_eq_some run
  obtain rfl := after?_eq_some marked
  have plain : escape ∉ word := fun mem => absurd (letters _ mem) (by decide)
  have mark : escape ∉ readinessMark := by decide
  have taken : (readinessMark ++ (word ++ after)).take (readinessMark.length + word.length) =
      readinessMark ++ word := by
    rw [← List.append_assoc, ← List.length_append, List.take_left]
  rw [taken]
  refine ⟨Nat.add_pos_left (by decide) _, by simp [mark, plain], ?_⟩
  exact (painted_self mark).append (painted_paint _ plain)

/-- A character that makes no part of a sequence. -/
theorem ne_of_mem_sequence {n : Nat} {c d : Char} (h : c ∈ Colour.sequence n)
    (other : isAsciiDigit d = false ∧ d ∉ [escape, '[', 'm']) : c ≠ d := by
  rintro rfl
  obtain ⟨digit, others⟩ := other
  simp only [Colour.sequence, List.cons_append, List.mem_cons, List.mem_append, List.not_mem_nil,
    or_false, not_or] at h others
  rcases h with h | h | h | h
  · exact others.1 h
  · exact others.2.1 h
  · rw [isAsciiDigit_of_mem_toDigits h] at digit
    cases digit
  · exact others.2.2 h

theorem spares_exitStatus : Spares exitStatus := by
  intro n c hc s
  have other := after?_cons_of_ne (ne_of_mem_sequence hc (d := 'e') (by decide)) ['x', 'i', 't'] s
  unfold exitStatus afterExit?
  rw [other]
  rfl

theorem spares_readiness : Spares readiness := by
  intro n c hc s
  have other := after?_cons_of_ne (ne_of_mem_sequence hc (d := 'r') (by decide))
    readinessMark.tail s
  unfold readiness
  rw [show readinessMark = 'r' :: readinessMark.tail from rfl, other]
  rfl

/-- A message without escape character is painted. -/
theorem painted_message {s : List Char} (h : escape ∉ s) : Painted (message s) s :=
  (((painted_self h).substitute paints_target fun mem => absurd mem h).substitute
    paints_exitStatus fun _ => spares_exitStatus).substitute
    paints_readiness fun _ => spares_readiness

/-- The rule answers for nothing in the text. -/
def Silent (rule : Rule) (s : List Char) : Prop := ∀ c t, (c :: t) <:+ s → rule (c :: t) = none

theorem substitute_of_silent {rule : Rule} {s : List Char} (h : Silent rule s) :
    substitute rule s = s := by
  induction s with
  | nil => rfl
  | cons c s ih =>
    rw [substitute_cons_of_none (h c s (List.suffix_refl _)),
      ih fun d t ht => h d t (ht.trans (List.suffix_cons ..))]

/-- The rule leaves an escape character in what it puts. -/
def Marks (rule : Rule) : Prop := ∀ s n replacement, rule s = some (n, replacement) →
  escape ∈ replacement

/-- A rule that has left no mark has not answered. -/
theorem silent_of_not_mem {rule : Rule} (marks : Marks rule) {s : List Char}
    (h : escape ∉ substitute rule s) : Silent rule s := by
  induction s with
  | nil => exact fun c t ht => absurd (List.suffix_nil.mp ht) (List.cons_ne_nil _ _)
  | cons c s ih =>
    cases answer : rule (c :: s) with
    | some a =>
      rw [substitute_cons_of_some answer, List.mem_append, not_or] at h
      exact absurd (marks _ _ _ answer) h.1
    | none =>
      rw [substitute_cons_of_none answer, List.mem_cons, not_or] at h
      intro d t ht
      rcases List.suffix_cons_iff.mp ht with same | inner
      · rw [same]
        exact answer
      · exact ih h.2 d t inner

theorem mem_paint (colour : Colour) (text : List Char) : escape ∈ colour.paint text := by
  simp [Colour.paint, Colour.code, Colour.reset, Colour.sequence]

theorem marks_upTo (colour : Colour) (next? : List Char → Option (List Char)) :
    Marks fun s => (next? s).map (paintUpTo colour s) := by
  intro s n replacement answer
  obtain ⟨rest, -, same⟩ := Option.map_eq_some_iff.mp answer
  rw [← (Prod.mk.inj same).2]
  exact mem_paint _ _

theorem marks_readiness : Marks readiness := by
  intro s n replacement answer
  obtain ⟨rest, -, answer⟩ := Option.bind_eq_some_iff.mp answer
  obtain ⟨⟨word, after⟩, -, answer⟩ := Option.bind_eq_some_iff.mp answer
  rw [← (Prod.mk.inj (Option.some.inj answer)).2]
  exact List.mem_append_right _ (mem_paint _ _)

/-- A message is left as it is if nothing in it stands out, and only then. -/
theorem message_eq_self_iff {s : List Char} (h : escape ∉ s) :
    message s = s ↔ Silent target s ∧ Silent exitStatus s ∧ Silent readiness s := by
  constructor
  · intro same
    unfold message at same
    -- No rule leaves a mark, from the last one back to the first.
    have silent₃ := silent_of_not_mem marks_readiness (same.symm ▸ h)
    have same₂ := (substitute_of_silent silent₃).symm.trans same
    have silent₂ := silent_of_not_mem (marks_upTo _ _) (same₂.symm ▸ h)
    have same₁ := (substitute_of_silent silent₂).symm.trans same₂
    have silent₁ := silent_of_not_mem (marks_upTo _ _) (same₁.symm ▸ h)
    rw [same₂] at silent₃
    rw [same₁] at silent₂
    exact ⟨silent₁, silent₂, silent₃⟩
  · rintro ⟨silent₁, silent₂, silent₃⟩
    rw [message, substitute_of_silent silent₁, substitute_of_silent silent₂,
      substitute_of_silent silent₃]

end Highlight

/-! ## 5. Lines -/

theorem not_mem_decimalPadded {c : Char} (h : isAsciiDigit c = false) (width n : Nat) :
    c ∉ (decimalPadded width n).toList := by
  have zero : isAsciiDigit '0' = true := by decide
  intro mem
  rw [decimalPadded, String.toList_ofList, List.mem_append] at mem
  have digit : isAsciiDigit c = true := by
    rcases mem with mem | mem
    · rw [List.eq_of_mem_replicate mem]
      exact zero
    · exact isAsciiDigit_of_mem_toDigits mem
  rw [h] at digit
  cases digit

theorem escape_not_mem_signedPadded (width : Nat) (n : Int) :
    escape ∉ (signedPadded width n).toList := by
  have digits (width : Nat) := not_mem_decimalPadded (c := escape) (by decide) width n.natAbs
  unfold signedPadded
  split
  · rw [String.toList_append, List.mem_append, not_or]
    exact ⟨by decide, digits _⟩
  · exact digits _

theorem escape_not_mem_stamp (seconds milliseconds : Int) :
    escape ∉ (stamp seconds milliseconds).toList := by
  have digits (n : Nat) := not_mem_decimalPadded (c := escape) (by decide) 2 n
  have signs : escape ∉ ":".toList ∧ escape ∉ ".".toList ∧ escape ∉ " ".toList ∧
      escape ∉ "/".toList := by decide
  simp only [stamp, String.toList_append, List.mem_append, not_or]
  simp only [digits, escape_not_mem_signedPadded, signs, not_false_eq_true, and_self]

theorem escape_not_mem_padRight {s : List Char} (h : escape ∉ s) (width : Nat) :
    escape ∉ padRight width s := by
  rw [padRight, List.mem_append, not_or]
  exact ⟨h, fun mem => absurd (List.eq_of_mem_replicate mem) (by decide)⟩

theorem escape_not_mem_componentName {source : String} (h : escape ∉ source.toList) :
    escape ∉ componentName source := by
  unfold componentName
  dsimp only
  split
  · exact fun mem => h (List.mem_of_mem_drop mem)
  · exact h

namespace Line

/-- No text of the line has an escape character. -/
structure Plain (l : Line) : Prop where
  level : escape ∉ l.level.toList
  source : escape ∉ l.source.toList
  message : escape ∉ l.message.toList
  trouble : ∀ trouble ∈ l.trouble, escape ∉ trouble.toList

/-- With colours and without, a part of the line is the same text. -/
theorem painted_painted (c : Colour) {text : List Char} (h : escape ∉ text) :
    Painted (painted true c text) (painted false c text) := painted_paint c h

theorem painted_chars {l : Line} (h : l.Plain) : Painted (l.chars true) (l.chars false) := by
  have bar : Painted ([' '] ++ painted true .dim ['|'] ++ [' '])
      ([' '] ++ painted false .dim ['|'] ++ [' ']) :=
    ((painted_self (by decide)).append (painted_painted .dim (by decide))).append
      (painted_self (by decide))
  have time := painted_painted .dim (escape_not_mem_stamp l.seconds l.milliseconds)
  have level := painted_painted (levelColour l.level) (escape_not_mem_padRight h.level 8)
  have component := painted_painted (componentColour l.source)
    (escape_not_mem_padRight (escape_not_mem_componentName h.source) 20)
  refine ((((((time.append bar).append level).append bar).append component).append bar).append
    (Highlight.painted_message h.message)).append (painted_self ?_)
  cases found : l.trouble with
  | none => exact List.not_mem_nil
  | some trouble =>
    exact List.not_mem_cons_of_ne_of_not_mem (by decide) (h.trouble trouble found)

/-- A line with colours, stripped of them, is the line without colours, which
has no colour sequence. All the same the colours are there: a message is left
as it is only if it has no target, no exit status and no readiness. -/
theorem strip_render (l : Line) (h : l.Plain) :
    strip (l.render true).toList = (l.render false).toList ∧
      escape ∉ (l.render false).toList ∧
      (Highlight.message l.message.toList = l.message.toList ↔
        Highlight.Silent Highlight.target l.message.toList ∧
        Highlight.Silent Highlight.exitStatus l.message.toList ∧
        Highlight.Silent Highlight.readiness l.message.toList) := by
  have copy := painted_chars h
  rw [render, render, String.toList_ofList, String.toList_ofList]
  exact ⟨copy.strip, copy.plain, Highlight.message_eq_self_iff h.message⟩

/-- A target, an exit status and a readiness without a blank between them. -/
def crowded : Line where
  seconds := 86399
  milliseconds := 7
  level := "INFO"
  source := "script_mcp.services.runner"
  message := "deploy@10.0.0.5:22exit=5exit with -1readiness=ready readiness=exit=3"
  trouble := some "Traceback"

theorem strip_render_crowded : crowded.Plain ∧
    strip (crowded.render true).toList = (crowded.render false).toList ∧
    Highlight.message crowded.message.toList ≠ crowded.message.toList := by
  have plain : crowded.Plain := ⟨by decide, by decide, by decide, by decide⟩
  obtain ⟨same, -, colours⟩ := strip_render crowded plain
  refine ⟨plain, same, fun kept => ?_⟩
  -- The message begins with a target.
  have silent := (colours.mp kept).1 'd' crowded.message.toList.tail (List.suffix_refl _)
  exact absurd silent (by decide)

end Line

end Upkeep.Log
