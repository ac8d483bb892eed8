/-
Upkeep.Proofs.Environments — what settings an environment makes.

Reading settings never fails. Each setting depends on one variable
(`Settings.Field`), and a number that cannot be read or is out of range counts
as not given, except that fewer than one attempt to connect means one
(`Settings.read_settles`).

A time is zero or more, or it is not a number. The latter is what a variable
says that names it (`Decimal.NamesNaN`), since it is not below zero either:
`Settings.read_unordered`.
-/
import Mathlib.Logic.Function.Basic
import Upkeep.Proofs.Numerals
import Upkeep.Settings

namespace Upkeep

/-! ## 1. Texts that name no number -/

namespace Decimal

/-- The text names what is not a number: one sign at most and the word, in any
case, with margins around them. -/
inductive NamesNaN : List Char → Prop
  | intro {before sign word after : List Char} {negative : Bool} :
      (∀ c ∈ before, isMargin c = true) → Sign sign negative →
      word.map Char.toLower = ['n', 'a', 'n'] → (∀ c ∈ after, isMargin c = true) →
      NamesNaN (before ++ (sign ++ word) ++ after)

theorem Binary64.nearest_ne_nan (negative : Bool) (n d : Nat) : nearest negative n d ≠ .nan := by
  unfold nearest
  dsimp only
  split_ifs <;> simp

theorem Binary64.ofDecimal_ne_nan (negative : Bool) (digits : Nat) (exponent : Int) :
    ofDecimal negative digits exponent ≠ .nan := by
  unfold ofDecimal
  dsimp only
  split_ifs
  · simp
  · simp
  · simp
  · exact nearest_ne_nan _ _ _

/-- A margin has no other case. -/
theorem toLower_of_isMargin {c : Char} (h : isMargin c = true) : c.toLower = c := by
  have blank : Text.isBlank c = true := (Bool.and_eq_true_iff.mp h).1
  unfold Char.toLower
  split
  · rename_i upper
    have low : 65 ≤ c.toNat := UInt32.le_iff_toNat_le.mp upper.1
    have high : c.toNat ≤ 90 := UInt32.le_iff_toNat_le.mp upper.2
    simp only [Text.isBlank, Bool.or_eq_true, Bool.and_eq_true, decide_eq_true_eq,
      beq_iff_eq] at blank
    omega
  · rfl

theorem eq_of_map_toLower {word : List Char} (h : word.map Char.toLower = ['n', 'a', 'n']) :
    ∃ a b c, word = [a, b, c] ∧ a.toLower = 'n' ∧ b.toLower = 'a' ∧ c.toLower = 'n' := by
  obtain ⟨a, rest, rfl, first, h⟩ := List.map_eq_cons_iff.mp h
  obtain ⟨b, rest, rfl, second, h⟩ := List.map_eq_cons_iff.mp h
  obtain ⟨c, rest, rfl, third, h⟩ := List.map_eq_cons_iff.mp h
  obtain rfl := List.map_eq_nil_iff.mp h
  exact ⟨a, b, c, rfl, first, second, third⟩

/-- Nothing in the word is a margin, and it does not begin like a sign. -/
theorem not_margin_of_map_toLower {word : List Char}
    (h : word.map Char.toLower = ['n', 'a', 'n']) : ∀ c ∈ word, isMargin c = false := by
  intro c hc
  have letter : c.toLower ∈ ['n', 'a', 'n'] := h ▸ List.mem_map_of_mem hc
  cases margin : isMargin c with
  | false => rfl
  | true =>
    rw [toLower_of_isMargin margin] at letter
    have plain : (['n', 'a', 'n'].all fun d => !isMargin d) = true := rfl
    have none := List.all_eq_true.mp plain c letter
    rw [margin] at none
    cases none

theorem splitSign_of_map_toLower {sign word : List Char} {negative : Bool}
    (h : Sign sign negative) (hw : word.map Char.toLower = ['n', 'a', 'n']) :
    splitSign (sign ++ word) = (negative, word) := by
  cases h with
  | plus => rfl
  | minus => rfl
  | none =>
    -- the word begins with a letter, so its first character is not taken for a sign
    obtain ⟨a, b, c, rfl, first, -, -⟩ := eq_of_map_toLower hw
    rw [List.nil_append, splitSign]
    · rintro rest ⟨⟩
      exact absurd first (by decide)
    · rintro rest ⟨⟩
      exact absurd first (by decide)

theorem readSpecial?_eq_nan_iff {negative : Bool} {s : List Char} :
    readSpecial? negative s = some .nan ↔ s.map Char.toLower = ['n', 'a', 'n'] := by
  have word : String.ofList (s.map Char.toLower) = "nan" ↔
      s.map Char.toLower = ['n', 'a', 'n'] := by
    rw [← String.toList_inj, String.toList_ofList]
    rfl
  rw [← word]
  unfold readSpecial?
  dsimp only
  generalize String.ofList (s.map Char.toLower) = name
  constructor
  · intro h
    split at h
    · cases h
    · split at h
      · rename_i same
        exact eq_of_beq same
      · cases h
  · rintro rfl
    rfl

/-- The reader of doubles takes for not a number what names it and nothing
else. -/
theorem readDouble?_eq_nan_iff {s : String} : readDouble? s = some .nan ↔ NamesNaN s.toList := by
  constructor
  · intro h
    unfold readDouble? at h
    obtain ⟨before, after, same, hb, ha⟩ := exists_eq_trimMargin s.toList
    generalize trimMargin s.toList = core at h same
    obtain ⟨sign, signed, parted⟩ := sign_splitSign core
    dsimp only at h
    split at h
    · rename_i x special
      obtain rfl := Option.some.inj h
      rw [same, parted]
      exact .intro hb signed (readSpecial?_eq_nan_iff.mp special) ha
    · obtain ⟨whole, -, h⟩ := Option.bind_eq_some_iff.mp h
      obtain ⟨fraction, -, h⟩ := Option.bind_eq_some_iff.mp h
      obtain ⟨exponent, -, h⟩ := Option.bind_eq_some_iff.mp h
      split at h
      · cases h
      · exact absurd (Option.some.inj h) (Binary64.ofDecimal_ne_nan _ _ _)
  · intro h
    generalize same : s.toList = text at h
    obtain ⟨hb, signed, named, ha⟩ := h
    rename_i before sign word after negative
    have core : trimMargin s.toList = sign ++ word := by
      rw [same]
      refine trimMargin_append ?_ hb ha
      intro c hc
      rcases List.mem_append.mp hc with hc | hc
      · exact signed.not_margin c hc
      · exact not_margin_of_map_toLower named c hc
    unfold readDouble?
    rw [core, splitSign_of_map_toLower signed named]
    dsimp only
    rw [readSpecial?_eq_nan_iff.mpr named]

namespace Binary64

/-- The double is a number that is zero or more. -/
def AtLeastZero (x : Binary64) : Prop := x = .infinite false ∨ ∃ q, x.value? = some q ∧ 0 ≤ q

theorem atLeastZero_or_nan {x : Binary64} (h : x.isNegative = false) :
    x.AtLeastZero ∨ x = .nan := by
  cases x with
  | nan => exact Or.inr rfl
  | infinite negative =>
    cases negative with
    | true => cases h
    | false => exact Or.inl (Or.inl rfl)
  | finite negative s e =>
    refine Or.inl (Or.inr ⟨_, rfl, ?_⟩)
    have above : (0 : ℚ) ≤ s * 2 ^ e :=
      mul_nonneg (Nat.cast_nonneg s) (zpow_nonneg zero_le_two e)
    cases negative with
    | false => simpa using above
    | true =>
      have zero : s = 0 := by simpa [isNegative] using h
      simp [zero]

theorem not_atLeastZero_nan : ¬ AtLeastZero .nan := by
  rintro (h | ⟨q, h, -⟩)
  · cases h
  · cases h

/-- A double that is not below zero is above it unless it is zero or not a
number. -/
theorem isPositive_eq_false_iff {x : Binary64} (h : x.isNegative = false) :
    x.isPositive = false ↔ x.value? = some 0 ∨ x = .nan := by
  cases x with
  | nan => simp [isPositive]
  | infinite negative =>
    cases negative with
    | true => cases h
    | false => simp [isPositive, value?]
  | finite negative s e =>
    have unit : (2 : ℚ) ^ e ≠ 0 := zpow_ne_zero e two_ne_zero
    cases negative with
    | false => simp [isPositive, value?, unit]
    | true =>
      have zero : s = 0 := by simpa [isNegative] using h
      simp [isPositive, value?, zero]

end Binary64

end Decimal

/-! ## 2. One variable for each setting -/

namespace Settings

open Decimal (Binary64 Numeral NamesNaN readDouble? readInt?_eq_some_iff readDouble?_eq_nan_iff)

/-- The settings that are times. -/
inductive Span
  | retryDelay
  | connectTimeout
  | commandTimeout
  | pollInterval

/-- What follows the stem in the name of the variable for a time. -/
def Span.key : Span → String
  | .retryDelay => "CONNECT_RETRY_DELAY"
  | .connectTimeout => "CONNECT_TIMEOUT"
  | .commandTimeout => "COMMAND_TIMEOUT"
  | .pollInterval => "POLL_INTERVAL"

/-- A time that is not given. -/
def Span.fallback : Span → Binary64
  | .retryDelay => .ofNat 2
  | .connectTimeout => .ofNat 30
  | .commandTimeout => .ofNat 0
  | .pollInterval => .ofNat 60

/-- One of the times. -/
def time (s : Settings) : Span → Binary64
  | .retryDelay => s.retryDelay
  | .connectTimeout => s.connectTimeout
  | .commandTimeout => s.commandTimeout
  | .pollInterval => s.pollInterval

theorem time_read (env : Environment) (t : Span) :
    (read env).1.time t = (readSeconds env t.key t.fallback).1 := by
  cases t <;> rfl

theorem readWhole_congr {env env' : Environment} {key : String} (fallback : Int)
    (h : env (variableStem ++ key) = env' (variableStem ++ key)) :
    readWhole env key fallback = readWhole env' key fallback := by
  rw [readWhole, readWhole, h]

theorem readSeconds_congr {env env' : Environment} {key : String} (fallback : Binary64)
    (h : env (variableStem ++ key) = env' (variableStem ++ key)) :
    readSeconds env key fallback = readSeconds env' key fallback := by
  rw [readSeconds, readSeconds, h]

/-- The settings that a variable is read for. -/
inductive Field
  | attempts
  | time (t : Span)
  | directory
  | transport
  | host
  | port
  | level
  | traceback

namespace Field

/-- What follows the stem in the name of a setting's variable. -/
def key : Field → String
  | .attempts => "CONNECT_ATTEMPTS"
  | .time t => t.key
  | .directory => "TMP_DIR"
  | .transport => "TRANSPORT"
  | .host => "HTTP_HOST"
  | .port => "HTTP_PORT"
  | .level => "LOG_LEVEL"
  | .traceback => "INCLUDE_TRACEBACK"

/-- The name of a setting's variable. -/
def name (f : Field) : String := variableStem ++ f.key

/-- Two settings have the same value here. -/
def SameIn (a b : Settings) : Field → Prop
  | .attempts => a.connectAttempts = b.connectAttempts
  | .time t => a.time t = b.time t
  | .directory => a.stagingDirectory = b.stagingDirectory
  | .transport => a.transport = b.transport
  | .host => a.httpHost = b.httpHost
  | .port => a.httpPort = b.httpPort
  | .level => a.logLevel = b.logLevel
  | .traceback => a.includeTraceback = b.includeTraceback

/-- No more is set than the fields. -/
theorem eq_of_sameIn {a b : Settings} (h : ∀ f : Field, f.SameIn a b) : a = b := by
  have delay := h (.time .retryDelay)
  have dial := h (.time .connectTimeout)
  have command := h (.time .commandTimeout)
  have interval := h (.time .pollInterval)
  cases a
  cases b
  obtain rfl := h .attempts
  obtain rfl := h .directory
  obtain rfl := h .transport
  obtain rfl := h .host
  obtain rfl := h .port
  obtain rfl := h .level
  obtain rfl := h .traceback
  obtain rfl := delay
  obtain rfl := dial
  obtain rfl := command
  obtain rfl := interval
  rfl

/-- A field has what its own variable says, whatever the others say. -/
theorem sameIn_read {f : Field} {env env' : Environment} (h : env f.name = env' f.name) :
    f.SameIn (read env).1 (read env').1 := by
  have same : env (variableStem ++ f.key) = env' (variableStem ++ f.key) := h
  cases f with
  | attempts => exact congrArg (fun r => max 1 r.1) (readWhole_congr 3 same)
  | time t =>
    show (read env).1.time t = (read env').1.time t
    rw [time_read, time_read]
    exact congrArg Prod.fst (readSeconds_congr t.fallback same)
  | directory =>
    simp only [key] at same
    simp only [SameIn, read, readDirectory, same]
  | transport =>
    simp only [key] at same
    simp only [SameIn, read, readTransport, same]
  | host => exact congrArg (·.getD "0.0.0.0") same
  | port => exact congrArg Prod.fst (readWhole_congr 8000 same)
  | level =>
    simp only [key] at same
    simp only [SameIn, read, same]
  | traceback =>
    simp only [key] at same
    simp only [SameIn, read, readSwitch, same]

/-- All fields. -/
def all : List Field :=
  [.attempts, .time .retryDelay, .time .connectTimeout, .time .commandTimeout, .directory,
    .time .pollInterval, .transport, .host, .port, .level, .traceback]

theorem find?_name (f : Field) : all.find? (·.name == f.name) = some f := by
  cases f with
  | time t => cases t <;> rfl
  | _ => rfl

/-- No two fields share a variable. -/
theorem name_inj {f g : Field} (h : f.name = g.name) : f = g :=
  Option.some.inj ((find?_name f).symm.trans (h ▸ find?_name g))

end Field

/-- A variable sets its own field and no other. -/
theorem sameIn_read_update (env : Environment) {f : Field} {name : String}
    (value : Option String) (h : f.name ≠ name) :
    f.SameIn (read (Function.update env name value)).1 (read env).1 :=
  Field.sameIn_read (Function.update_of_ne h value env)

/-! ## 3. What is taken from a variable -/

theorem readSeconds_of_readDouble? {env : Environment} {key text : String} {x : Binary64}
    (fallback : Binary64) (set : env (variableStem ++ key) = some text)
    (h : readDouble? text = some x) (above : x.isNegative = false) :
    (readSeconds env key fallback).1 = x := by
  simp [readSeconds, set, h, above]

/-- A time that is read is not below zero. -/
theorem isNegative_readSeconds (env : Environment) (key : String) {fallback : Binary64}
    (h : fallback.isNegative = false) : (readSeconds env key fallback).1.isNegative = false := by
  unfold readSeconds
  split
  · exact h
  · split
    · exact h
    · split
      · exact h
      · exact Bool.eq_false_iff.mpr ‹_›

theorem Span.isNegative_fallback (t : Span) : t.fallback.isNegative = false := by
  cases t <;> decide

theorem Span.fallback_ne_nan (t : Span) : t.fallback ≠ .nan := by
  cases t <;> decide

theorem isNegative_time (env : Environment) (t : Span) :
    ((read env).1.time t).isNegative = false := by
  rw [time_read]
  exact isNegative_readSeconds env t.key t.isNegative_fallback

/-- A time is not a number if its variable names that. -/
theorem time_eq_nan_iff {env : Environment} {t : Span} :
    (read env).1.time t = .nan ↔
      ∃ text, env (Field.time t).name = some text ∧ NamesNaN text.toList := by
  have spelled : (Field.time t).name = variableStem ++ t.key := rfl
  rw [time_read, spelled]
  constructor
  · intro h
    unfold readSeconds at h
    split at h
    · exact absurd h t.fallback_ne_nan
    · rename_i text set
      split at h
      · exact absurd h t.fallback_ne_nan
      · rename_i x taken
        split at h
        · exact absurd h t.fallback_ne_nan
        · exact ⟨text, set, readDouble?_eq_nan_iff.mp (h ▸ taken)⟩
  · rintro ⟨text, set, named⟩
    exact readSeconds_of_readDouble? _ set (readDouble?_eq_nan_iff.mpr named) rfl

/-- A setting does not take this text: it is a number and the text writes
none, or it is a time and the text writes none that is not below zero. -/
def Field.Refuses (text : String) : Field → Prop
  | .attempts | .port => ∀ n, ¬ Numeral text.toList n
  | .time _ => ∀ x, readDouble? text = some x → x.isNegative = true
  | .directory | .transport | .host | .level | .traceback => False

theorem readWhole_of_unset {env : Environment} {key : String} (fallback : Int)
    (unset : env (variableStem ++ key) = none) : (readWhole env key fallback).1 = fallback := by
  simp [readWhole, unset]

theorem readSeconds_of_unset {env : Environment} {key : String} (fallback : Binary64)
    (unset : env (variableStem ++ key) = none) : (readSeconds env key fallback).1 = fallback := by
  simp [readSeconds, unset]

theorem readWhole_of_not_numeral {env : Environment} {key text : String} (fallback : Int)
    (set : env (variableStem ++ key) = some text) (h : ∀ n, ¬ Numeral text.toList n) :
    (readWhole env key fallback).1 = fallback := by
  cases taken : Decimal.readInt? text with
  | none => simp [readWhole, set, taken]
  | some n => exact absurd (readInt?_eq_some_iff.mp taken) (h n)

theorem readWhole_of_numeral {env : Environment} {key text : String} {n : Int} (fallback : Int)
    (set : env (variableStem ++ key) = some text) (h : Numeral text.toList n) :
    (readWhole env key fallback).1 = n := by
  simp [readWhole, set, readInt?_eq_some_iff.mpr h]

theorem readSeconds_of_refused {env : Environment} {key text : String} (fallback : Binary64)
    (set : env (variableStem ++ key) = some text)
    (h : ∀ x, readDouble? text = some x → x.isNegative = true) :
    (readSeconds env key fallback).1 = fallback := by
  cases taken : readDouble? text with
  | none => simp [readSeconds, set, taken]
  | some x => simp [readSeconds, set, taken, h x taken]

/-- What a setting does not take counts as not given. -/
theorem read_of_refuses {env : Environment} {f : Field} {text : String}
    (set : env f.name = some text) (h : f.Refuses text) :
    (read env).1 = (read (Function.update env f.name none)).1 := by
  have unset : Function.update env f.name none f.name = none := Function.update_self ..
  have own : f.SameIn (read env).1 (read (Function.update env f.name none)).1 := by
    cases f with
    | attempts =>
      exact congrArg (max 1)
        ((readWhole_of_not_numeral 3 set h).trans (readWhole_of_unset 3 unset).symm)
    | port => exact (readWhole_of_not_numeral 8000 set h).trans (readWhole_of_unset 8000 unset).symm
    | time t =>
      show (read _).1.time t = (read _).1.time t
      rw [time_read, time_read]
      exact (readSeconds_of_refused _ set h).trans (readSeconds_of_unset _ unset).symm
    | _ => exact h.elim
  -- the field is unset on both sides, and no other field reads its variable
  refine Field.eq_of_sameIn fun g => ?_
  by_cases same : g.name = f.name
  · rw [Field.name_inj same]
    exact own
  · exact Field.sameIn_read (Function.update_of_ne same none env).symm

/-- There is no limit for a script if the time for commands is zero, or not a
number. -/
theorem scriptTimeout_read_eq_none_iff (env : Environment) :
    (read env).1.scriptTimeout = none ↔
      (read env).1.commandTimeout.value? = some 0 ∨ (read env).1.commandTimeout = .nan := by
  have above : (read env).1.commandTimeout.isNegative = false :=
    isNegative_time env .commandTimeout
  rw [← Decimal.Binary64.isPositive_eq_false_iff above]
  simp [scriptTimeout]

theorem readTransport_fst (env : Environment) :
    (readTransport env).1 =
      if Text.lower ((env (variableStem ++ "TRANSPORT")).getD "") = "stdio" then .stdio
      else .http := by
  unfold readTransport
  generalize Text.lower ((env (variableStem ++ "TRANSPORT")).getD "") = word
  simp only [Transport.word, beq_iff_eq]
  split_ifs with http stdio
  · rw [http] at stdio
    exact absurd stdio (by decide)
  all_goals rfl

theorem readDirectory_ne_empty (env : Environment) : readDirectory env ≠ "" := by
  unfold readDirectory
  dsimp only
  split
  · decide
  · rename_i full
    intro none
    rw [none] at full
    exact full rfl

/-! ## 4. All settings -/

/-- The settings that an environment makes.

There is at least one attempt to connect, and the directory has a name. A time
is zero or more unless its variable names that it is not a number; with a
command time that is not a number, scripts have no limit either. A number is
taken as it is written, and one that is refused counts as not given; fewer than
one attempt to connect means one. No other variable than its own changes a
setting. -/
theorem read_settles (env : Environment) :
    1 ≤ (read env).1.connectAttempts ∧
    (read env).1.stagingDirectory ≠ "" ∧
    ((read env).1.transport =
      if Text.lower ((env Field.transport.name).getD "") = "stdio" then .stdio else .http) ∧
    (∀ t : Span, ((read env).1.time t).AtLeastZero ∨
      ((read env).1.time t = .nan ∧
        ∃ text, env (Field.time t).name = some text ∧ NamesNaN text.toList)) ∧
    ((read env).1.scriptTimeout = none ↔
      (read env).1.commandTimeout.value? = some 0 ∨ (read env).1.commandTimeout = .nan) ∧
    (∀ (f : Field) (text : String), env f.name = some text → f.Refuses text →
      (read env).1 = (read (Function.update env f.name none)).1) ∧
    (∀ (text : String) (n : Int), env Field.attempts.name = some text → Numeral text.toList n →
      (read env).1.connectAttempts = max 1 n) ∧
    (∀ (text : String) (n : Int), env Field.port.name = some text → Numeral text.toList n →
      (read env).1.httpPort = n) ∧
    (∀ (t : Span) (text : String) (x : Binary64), env (Field.time t).name = some text →
      readDouble? text = some x → x.isNegative = false → (read env).1.time t = x) ∧
    (∀ (f : Field) (name : String) (value : Option String), f.name ≠ name →
      f.SameIn (read (Function.update env name value)).1 (read env).1) := by
  refine ⟨le_max_left _ _, readDirectory_ne_empty env, readTransport_fst env, ?_,
    scriptTimeout_read_eq_none_iff env, fun f text => read_of_refuses, ?_, ?_, ?_,
    fun f name value => sameIn_read_update env value⟩
  · intro t
    rcases Decimal.Binary64.atLeastZero_or_nan (isNegative_time env t) with above | unordered
    · exact Or.inl above
    · exact Or.inr ⟨unordered, time_eq_nan_iff.mp unordered⟩
  · intro text n set written
    exact congrArg (max 1) (readWhole_of_numeral 3 set written)
  · intro text n set written
    exact readWhole_of_numeral 8000 set written
  · intro t text x set taken above
    rw [time_read]
    exact readSeconds_of_readDouble? _ set taken above

/-- An environment in which one variable of each kind is set. -/
def assorted : Environment := fun name =>
  if name = Field.attempts.name then some "0"
  else if name = Field.port.name then some "eighty"
  else if name = (Field.time .connectTimeout).name then some "2.5"
  else if name = (Field.time .pollInterval).name then some "nan"
  else none

/-- No attempts are one, a port that cannot be read counts as not given, and
the interval between passes is not a number. -/
theorem read_settles_assorted :
    Numeral "0".toList 0 ∧ Field.port.Refuses "eighty" ∧
      (read assorted).1.connectAttempts = 1 ∧
      (read assorted).1 = (read (Function.update assorted Field.port.name none)).1 ∧
      (read assorted).1.connectTimeout = .finite false 5629499534213120 (-51) ∧
      (read assorted).1.pollInterval = .nan ∧
      (read (Function.update assorted Field.port.name none)).1.connectAttempts = 1 := by
  have zero : Numeral "0".toList 0 := readInt?_eq_some_iff.mp (by decide +kernel)
  have word : Field.port.Refuses "eighty" := by
    intro n written
    have unread : Decimal.readInt? "eighty" = none := by decide +kernel
    rw [readInt?_eq_some_iff.mpr written] at unread
    cases unread
  obtain ⟨-, -, -, -, -, refused, attempts, -, taken, others⟩ := read_settles assorted
  have one : (read assorted).1.connectAttempts = 1 := attempts "0" 0 rfl zero
  refine ⟨zero, word, one, refused .port "eighty" (by decide +kernel) word,
    taken .connectTimeout "2.5" _ (by decide +kernel) (by decide +kernel) rfl,
    taken .pollInterval "nan" .nan (by decide +kernel) (by decide +kernel) rfl,
    (others .attempts Field.port.name none (by decide)).trans one⟩

/-- A time may be not a number, and then scripts have no limit although the
time for them is not zero. -/
theorem read_unordered :
    let env : Environment := fun name =>
      if name = (Field.time .pollInterval).name then some "nan"
      else if name = (Field.time .commandTimeout).name then some "nan" else none
    ¬ (read env).1.pollInterval.AtLeastZero ∧ ¬ (read env).1.commandTimeout.AtLeastZero ∧
      (read env).1 ≠ (read (fun _ => none)).1 ∧
      (read env).1.scriptTimeout = none ∧ (read env).1.commandTimeout.value? ≠ some 0 := by
  intro env
  have interval : (read env).1.pollInterval = .nan := by decide +kernel
  have limit : (read env).1.commandTimeout = .nan := by decide +kernel
  have ordinary : (read (fun _ => none)).1.pollInterval ≠ .nan := by decide +kernel
  rw [interval, limit]
  refine ⟨Decimal.Binary64.not_atLeastZero_nan, Decimal.Binary64.not_atLeastZero_nan, ?_,
    (scriptTimeout_read_eq_none_iff env).mpr (Or.inr limit), nofun⟩
  intro same
  rw [← same] at ordinary
  exact ordinary interval

end Settings

end Upkeep
