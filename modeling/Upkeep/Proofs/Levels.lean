/-
Upkeep.Proofs.Levels — setting up the log, once and again.

The level is the one that the variable names in whatever case (`Log.Names`),
and that of information if it names none. But the name is looked up among
everything that the logging facility has a name for, and two things there are
no levels (`Log.Misleads`): with their names the set-up fails.

Main statement: `Log.Setup.configureTimes_settles` — when the set-up fails, and
what it leaves behind when it does not, however often it is made. Making it
again changes nothing (`Log.Setup.configure_again`), so any number of times is
once (`Log.Setup.configureTimes_succ`).
-/
import Upkeep.Log.Setup

namespace Upkeep.Log

/-! ## 1. Names -/

/-- The levels by their names. Two have a second name, and so has what is
below them all. -/
inductive Names : String → Int → Prop
  | own (l : Level) : Names l.name l.number
  | warn : Names "WARN" Level.warning.number
  | fatal : Names "FATAL" Level.critical.number
  | notSet : Names "NOTSET" 0

/-- The names of what is no level, and the fault of setting it as one. -/
inductive Misleads : String → Fault → Prop
  | pattern : Misleads "BASIC_FORMAT" ⟨.value, "Unknown level: " ++ Text.quote plainPattern⟩
  | styles : Misleads "_STYLES"
      ⟨.wrongType, "Level not an integer or a valid string: " ++ styleTable⟩

theorem names_iff {name : String} {n : Int} : Names name n ↔ named? name = some (.level n) := by
  constructor
  · intro h
    cases h with
    | own l => cases l <;> rfl
    | warn => rfl
    | fatal => rfl
    | notSet => rfl
  · intro h
    unfold named? at h
    split at h <;> simp only [Option.some.injEq, Named.level.injEq, reduceCtorEq] at h
    all_goals subst h
    · exact .own .critical
    · exact .fatal
    · exact .own .error
    · exact .own .warning
    · exact .warn
    · exact .own .info
    · exact .own .debug
    · exact .notSet

theorem levelNumber_of_names {name : String} {n : Int} (h : Names name n) :
    levelNumber name = .ok n := by
  simp [levelNumber, names_iff.mp h]

theorem misleads_iff {name : String} {f : Fault} :
    Misleads name f ↔ levelNumber name = .error f := by
  constructor
  · intro h
    cases h with
    | pattern => rfl
    | styles => rfl
  · intro h
    cases found : named? name with
    | none => simp [levelNumber, found] at h
    | some what =>
      cases what with
      | level n => simp [levelNumber, found] at h
      | text s =>
        unfold named? at found
        split at found <;>
          simp only [Option.some.injEq, Named.text.injEq, reduceCtorEq] at found
        cases h
        exact .pattern
      | table shown =>
        unfold named? at found
        split at found <;>
          simp only [Option.some.injEq, Named.table.injEq, reduceCtorEq] at found
        cases h
        exact .styles

/-- What names no level and misleads nobody means the level of
information. -/
theorem levelNumber_of_unnamed {name : String} (unnamed : ∀ n, ¬ Names name n)
    (plain : ∀ f, ¬ Misleads name f) : levelNumber name = .ok Level.info.number := by
  cases found : named? name with
  | none => simp [levelNumber, found]
  | some what =>
    cases what with
    | level n => exact absurd (names_iff.mpr found) (unnamed n)
    | text s =>
      have fails : levelNumber name = .error ⟨.value, "Unknown level: " ++ Text.quote s⟩ := by
        simp [levelNumber, found]
      exact absurd (misleads_iff.mpr fails) (plain _)
    | table shown =>
      have fails : levelNumber name =
          .error ⟨.wrongType, "Level not an integer or a valid string: " ++ shown⟩ := by
        simp [levelNumber, found]
      exact absurd (misleads_iff.mpr fails) (plain _)

namespace Setup

/-! ## 2. The set-up -/

/-- What the environment says of the level, in capital letters. -/
def levelName (env : Environment) : String :=
  Text.upper ((env (Settings.variableStem ++ "LOG_LEVEL")).getD "INFO")

/-- The quieted sources and their level. -/
def hushed : List (String × Int) := noisySources.map fun source => (source, Level.warning.number)

/-- The set-up with a level that was found. -/
def settle (env : Environment) (console : Bool) (s : Setup) (level : Int) : Setup :=
  if s.handlers.isEmpty then
    { level, propagate := false, handlers := [wantsColours env console], quieted := hushed }
  else { s with level, quieted := hushed }

theorem configure_eq (env : Environment) (console : Bool) (s : Setup) :
    s.configure env console = (levelNumber (levelName env)).map (s.settle env console) := by
  have asked : (Settings.read env).1.logLevel = levelName env := rfl
  unfold configure settle
  rw [asked]
  cases levelNumber (levelName env) with
  | error f => rfl
  | ok level =>
    cases s.handlers with
    | nil => rfl
    | cons _ _ => rfl

/-- A handler that is there is kept, so settling again has nothing to add. -/
theorem settle_settle (env : Environment) (console : Bool) (s : Setup) (level : Int) :
    (s.settle env console level).settle env console level = s.settle env console level := by
  cases there : s.handlers with
  | nil => simp [settle, there]
  | cons colours others => simp [settle, there]

/-- Setting up what was set up changes nothing. -/
theorem configure_again {env : Environment} {console : Bool} {s t : Setup}
    (h : s.configure env console = .ok t) : t.configure env console = .ok t := by
  rw [configure_eq] at h ⊢
  cases found : levelNumber (levelName env) with
  | error f =>
    rw [found] at h
    cases h
  | ok level =>
    rw [found] at h
    obtain rfl := Except.ok.inj h
    exact congrArg Except.ok (settle_settle env console s level)

theorem configureTimes_of_error {env : Environment} {console : Bool} {s : Setup} {f : Fault}
    (h : s.configure env console = .error f) (k : Nat) :
    configureTimes env console (k + 1) s = .error f := by
  rw [configureTimes, h]
  rfl

theorem configureTimes_of_ok {env : Environment} {console : Bool} {s t : Setup}
    (h : s.configure env console = .ok t) (k : Nat) :
    configureTimes env console (k + 1) s = configureTimes env console k t := by
  rw [configureTimes, h]
  rfl

/-- Any number of times, but one at least, is like once. -/
theorem configureTimes_succ (env : Environment) (console : Bool) (k : Nat) (s : Setup) :
    configureTimes env console (k + 1) s = s.configure env console := by
  induction k generalizing s with
  | zero =>
    cases h : s.configure env console with
    | error f => exact configureTimes_of_error h 0
    | ok t => exact configureTimes_of_ok h 0
  | succ k ih =>
    cases h : s.configure env console with
    | error f => exact configureTimes_of_error h (k + 1)
    | ok t => rw [configureTimes_of_ok h, ih, configure_again h]

/-! ## 3. What is left behind -/

/-- The log as the environment and the console want it. -/
structure Wanted (env : Environment) (console : Bool) (t : Setup) : Prop where
  named : ∀ n, Names (levelName env) n → t.level = n
  unnamed : (∀ n, ¬ Names (levelName env) n) → t.level = Level.info.number
  handler : ∃ colours, t.handlers = [colours] ∧ (colours = true ↔ console = true ∧
    Text.lower ((env (Settings.variableStem ++ "LOG_COLORS")).getD "true") ≠ "false")
  own : t.propagate = false
  quiet : ∀ source ∈ noisySources, (source, Level.warning.number) ∈ t.quieted

theorem wanted_settle {env : Environment} {console : Bool} {s : Setup} (bare : s.handlers = [])
    {level : Int} (found : levelNumber (levelName env) = .ok level) :
    Wanted env console (s.settle env console level) := by
  have settled : s.settle env console level =
      { level, propagate := false, handlers := [wantsColours env console], quieted := hushed } := by
    simp [settle, bare]
  rw [settled]
  refine ⟨?_, ?_, ⟨_, rfl, ?_⟩, rfl, fun source known => List.mem_map_of_mem known⟩
  · intro n names
    rw [levelNumber_of_names names] at found
    exact (Except.ok.inj found).symm
  · intro unnamed
    have plain : ∀ f, ¬ Misleads (levelName env) f := by
      intro f misleads
      rw [misleads_iff.mp misleads] at found
      cases found
    rw [levelNumber_of_unnamed unnamed plain] at found
    exact (Except.ok.inj found).symm
  · simp [wantsColours]

/-- The log of the service is set up from a state without handlers, any number
of times, but one at least.

That is like once. It fails with the fault of a name that misleads, and of no
other; and otherwise it leaves the log as the environment and the console want
it. -/
theorem configureTimes_settles (env : Environment) (console : Bool) (k : Nat) {s : Setup}
    (bare : s.handlers = []) :
    configureTimes env console (k + 1) s = configureTimes env console 1 s ∧
    (∀ f, configureTimes env console (k + 1) s = .error f ↔ Misleads (levelName env) f) ∧
    ((∀ f, ¬ Misleads (levelName env) f) →
      ∃ t, configureTimes env console (k + 1) s = .ok t ∧ Wanted env console t) := by
  rw [configureTimes_succ, configureTimes_succ, configure_eq]
  refine ⟨rfl, ?_, ?_⟩
  · intro f
    rw [misleads_iff]
    cases levelNumber (levelName env) with
    | error g => simp [Except.map]
    | ok level => simp [Except.map]
  · intro plain
    cases found : levelNumber (levelName env) with
    | error f => exact absurd (misleads_iff.mpr found) (plain f)
    | ok level => exact ⟨_, rfl, wanted_settle bare found⟩

/-- Warnings, by the second name of their level, in colours that a word other
than `false` leaves on; and the set-up is made three times. -/
theorem configureTimes_settles_thrice :
    let env : Environment := fun name =>
      if name = Settings.variableStem ++ "LOG_LEVEL" then some "Warn"
      else if name = Settings.variableStem ++ "LOG_COLORS" then some "Off" else none
    ({} : Setup).handlers = [] ∧ (∀ f, ¬ Misleads (levelName env) f) ∧
      configureTimes env true 3 {} = configureTimes env true 1 {} ∧
      ∃ t, configureTimes env true 3 {} = .ok t ∧ t.level = Level.warning.number ∧
        t.handlers = [true] := by
  intro env
  have name : levelName env = "WARN" := by decide +kernel
  have plain : ∀ f, ¬ Misleads (levelName env) f := by
    intro f misleads
    rw [misleads_iff, name, levelNumber_of_names .warn] at misleads
    cases misleads
  obtain ⟨once, -, wanted⟩ := configureTimes_settles env true 2 (s := {}) rfl
  obtain ⟨t, made, want⟩ := wanted plain
  obtain ⟨colours, only, on⟩ := want.handler
  have shown : colours = true := on.mpr ⟨rfl, by decide +kernel⟩
  exact ⟨rfl, plain, once, t, made, want.named _ (name ▸ .warn), shown ▸ only⟩

/-- A name that names no level may yet keep the log from being set up, and so
the service from starting. -/
theorem configure_misled :
    let env : Environment := fun name =>
      if name = Settings.variableStem ++ "LOG_LEVEL" then some "basic_format" else none
    (∀ n, ¬ Names (levelName env) n) ∧
      configureTimes env false 1 {} =
        .error ⟨.value, "Unknown level: '%(levelname)s:%(name)s:%(message)s'"⟩ := by
  intro env
  have name : levelName env = "BASIC_FORMAT" := by decide +kernel
  have quoted : Text.quote plainPattern = "'%(levelname)s:%(name)s:%(message)s'" := by
    decide +kernel
  constructor
  · intro n names
    rw [name, names_iff] at names
    cases names
  · rw [configureTimes_succ, configure_eq, name, misleads_iff.mp .pattern, quoted]
    rfl

end Setup

end Upkeep.Log
