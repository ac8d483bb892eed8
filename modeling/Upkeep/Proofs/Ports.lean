/-
Upkeep.Proofs.Ports — which values write a port.

A port is named by a number that equals it, by a numeral for it, and by null
or the empty text, which name the default port (`Port.Names`). The reader of
ports accepts every value that names one, and two kinds of values more
(`Port.Slips`): a number that is not whole, whose fraction it drops, and the
truth value, which it counts as one.

Main statement: `read_admits` — these are all that is accepted; what is not
accepted is refused as a misconfiguration, except an infinite number and, if
it is no field of a document that was read, a value that cannot be shown.

Not every value without a port is refused: `read_slips`.
-/
import Upkeep.Proofs.Decoding
import Upkeep.Proofs.Numerals

namespace Upkeep.Port

open Upkeep.Decimal (Binary64 Number Numeral)

/-! ## 1. Values that write ports -/

/-- The number is a port. -/
def InRange (n : Int) : Prop := 1 ≤ n ∧ n ≤ 65535

/-- The value names a port. -/
inductive Names : Json → Int → Prop
  | null : Names .null 22
  | empty : Names (.text "") 22
  | number {x : Number} {n : Int} : x.value? = some (n : ℚ) → InRange n → Names (.number x) n
  | numeral {s : String} {n : Int} : Numeral s.toList n → InRange n → Names (.text s) n

/-- The value names no port but is taken for one. -/
inductive Slips : Json → Int → Prop
  | fraction {x : Number} {q : ℚ} : x.value? = some q → (⌊q⌋ : ℚ) ≠ q → InRange ⌊q⌋ →
      Slips (.number x) ⌊q⌋
  | truth : Slips (.bool true) 1

theorem Slips.not_names {written : Json} {n : Int} (h : Slips written n) (m : Int) :
    ¬ Names written m := by
  cases h with
  | truth => nofun
  | fraction value broken =>
    rintro (_ | _ | ⟨named, -⟩)
    rw [value] at named
    obtain rfl := Option.some.inj named
    exact broken (by rw [Int.floor_intCast])

/-! ## 2. Whole numbers -/

/-- A number counts with its whole part, toward zero. -/
theorem wholeNumber_of_value? {x : Number} {q : ℚ} (h : x.value? = some q) :
    wholeNumber (.number x) = .ok (if 0 ≤ q then ⌊q⌋ else ⌈q⌉) := by
  cases x with
  | whole n =>
    obtain rfl := Option.some.inj h
    simp [wholeNumber]
  | double x => rw [wholeNumber, Binary64.whole_of_value? h]

/-- A number that has no value is not whole. -/
theorem wholeNumber_of_value?_eq_none {x : Number} (h : x.value? = none) :
    ∃ fault, wholeNumber (.number x) = .error fault := by
  cases x with
  | whole n => cases h
  | double x =>
    cases x with
    | nan => exact ⟨_, rfl⟩
    | infinite negative => exact ⟨_, rfl⟩
    | finite negative s e => cases h

/-- Toward zero is downward for what comes out as a port. -/
theorem floor_of_inRange {q : ℚ} (h : InRange (if 0 ≤ q then ⌊q⌋ else ⌈q⌉)) :
    (if 0 ≤ q then ⌊q⌋ else ⌈q⌉) = ⌊q⌋ := by
  by_cases above : 0 ≤ q
  · rw [if_pos above]
  · rw [if_neg above] at h
    have below : ⌈q⌉ ≤ 0 := Int.ceil_le.mpr (by simpa using le_of_not_ge above)
    have := h.1
    omega

/-- The floor of a number that is at least one is its whole part. -/
theorem nonneg_of_inRange {q : ℚ} (h : InRange ⌊q⌋) : 0 ≤ q := by
  have one : ((1 : Int) : ℚ) ≤ q := Int.le_floor.mp h.1
  exact le_trans (by norm_num) one

/-! ## 3. Reading -/

variable {depths : Json.Depths}

theorem read_eq_ok {written : Json} {n : Int} :
    read written depths = .ok n ↔ isUnset written = true ∧ n = 22 ∨
      isUnset written = false ∧ wholeNumber written = .ok n ∧ InRange n := by
  unfold read
  cases unset : isUnset written with
  | true => simp [default, eq_comm]
  | false =>
    rw [if_neg Bool.false_ne_true]
    simp only [Bool.false_eq_true, false_and, true_and, false_or]
    cases whole : wholeNumber written with
    | error fault =>
      dsimp only
      split
      · simp
      · simp
    | ok m =>
      dsimp only
      split
      · rename_i range
        simp only [Except.ok.injEq]
        constructor
        · rintro rfl
          exact ⟨rfl, by omega, by omega⟩
        · exact And.left
      · rename_i range
        simp only [reduceCtorEq, Except.ok.injEq, false_iff]
        rintro ⟨rfl, low, high⟩
        omega

theorem read_text (s : String) (n : Int) : read (.text s) depths = .ok n ↔ Names (.text s) n := by
  rw [read_eq_ok]
  constructor
  · rintro (⟨unset, rfl⟩ | ⟨-, whole, range⟩)
    · obtain rfl := String.isEmpty_iff.mp unset
      exact .empty
    · refine .numeral (Decimal.readInt?_eq_some_iff.mp ?_) range
      rw [wholeNumber] at whole
      split at whole
      · rename_i m found
        rw [found, Except.ok.inj whole]
      · cases whole
  · rintro (_ | _ | _ | ⟨numeral, range⟩)
    · exact Or.inl ⟨rfl, rfl⟩
    · have given : isUnset (.text s) = false := by
        simpa [isUnset] using numeral.ne_nil
      refine Or.inr ⟨given, ?_, range⟩
      rw [wholeNumber, Decimal.readInt?_eq_some_iff.mpr numeral]

theorem read_number (x : Number) (n : Int) :
    read (.number x) depths = .ok n ↔ Names (.number x) n ∨ Slips (.number x) n := by
  rw [read_eq_ok]
  constructor
  · rintro (⟨unset, -⟩ | ⟨-, whole, range⟩)
    · cases unset
    · cases value : x.value? with
      | none =>
        obtain ⟨fault, failed⟩ := wholeNumber_of_value?_eq_none value
        rw [failed] at whole
        cases whole
      | some q =>
        rw [wholeNumber_of_value? value] at whole
        obtain rfl := Except.ok.inj whole
        have downward := floor_of_inRange range
        rw [downward] at range ⊢
        by_cases same : (⌊q⌋ : ℚ) = q
        · exact Or.inl (.number (value.trans (congrArg some same.symm)) range)
        · exact Or.inr (.fraction value same range)
  · rintro (named | slips)
    · obtain _ | _ | ⟨value, range⟩ := named
      refine Or.inr ⟨rfl, ?_, range⟩
      rw [wholeNumber_of_value? value, Int.floor_intCast, Int.ceil_intCast, ite_self]
    · obtain ⟨value, -, range⟩ := slips
      refine Or.inr ⟨rfl, ?_, range⟩
      rw [wholeNumber_of_value? value, if_pos (nonneg_of_inRange range)]

/-- The reader of ports accepts what names a port, and what slips through. -/
theorem read_eq_ok_iff (written : Json) (n : Int) :
    read written depths = .ok n ↔ Names written n ∨ Slips written n := by
  cases written with
  | number x => exact read_number x n
  | text s =>
    rw [read_text]
    exact (or_iff_left nofun).symm
  | null =>
    rw [read_eq_ok]
    constructor
    · rintro (⟨-, rfl⟩ | ⟨⟨⟩, -⟩)
      exact Or.inl .null
    · rintro (named | slips)
      · cases named
        exact Or.inl ⟨rfl, rfl⟩
      · cases slips
  | bool b =>
    rw [read_eq_ok]
    constructor
    · rintro (⟨⟨⟩, -⟩ | ⟨-, whole, range⟩)
      cases b with
      | true =>
        obtain rfl := Except.ok.inj whole
        exact Or.inr .truth
      | false =>
        obtain rfl := Except.ok.inj whole
        exact absurd range.1 (by decide)
    · rintro (named | slips)
      · cases named
      · cases slips
        exact Or.inr ⟨rfl, rfl, by decide, by decide⟩
  | list _ | object _ =>
    rw [read_eq_ok]
    constructor
    · rintro (⟨⟨⟩, -⟩ | ⟨-, ⟨⟩, -⟩)
    · rintro (named | slips)
      · cases named
      · cases slips

/-! ## 4. What is not accepted -/

/-- A value that was read as a field of a document can be shown, so that only
an infinite number is not refused. -/
theorem infinite_of_field {s : List Char} {fields : List (String × Json)} {key : String}
    {written : Json} {fault : Fault} (document : Json.read s depths = .ok (.object fields))
    (found : Json.field? key fields = some written) (h : Upsets depths written fault) :
    ∃ negative, written = .number (.double (.infinite negative)) ∧ fault = infiniteReport := by
  cases h with
  | infinite negative => exact ⟨negative, rfl, rfl⟩
  | illegible hidden =>
    rw [(Json.legible_field_of_read document found).2] at hidden
    cases hidden

/-- Of what was read as a document of its own, only lists and objects may be
nested too deep to be shown. -/
theorem infinite_of_read {s : List Char} {written : Json} {fault : Fault}
    (document : Json.read s depths = .ok written) (h : Upsets depths written fault) :
    (∃ negative, written = .number (.double (.infinite negative)) ∧ fault = infiniteReport) ∨
      (∃ items, written = .list items) ∨ ∃ fields, written = .object fields := by
  cases h with
  | infinite negative => exact Or.inl ⟨negative, rfl, rfl⟩
  | illegible hidden =>
    obtain ⟨room, one⟩ := Nat.exists_eq_add_one.mpr depths.message_pos
    rw [one] at hidden
    cases written with
    | list items => exact Or.inr (Or.inl ⟨items, rfl⟩)
    | object fields => exact Or.inr (Or.inr ⟨fields, rfl⟩)
    | null => cases hidden
    | bool b => cases hidden
    | text s => cases hidden
    | number x =>
      cases x with
      | double x => cases hidden
      | whole n =>
        -- The room does not matter for a number, as long as there is some.
        have shown := Json.legible_of_read document (depths.reader + 1) (Nat.lt_succ_self _)
        rw [Json.obstacle?_whole] at shown
        rw [Json.obstacle?_whole, shown] at hidden
        cases hidden

/-! ## 5. Ports -/

/-- What comes of a value that should be a port. Accepted is what names a port,
and what slips through, which names none; what is not accepted is refused as
a misconfiguration, except an infinite number and what cannot be shown. No
field of a document that was read cannot be shown. -/
theorem read_admits (depths : Json.Depths) (written : Json) :
    (∀ n, read written depths = .ok n ↔ Names written n ∨ Slips written n) ∧
    (∀ n, Slips written n → ∀ m, ¬ Names written m) ∧
    (∀ p, read written depths = .error p →
      p.Refuses ∨ ∃ fault, p = .fault fault ∧ Upsets depths written fault) ∧
    (∀ fault, Upsets depths written fault → read written depths = .error (.fault fault)) ∧
    (∀ s fields key, Json.read s depths = .ok (.object fields) →
      Json.field? key fields = some written → ∀ fault, Upsets depths written fault →
        ∃ negative, written = .number (.double (.infinite negative)) ∧ fault = infiniteReport) ∧
    (∀ s, Json.read s depths = .ok written → ∀ fault, Upsets depths written fault →
      (∃ negative, written = .number (.double (.infinite negative)) ∧ fault = infiniteReport) ∨
        (∃ items, written = .list items) ∨ ∃ fields, written = .object fields) := by
  have settled := settled_read depths written
  refine ⟨read_eq_ok_iff written, fun n => Slips.not_names, settled.refused, settled.upset, ?_, ?_⟩
  · intro s fields key document found fault
    exact infinite_of_field document found
  · intro s document fault
    exact infinite_of_read document

/-- Twenty-two and a half, as it is read. -/
def brokenPort : Json := .number (.double (.finite false 6333186975989760 (-48)))

theorem slips_brokenPort : Slips brokenPort 22 := by
  have value : (Number.double (.finite false 6333186975989760 (-48))).value? =
      some (45 / 2 : ℚ) := by
    norm_num [Number.value?, Binary64.value?]
  have floor : ⌊(45 / 2 : ℚ)⌋ = 22 := by
    rw [Int.floor_eq_iff]
    norm_num
  have slips := Slips.fraction value (by rw [floor]; norm_num) (by rw [floor, InRange]; omega)
  rwa [floor] at slips

/-- A number with a fraction, and an infinite one. -/
theorem read_admits_fraction :
    Json.read "22.5".toList .usual = .ok brokenPort ∧ Slips brokenPort 22 ∧
      read brokenPort .usual = .ok 22 ∧
      read (.number (.double (.infinite true))) .usual = .error (.fault infiniteReport) := by
  obtain ⟨accepts, -⟩ := read_admits .usual brokenPort
  obtain ⟨-, -, -, upsets, -⟩ := read_admits .usual (.number (.double (.infinite true)))
  exact ⟨rfl, slips_brokenPort, (accepts 22).mpr (Or.inr slips_brokenPort),
    upsets _ (.infinite true)⟩

/-- A number with a fraction and the truth value are accepted although they
name no port, and an infinite number raises what is no misconfiguration. -/
theorem read_slips :
    (read brokenPort .usual = .ok 22 ∧ ∀ n, ¬ Names brokenPort n) ∧
      (read (.bool true) .usual = .ok 1 ∧ ∀ n, ¬ Names (.bool true) n) ∧
      ∃ p, read (.number (.double (.infinite false))) .usual = .error p ∧ ¬ p.Refuses := by
  refine ⟨⟨rfl, slips_brokenPort.not_names⟩, ⟨rfl, Slips.truth.not_names⟩, _, rfl, ?_⟩
  rintro ⟨what, cause, ⟨⟩⟩

end Upkeep.Port
