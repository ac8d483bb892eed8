/-
Upkeep.Proofs.Numerals — what numbers in a text and doubles stand for.

A numeral is one sign at most and decimal digits of any script, with single
underscores between the digits and white space around it (`Numeral`); the
reader of whole numbers takes numerals of at most `digitLimit` digits and
nothing else (`readInt?_eq_some_iff`). A double stands for a rational number
unless it is not a number or infinite (`Binary64.value?`), and its whole part
is that number rounded toward zero (`whole_of_value?`).
-/
import Mathlib.Data.Rat.Floor
import Upkeep.Decimal.Notation
import Upkeep.Decimal.Reading

namespace Upkeep.Decimal

open Upkeep.Text

/-! ## 1. Runs of digits -/

/-- Digits with single underscores between them, and what they are worth. -/
inductive DigitRun : List Char → List Nat → Prop
  | last {c : Char} {d : Nat} : digitValue? c = some d → DigitRun [c] [d]
  | next {c : Char} {d : Nat} {s : List Char} {ds : List Nat} :
      digitValue? c = some d → DigitRun s ds → DigitRun (c :: s) (d :: ds)
  | parted {c : Char} {d : Nat} {s : List Char} {ds : List Nat} :
      digitValue? c = some d → DigitRun s ds → DigitRun (c :: '_' :: s) (d :: ds)

theorem digitRun_of_digitRun? {s : List Char} {ds : List Nat} (h : digitRun? s = some ds) :
    DigitRun s ds := by
  fun_induction digitRun? s generalizing ds with
  | case1 => cases h
  | case2 c =>
    obtain ⟨d, worth, rfl⟩ := Option.map_eq_some_iff.mp h
    exact .last worth
  | case3 c rest ih =>
    obtain ⟨d, worth, h⟩ := Option.bind_eq_some_iff.mp h
    obtain ⟨ds', more, h⟩ := Option.bind_eq_some_iff.mp h
    obtain rfl := Option.some.inj h
    exact .parted worth (ih more)
  | case4 c rest _ _ ih =>
    obtain ⟨d, worth, h⟩ := Option.bind_eq_some_iff.mp h
    obtain ⟨ds', more, h⟩ := Option.bind_eq_some_iff.mp h
    obtain rfl := Option.some.inj h
    exact .next worth (ih more)

/-- A run starts with a digit. -/
theorem DigitRun.head {s : List Char} {ds : List Nat} (h : DigitRun s ds) :
    ∃ c rest d, s = c :: rest ∧ digitValue? c = some d := by
  cases h with
  | last worth => exact ⟨_, _, _, rfl, worth⟩
  | next worth _ => exact ⟨_, _, _, rfl, worth⟩
  | parted worth _ => exact ⟨_, _, _, rfl, worth⟩

theorem digitRun?_of_digitRun {s : List Char} {ds : List Nat} (h : DigitRun s ds) :
    digitRun? s = some ds := by
  induction h with
  | last worth => rw [digitRun?, worth]; rfl
  | @next c d s ds worth run ih =>
    obtain ⟨c', rest, d', rfl, digit⟩ := run.head
    have other : c' ≠ '_' := by
      rintro rfl
      cases digit
    rw [digitRun?, worth, ih]
    · rfl
    · simp
    · intro rest' same
      exact other (List.cons.inj same).1
  | parted worth _ ih => rw [digitRun?, worth, ih]; rfl

/-- The reader of runs takes runs and nothing else. -/
theorem digitRun?_eq_some_iff {s : List Char} {ds : List Nat} :
    digitRun? s = some ds ↔ DigitRun s ds :=
  ⟨digitRun_of_digitRun?, digitRun?_of_digitRun⟩

/-! ## 2. Margins -/

/-- No blank is a digit. -/
theorem digitValue?_of_isBlank {c : Char} (h : isBlank c = true) : digitValue? c = none := by
  simp only [isBlank, Bool.or_eq_true, Bool.and_eq_true, decide_eq_true_eq, beq_iff_eq] at h
  unfold digitValue?
  split
  · rw [if_neg (by omega)]
  · rw [Option.map_eq_none_iff, List.find?_eq_none]
    simp only [digitZeros, List.mem_cons, List.not_mem_nil, or_false, Bool.and_eq_true,
      decide_eq_true_eq]
    intro z hz
    omega

/-- Nothing inside a numeral is a margin. -/
theorem isMargin_of_digit {c : Char} {d : Nat} (h : digitValue? c = some d) :
    isMargin c = false := by
  unfold isMargin
  cases blank : isBlank c with
  | false => rfl
  | true => rw [digitValue?_of_isBlank blank] at h; cases h

theorem DigitRun.not_margin {s : List Char} {ds : List Nat} (h : DigitRun s ds) :
    ∀ c ∈ s, isMargin c = false := by
  induction h with
  | last worth => simpa using isMargin_of_digit worth
  | next worth _ ih => exact List.forall_mem_cons.mpr ⟨isMargin_of_digit worth, ih⟩
  | parted worth _ ih =>
    exact List.forall_mem_cons.mpr ⟨isMargin_of_digit worth,
      List.forall_mem_cons.mpr ⟨by decide, ih⟩⟩

/-- A text without margins, with margins around it, is what trimming leaves. -/
theorem trimMargin_append {before core after : List Char}
    (inner : ∀ c ∈ core, isMargin c = false) (hb : ∀ c ∈ before, isMargin c = true)
    (ha : ∀ c ∈ after, isMargin c = true) : trimMargin (before ++ core ++ after) = core := by
  refine trimmed_iff.mp (.intro hb ?_ ?_ ha)
  · intro c hc
    exact inner c (List.mem_of_mem_head? hc)
  · intro c hc
    exact inner c (List.mem_of_getLast? hc)

/-- Trimming takes margins off at both ends. -/
theorem exists_eq_trimMargin (s : List Char) : ∃ before after,
    s = before ++ trimMargin s ++ after ∧ (∀ c ∈ before, isMargin c = true) ∧
      ∀ c ∈ after, isMargin c = true := by
  have left : Trimmed isMargin s (trimMargin s) := trimmed_iff.mpr rfl
  generalize trimMargin s = core at left ⊢
  obtain ⟨hb, -, -, ha⟩ := left
  exact ⟨_, _, rfl, hb, ha⟩

/-! ## 3. Numerals -/

/-- What may stand in front of digits, and whether it makes the number
negative. -/
inductive Sign : List Char → Bool → Prop
  | none : Sign [] false
  | plus : Sign ['+'] false
  | minus : Sign ['-'] true

/-- A numeral and its number: one sign at most, and digits, with margins
around them, but not more digits than are read. -/
inductive Numeral : List Char → Int → Prop
  | intro {before sign run after : List Char} {negative : Bool} {digits : List Nat} :
      (∀ c ∈ before, isMargin c = true) → Sign sign negative → DigitRun run digits →
      digits.length ≤ digitLimit → (∀ c ∈ after, isMargin c = true) →
      Numeral (before ++ (sign ++ run) ++ after)
        (if negative then -(ofDigits digits : Int) else ofDigits digits)

theorem Numeral.ne_nil {s : List Char} {n : Int} (h : Numeral s n) : s ≠ [] := by
  obtain ⟨-, -, run, -, -⟩ := h
  obtain ⟨c, rest, d, rfl, -⟩ := run.head
  simp

theorem sign_splitSign (s : List Char) :
    ∃ sign, Sign sign (splitSign s).1 ∧ s = sign ++ (splitSign s).2 := by
  unfold splitSign
  split
  · exact ⟨_, .minus, rfl⟩
  · exact ⟨_, .plus, rfl⟩
  · exact ⟨_, .none, rfl⟩

theorem splitSign_of_sign {sign run : List Char} {negative : Bool} {digits : List Nat}
    (h : Sign sign negative) (hr : DigitRun run digits) :
    splitSign (sign ++ run) = (negative, run) := by
  cases h with
  | plus => rfl
  | minus => rfl
  | none =>
    obtain ⟨c, rest, d, rfl, digit⟩ := hr.head
    rw [List.nil_append, splitSign]
    · rintro rest' ⟨⟩
      cases digit
    · rintro rest' ⟨⟩
      cases digit

theorem Sign.not_margin {sign : List Char} {negative : Bool} (h : Sign sign negative) :
    ∀ c ∈ sign, isMargin c = false := by
  cases h with
  | none => exact fun c hc => absurd hc List.not_mem_nil
  | plus => exact List.forall_mem_singleton.mpr rfl
  | minus => exact List.forall_mem_singleton.mpr rfl

/-- The reader of whole numbers takes numerals and nothing else. -/
theorem readInt?_eq_some_iff {s : String} {n : Int} :
    readInt? s = some n ↔ Numeral s.toList n := by
  constructor
  · intro h
    unfold readInt? at h
    obtain ⟨before, after, same, hb, ha⟩ := exists_eq_trimMargin s.toList
    generalize trimMargin s.toList = core at h same
    obtain ⟨sign, signed, parted⟩ := sign_splitSign core
    obtain ⟨digits, run, h⟩ := Option.bind_eq_some_iff.mp h
    dsimp only at h
    split at h
    · cases h
    · rename_i short
      obtain rfl := Option.some.inj h
      have written : s.toList = before ++ (sign ++ (splitSign core).2) ++ after := by
        rw [← parted]
        exact same
      rw [written]
      exact .intro hb signed (digitRun?_eq_some_iff.mp run) (Nat.not_lt.mp short) ha
  · intro h
    generalize same : s.toList = text at h
    obtain ⟨hb, signed, run, short, ha⟩ := h
    rename_i before sign written after negative digits
    have core : trimMargin s.toList = sign ++ written := by
      rw [same]
      refine trimMargin_append ?_ hb ha
      intro c hc
      rcases List.mem_append.mp hc with hc | hc
      · exact signed.not_margin c hc
      · exact run.not_margin c hc
    unfold readInt?
    rw [core, splitSign_of_sign signed run]
    dsimp only
    rw [digitRun?_eq_some_iff.mpr run]
    show (if digits.length > digitLimit then _ else _) = _
    rw [if_neg (Nat.not_lt.mpr short)]
    rfl

/-! ## 4. Doubles -/

namespace Binary64

/-- The number that a double stands for, if it is finite. -/
def value? : Binary64 → Option ℚ
  | .nan => none
  | .infinite _ => none
  | .finite negative significand exponent =>
    some ((if negative then -1 else 1) * (significand * 2 ^ exponent))

theorem magnitude_eq (s : Nat) (e : Int) :
    (s * 2 ^ e : ℚ) = (s * power 2 e : Nat) / (power 2 (-e) : Nat) := by
  unfold power
  rcases Int.le_total 0 e with up | down
  · obtain ⟨k, rfl⟩ := Int.eq_ofNat_of_zero_le up
    simp
  · obtain ⟨k, hk⟩ := Int.eq_ofNat_of_zero_le (Int.neg_nonneg_of_nonpos down)
    obtain rfl : e = -k := by omega
    simp [div_eq_mul_inv]

/-- The whole part of what a double stands for, toward zero. -/
theorem whole_of_value? {x : Binary64} {q : ℚ} (h : x.value? = some q) :
    x.whole = .ok (if 0 ≤ q then ⌊q⌋ else ⌈q⌉) := by
  cases x with
  | nan => cases h
  | infinite negative => cases h
  | finite negative s e =>
    have floor : ⌊(s * 2 ^ e : ℚ)⌋ = ((s * power 2 e / power 2 (-e) : Nat) : Int) := by
      rw [magnitude_eq, Rat.floor_natCast_div_natCast, Int.natCast_div]
    have above : (0 : ℚ) ≤ s * 2 ^ e := by
      rw [magnitude_eq]
      positivity
    obtain rfl := Option.some.inj h
    dsimp only [whole]
    rw [← floor]
    generalize (s * 2 ^ e : ℚ) = y at above
    cases negative with
    | false => simp [above]
    | true =>
      by_cases zero : y = 0
      · simp [zero]
      · have below : ¬ 0 ≤ -y := by
          rw [not_le, neg_lt_zero]
          exact lt_of_le_of_ne above (Ne.symm zero)
        simp [below, Int.ceil_neg]

end Binary64

/-- What a number stands for. -/
def Number.value? : Number → Option ℚ
  | .whole n => some n
  | .double x => x.value?

end Upkeep.Decimal
