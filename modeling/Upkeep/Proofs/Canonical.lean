/-
Upkeep.Proofs.Canonical — the form in which doubles are given.

A finite double is given by a significand and an exponent, and there is one
such form for each (`Binary64.Canonical`). Rounding yields it
(`canonical_nearest`), so every double anywhere in what is read is canonical
(`Json.Canonical`). A `Json.Document` carries this with it, and every value
that is read is one (`Json.exists_document_of_read`).
-/
import Mathlib.Algebra.Order.Field.Power
import Mathlib.Algebra.Order.Field.Rat
import Mathlib.Tactic.Linarith
import Mathlib.Tactic.Positivity
import Mathlib.Tactic.Ring
import Upkeep.Proofs.Legible

namespace Upkeep.Decimal

/-! ## 1. Powers on both sides -/

theorem power_pos {base : Nat} (h : 0 < base) (e : Int) : 0 < power base e := Nat.pow_pos h

theorem power_eq_zpow_mul {base : Nat} (h : 0 < base) (e : Int) :
    (power base e : ℚ) = (base : ℚ) ^ e * power base (-e) := by
  have unit : (base : ℚ) ≠ 0 := by exact_mod_cast h.ne'
  unfold power
  rcases Int.le_total 0 e with up | down
  · obtain ⟨k, rfl⟩ := Int.eq_ofNat_of_zero_le up
    simp
  · obtain ⟨k, hk⟩ := Int.eq_ofNat_of_zero_le (Int.neg_nonneg_of_nonpos down)
    obtain rfl : e = -k := by omega
    simp [unit]

/-- A comparison of whole numbers, read as one of fractions. -/
theorem mul_power_lt_iff {base : Nat} (h : 0 < base) {a c : Nat} {e : Int} :
    a * power base (-e) < c * power base e ↔ (a : ℚ) < c * (base : ℚ) ^ e := by
  have pos : (0 : ℚ) < power base (-e) := by exact_mod_cast power_pos h (-e)
  rw [← Nat.cast_lt (α := ℚ), Nat.cast_mul, Nat.cast_mul, power_eq_zpow_mul h e, ← mul_assoc,
    mul_lt_mul_iff_left₀ pos]

theorem lt_mul_power_iff {base : Nat} (h : 0 < base) {a c : Nat} {e : Int} :
    c * power base e < a * power base (-e) ↔ (c : ℚ) * (base : ℚ) ^ e < a := by
  have pos : (0 : ℚ) < power base (-e) := by exact_mod_cast power_pos h (-e)
  rw [← Nat.cast_lt (α := ℚ), Nat.cast_mul, Nat.cast_mul, power_eq_zpow_mul h e, ← mul_assoc,
    mul_lt_mul_iff_left₀ pos]

/-- The power next below a number and the one next above it. -/
def Between (base : ℚ) (e : Int) (n : Nat) : Prop := base ^ e ≤ n ∧ (n : ℚ) < base ^ (e + 1)

/-- A quotient lies near the power that the exponents of its parts suggest. -/
theorem Between.quotient {base : ℚ} (hb : 0 < base) {a b : Int} {n d : Nat}
    (hn : Between base a n) (hd : Between base b d) :
    (d : ℚ) * base ^ (a - b - 1) < n ∧ (n : ℚ) < d * base ^ (a - b + 1) := by
  obtain ⟨lowN, highN⟩ := hn
  obtain ⟨lowD, highD⟩ := hd
  constructor
  · calc (d : ℚ) * base ^ (a - b - 1)
        < base ^ (b + 1) * base ^ (a - b - 1) := by gcongr
      _ = base ^ a := by
        rw [← zpow_add₀ hb.ne']
        congr 1
        ring
      _ ≤ n := lowN
  · calc (n : ℚ) < base ^ (a + 1) := highN
      _ = base ^ b * base ^ (a - b + 1) := by
        rw [← zpow_add₀ hb.ne']
        congr 1
        ring
      _ ≤ d * base ^ (a - b + 1) := by gcongr

/-! ## 2. Rounding -/

namespace Binary64

/-- The form in which every double is given: a finite one has a significand
of at most 53 bits, of fewer only at the smallest exponent, and an exponent in
range. -/
def Canonical : Binary64 → Prop
  | .nan | .infinite _ => True
  | .finite _ significand exponent =>
    significand < 2 ^ 53 ∧ (significand < 2 ^ 52 → exponent = minExponent) ∧
      minExponent ≤ exponent ∧ exponent ≤ maxExponent

theorem canonical_zero (negative : Bool) : (finite negative 0 minExponent).Canonical :=
  ⟨by decide, fun _ => rfl, by decide, by decide⟩

/-- Rounding does not pass a whole number. -/
theorem roundDiv_le {n d k : Nat} (hd : 0 < d) (h : n ≤ k * d) : roundDiv n d ≤ k := by
  have whole : n / d ≤ k := Nat.div_le_of_le_mul (by rwa [Nat.mul_comm] at h)
  have parts := Nat.div_add_mod n d
  unfold roundDiv
  dsimp only
  rcases Nat.lt_or_eq_of_le whole with below | reached
  · split_ifs <;> omega
  · have rest : n % d = 0 := by
      rw [reached, Nat.mul_comm] at parts
      omega
    simp [rest, hd, reached]

theorem le_roundDiv {n d k : Nat} (hd : 0 < d) (h : k * d ≤ n) : k ≤ roundDiv n d := by
  have whole : k ≤ n / d := (Nat.le_div_iff_mul_le hd).mpr h
  unfold roundDiv
  dsimp only
  split_ifs <;> omega

theorem between_log2 {n : Nat} (h : 0 < n) : Between 2 n.log2 n := by
  constructor
  · exact_mod_cast Nat.log2_self_le h.ne'
  · exact_mod_cast Nat.lt_log2_self

/-- The power of two next below a quotient. -/
theorem floorLog2_bounds {n d : Nat} (hn : 0 < n) (hd : 0 < d) :
    (d : ℚ) * 2 ^ floorLog2 n d ≤ n ∧ (n : ℚ) < d * 2 ^ (floorLog2 n d + 1) := by
  obtain ⟨low, high⟩ := (between_log2 hn).quotient (by norm_num) (between_log2 hd)
  unfold floorLog2
  dsimp only
  split
  · rename_i reached
    rw [← Nat.not_lt, mul_power_lt_iff (by decide), not_lt] at reached
    exact ⟨by exact_mod_cast reached, high⟩
  · rename_i missed
    rw [Nat.not_le, mul_power_lt_iff (by decide)] at missed
    rw [sub_add_cancel]
    exact ⟨low.le, by exact_mod_cast missed⟩

/-- At an exponent that is high enough, a rounded quotient has at most 53
bits, and it does not have fewer if the exponent is no higher than that. -/
theorem roundDiv_bounds {n d : Nat} (hn : 0 < n) (hd : 0 < d) {e : Int}
    (room : floorLog2 n d - 52 ≤ e) :
    roundDiv (n * power 2 (-e)) (d * power 2 e) ≤ 2 ^ 53 ∧
      (e = floorLog2 n d - 52 → 2 ^ 52 ≤ roundDiv (n * power 2 (-e)) (d * power 2 e)) := by
  obtain ⟨low, high⟩ := floorLog2_bounds hn hd
  have grid : 0 < d * power 2 e := Nat.mul_pos hd (power_pos (by decide) e)
  constructor
  · refine roundDiv_le grid (Nat.le_of_lt ?_)
    rw [← Nat.mul_assoc, mul_power_lt_iff (by decide)]
    have raised : (2 : ℚ) ^ (floorLog2 n d + 1) ≤ 2 ^ (e + 53) :=
      zpow_le_zpow_right₀ (by norm_num) (by omega)
    calc (n : ℚ) < d * 2 ^ (floorLog2 n d + 1) := high
      _ ≤ d * 2 ^ (e + 53) := mul_le_mul_of_nonneg_left raised (by positivity)
      _ = (2 ^ 53 * d : Nat) * (2 : Nat) ^ e := by
        rw [zpow_add₀ (by norm_num)]
        push_cast
        ring
  · intro tight
    refine le_roundDiv grid (Nat.not_lt.mp ?_)
    rw [← Nat.mul_assoc, mul_power_lt_iff (by decide), not_lt]
    calc ((2 ^ 52 * d : Nat) : ℚ) * (2 : Nat) ^ e = d * 2 ^ (e + 52) := by
          rw [zpow_add₀ (by norm_num)]
          push_cast
          ring
      _ = d * 2 ^ floorLog2 n d := by rw [tight, sub_add_cancel]
      _ ≤ n := low

/-- What is rounded is canonical. -/
theorem canonical_nearest (negative : Bool) (n : Nat) {d : Nat} (hd : 0 < d) :
    (nearest negative n d).Canonical := by
  rcases Nat.eq_zero_or_pos n with rfl | hn
  · exact canonical_zero negative
  obtain ⟨top, bottom⟩ := roundDiv_bounds hn hd (le_max_left _ minExponent)
  have least : minExponent ≤ max (floorLog2 n d - 52) minExponent := le_max_right ..
  have either := max_choice (floorLog2 n d - 52) minExponent
  unfold nearest
  rw [if_neg hn.ne']
  dsimp only
  generalize max (floorLog2 n d - 52) minExponent = e at top bottom least either ⊢
  generalize roundDiv (n * power 2 (-e)) (d * power 2 e) = s at top bottom ⊢
  have full : power 2 53 = 2 ^ 53 ∧ power 2 52 = 2 ^ 52 := ⟨rfl, rfl⟩
  rw [full.1, full.2]
  -- one more bit than there is room for is a power of two, so nothing is lost by the carry
  by_cases carried : s = 2 ^ 53
  · rw [beq_iff_eq.mpr carried, if_pos rfl, if_pos rfl]
    split
    · trivial
    · exact ⟨by decide, fun short => absurd short (by decide), by omega, by omega⟩
  · rw [beq_eq_false_iff_ne.mpr carried, if_neg Bool.false_ne_true, if_neg Bool.false_ne_true]
    split
    · trivial
    · refine ⟨by omega, fun short => ?_, least, by omega⟩
      exact either.resolve_left fun tight => by
        have := bottom tight
        omega

theorem canonical_ofDecimal (negative : Bool) (digits : Nat) (exponent : Int) :
    (ofDecimal negative digits exponent).Canonical := by
  unfold ofDecimal
  dsimp only
  split_ifs
  · exact canonical_zero negative
  · trivial
  · exact canonical_zero negative
  · exact canonical_nearest negative _ (power_pos (by decide) _)

end Binary64

end Upkeep.Decimal

namespace Upkeep.Json

open Decimal (Binary64 Number)

/-! ## 3. Documents -/

/-- Every double in the document is canonical. -/
inductive Canonical : Json → Prop
  | null : Canonical .null
  | bool (b : Bool) : Canonical (.bool b)
  | whole (n : Int) : Canonical (.number (.whole n))
  | double {x : Binary64} (h : x.Canonical) : Canonical (.number (.double x))
  | text (s : String) : Canonical (.text s)
  | list {items : List Json} (h : ∀ item ∈ items, Canonical item) : Canonical (.list items)
  | object {fields : List (String × Json)} (h : ∀ f ∈ fields, Canonical f.2) :
    Canonical (.object fields)

theorem canonical_of_readNumber? {s rest : List Char} {n : Number}
    (h : readNumber? s = some (.ok (n, rest))) : Canonical (.number n) := by
  unfold readNumber? at h
  split at h
  split at h
  · cases h
  · split at h
    split at h
    dsimp only at h
    split at h
    · split at h
      · cases h
      · obtain ⟨rfl, -⟩ := Prod.mk.inj (Except.ok.inj (Option.some.inj h))
        exact .whole _
    · obtain ⟨rfl, -⟩ := Prod.mk.inj (Except.ok.inj (Option.some.inj h))
      exact .double (Binary64.canonical_ofDecimal _ _ _)

theorem canonical_readScalar {c after : Cursor} {j : Json} (h : readScalar c = .ok (j, after)) :
    j.Canonical := by
  rcases readScalar_eq_ok h with ⟨k, hk, rfl⟩ | ⟨n, rest, read, rfl⟩
  · simp only [constants, List.mem_cons, List.not_mem_nil, or_false] at hk
    rcases hk with rfl | rfl | rfl | rfl | rfl | rfl
    · exact .null
    · exact .bool true
    · exact .bool false
    · exact .double trivial
    · exact .double trivial
    · exact .double trivial
  · exact canonical_of_readNumber? read

theorem fromParts_canonical : FromParts fun _ => Canonical :=
  ⟨fun _ => .text, fun read _ => canonical_readScalar read, .list, .object⟩

/-- A document as a reader gives it: each of its doubles is in the one form
that it has. -/
structure Document where
  value : Json
  canonical : value.Canonical

/-- What is read is a document. -/
theorem exists_document_of_read {depths : Depths} {s : List Char} {j : Json}
    (h : read s depths = .ok j) : ∃ document : Document, document.value = j :=
  ⟨⟨j, fromParts_canonical.of_read h⟩, rfl⟩

end Upkeep.Json
