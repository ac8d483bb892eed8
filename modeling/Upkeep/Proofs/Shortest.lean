/-
Upkeep.Proofs.Shortest — every double can be written.

The search for the fewest digits that read back ends at seventeen of them.
That is enough (`isSome_shortest?`): decimals with seventeen digits lie so
close together around a double (`Binary64.Canonical`) that one of the two next
to it rounds to it. So the text of a double is never empty
(`Binary64.text_ne_empty`).
-/
import Upkeep.Proofs.Canonical

namespace Upkeep.Decimal

/-! ## 1. The first digit -/

theorem lt_pow_digitCount (n : Nat) : n < 10 ^ Binary64.digitCount n :=
  (Nat.length_toDigits_le_iff (by decide) (List.length_pos_iff.mpr Nat.toDigits_ne_nil)).mp le_rfl

theorem pow_digitCount_le {n : Nat} (h : 0 < n) : 10 ^ (Binary64.digitCount n - 1) ≤ n := by
  rcases Nat.eq_zero_or_pos (Binary64.digitCount n - 1) with one | more
  · rw [one]
    exact h
  · have fewer : ¬ Binary64.digitCount n ≤ Binary64.digitCount n - 1 := by omega
    unfold Binary64.digitCount at fewer more ⊢
    rw [Nat.length_toDigits_le_iff (by decide) more] at fewer
    exact Nat.not_lt.mp fewer

namespace Interval

variable {i : Interval}

/-- The value has a digit other than zero before the point position. -/
theorem mul_zpow_pointPosition_le (hv : 0 < i.value) :
    (i.denominator : ℚ) * 10 ^ (i.pointPosition - 1) ≤ i.value := by
  unfold pointPosition
  dsimp only
  generalize hg : (Binary64.digitCount i.value : Int) - Binary64.digitCount i.denominator = guess
  split
  · -- the guess is never too high by more than one
    have below : (i.denominator : ℚ) ≤ 10 ^ (Binary64.digitCount i.denominator : Int) := by
      exact_mod_cast (lt_pow_digitCount i.denominator).le
    have above : (10 : ℚ) ^ ((Binary64.digitCount i.value : Int) - 1) ≤ i.value := by
      have some : 1 ≤ Binary64.digitCount i.value := List.length_pos_iff.mpr Nat.toDigits_ne_nil
      rw [← Nat.cast_pred some]
      exact_mod_cast pow_digitCount_le hv
    calc (i.denominator : ℚ) * 10 ^ (guess - 1)
        ≤ 10 ^ (Binary64.digitCount i.denominator : Int) * 10 ^ (guess - 1) := by gcongr
      _ = 10 ^ ((Binary64.digitCount i.value : Int) - 1) := by
        rw [← zpow_add₀ (by norm_num), ← hg]
        congr 1
        ring
      _ ≤ i.value := above
  · rename_i reached
    rw [mul_power_lt_iff (by decide), not_lt] at reached
    rw [add_sub_cancel_right]
    exact_mod_cast reached

/-! ## 2. The two neighbours -/

theorem contains_of_lt {d : Scaled}
    (low : (i.low : ℚ) < d.digits * i.denominator * 10 ^ d.exponent)
    (high : d.digits * i.denominator * 10 ^ d.exponent < (i.high : ℚ)) : i.contains d = true := by
  have below : i.low * power 10 (-d.exponent) < d.digits * i.denominator * power 10 d.exponent :=
    (mul_power_lt_iff (by decide)).mpr (by exact_mod_cast low)
  have above : d.digits * i.denominator * power 10 d.exponent < i.high * power 10 (-d.exponent) :=
    (lt_mul_power_iff (by decide)).mpr (by exact_mod_cast high)
  unfold contains scale
  rw [Nat.mul_right_comm] at below above
  simp [below, above, below.le, above.le]

/-- The value lies between its two neighbours on a grid. -/
theorem neighbours (hd : 0 < i.denominator) (e : Int) :
    let n := i.value * power 10 (-e) / (i.denominator * power 10 e)
    (n : ℚ) * i.denominator * 10 ^ e ≤ i.value ∧
      (i.value : ℚ) < (n + 1) * i.denominator * 10 ^ e := by
  intro n
  have grid : 0 < i.denominator * power 10 e := Nat.mul_pos hd (power_pos (by decide) e)
  have below : n * (i.denominator * power 10 e) ≤ i.value * power 10 (-e) := Nat.div_mul_le_self ..
  have above : i.value * power 10 (-e) < (n + 1) * (i.denominator * power 10 e) :=
    Nat.lt_mul_of_div_lt (Nat.lt_succ_self n) grid
  rw [← Nat.mul_assoc] at below above
  constructor
  · rw [← Nat.not_lt, mul_power_lt_iff (by decide), not_lt] at below
    exact_mod_cast below
  · rw [mul_power_lt_iff (by decide)] at above
    exact_mod_cast above

/-- If the grid is finer than the interval, a neighbour rounds to the value. -/
theorem isSome_neighbour? {count : Nat} (hd : 0 < i.denominator) (inner : i.low < i.value)
    (outer : i.value < i.high)
    (fine : (i.denominator : ℚ) * 10 ^ (i.pointPosition - count) < i.high - i.low) :
    (i.neighbour? count).isSome = true := by
  obtain ⟨below, above⟩ := i.neighbours hd (i.pointPosition - count)
  unfold neighbour?
  dsimp only
  generalize i.value * power 10 (-(i.pointPosition - count)) /
    (i.denominator * power 10 (i.pointPosition - count)) = n at below above ⊢
  have low : (i.low : ℚ) < i.value := by exact_mod_cast inner
  have high : (i.value : ℚ) < i.high := by exact_mod_cast outer
  have reached : i.contains ⟨n, i.pointPosition - count⟩ = true ∨
      i.contains ⟨n + 1, i.pointPosition - count⟩ = true := by
    by_cases near : (i.low : ℚ) < n * i.denominator * 10 ^ (i.pointPosition - count)
    · exact Or.inl (contains_of_lt near (by linarith))
    · refine Or.inr (contains_of_lt ?_ ?_)
      · push_cast
        linarith
      · push_cast
        linarith
  cases hb : i.contains ⟨n, i.pointPosition - count⟩ with
  | true =>
    cases i.contains ⟨n + 1, i.pointPosition - count⟩ with
    | true => dsimp only; split_ifs <;> rfl
    | false => rfl
  | false =>
    rw [hb] at reached
    rw [reached.resolve_left (by simp)]
    rfl

/-- In an interval that is not too narrow beside its value, a grid of so many
more digits is fine enough. -/
theorem fine_of_wide (more : Nat) (hv : 0 < i.value)
    (wide : (i.value : ℚ) < (i.high - i.low) * 10 ^ more) :
    (i.denominator : ℚ) * 10 ^ (i.pointPosition - (1 + more : Nat)) < i.high - i.low := by
  have finer : (i.denominator : ℚ) * 10 ^ (i.pointPosition - (1 + more : Nat)) * 10 ^ more =
      i.denominator * 10 ^ (i.pointPosition - 1) := by
    rw [mul_assoc, ← zpow_natCast, ← zpow_add₀ (by norm_num)]
    congr 2
    push_cast
    ring
  refine lt_of_mul_lt_mul_right ?_ (by positivity : (0 : ℚ) ≤ 10 ^ more)
  rw [finer]
  exact lt_of_le_of_lt (mul_zpow_pointPosition_le hv) wide

theorem isSome_search_of {more count : Nat} (h : (i.neighbour? (count + more)).isSome = true) :
    (i.search more count).isSome = true := by
  induction more generalizing count with
  | zero => exact h
  | succ more ih =>
    unfold search
    cases i.neighbour? count with
    | some d => rfl
    | none => exact ih (by rwa [Nat.add_right_comm, Nat.add_assoc])

end Interval

/-! ## 3. Seventeen digits -/

/-- How far the interval of a number reaches, in quarters of the distance to
the next one: two up, and two down, or one if the number is a power of two. -/
theorem Interval.exists_reach (significand : Nat) (exponent : Int) :
    ∃ down : Nat, (down = 1 ∧ significand = 2 ^ 52 ∨ down = 2) ∧
      (of significand exponent).low = (4 * significand - down) * power 2 exponent := by
  unfold of
  dsimp only
  split
  · rename_i edge
    rw [Bool.and_eq_true, beq_iff_eq] at edge
    exact ⟨1, Or.inl ⟨rfl, edge.1⟩, rfl⟩
  · exact ⟨2, Or.inr rfl, rfl⟩

/-- Seventeen digits are enough for every double. -/
theorem isSome_shortest? {significand : Nat} {exponent : Int} (hs : 0 < significand)
    (bits : significand < 2 ^ 53) : (shortest? significand exponent).isSome = true := by
  have up : 0 < power 2 exponent := power_pos (by decide) exponent
  obtain ⟨down, reach, low⟩ := Interval.exists_reach significand exponent
  have high : (Interval.of significand exponent).high = (4 * significand + 2) * power 2 exponent :=
    rfl
  have value : (Interval.of significand exponent).value = 4 * significand * power 2 exponent := rfl
  have positive : 0 < (Interval.of significand exponent).denominator :=
    Nat.mul_pos (by decide) (power_pos (by decide) _)
  generalize power 2 exponent = unit at up low high value
  refine Interval.isSome_search_of (Interval.isSome_neighbour? positive ?_ ?_ ?_)
  · rw [low, value]
    exact Nat.mul_lt_mul_of_pos_right (by omega) up
  · rw [high, value]
    exact Nat.mul_lt_mul_of_pos_right (by omega) up
  · refine Interval.fine_of_wide 16 (by rw [value]; exact Nat.mul_pos (by omega) up) ?_
    have span : ((Interval.of significand exponent).high : ℚ) -
        (Interval.of significand exponent).low = (2 + down) * unit := by
      rw [low, high, Nat.cast_mul, Nat.cast_mul, Nat.cast_sub (by omega)]
      push_cast
      ring
    -- 2 ^ 53 < 10 ^ 16, and where the interval is narrower the significand is 2 ^ 52
    have short : 4 * significand * unit < (2 + down) * 10 ^ 16 * unit :=
      Nat.mul_lt_mul_of_pos_right (by omega) up
    calc ((Interval.of significand exponent).value : ℚ)
        < (2 + down) * 10 ^ 16 * unit := by
          rw [value]
          exact_mod_cast short
      _ = (2 + down) * unit * 10 ^ 16 := mul_right_comm ..
      _ = _ := by rw [span]

/-! ## 4. The text of a double -/

theorem dropTrailingZeros_ne_nil (digits : List Char) : dropTrailingZeros digits ≠ [] := by
  unfold dropTrailingZeros
  split
  · simp
  · assumption

theorem positional_ne_nil {digits : List Char} (h : digits ≠ []) (point : Int) :
    positional digits point ≠ [] := by
  unfold positional
  split
  · simp
  · split <;> simp [h]

theorem scientific_ne_nil {digits : List Char} (h : digits ≠ []) (point : Int) :
    scientific digits point ≠ [] := by
  unfold scientific
  split
  · exact absurd rfl h
  · simp
  · simp

/-- A double is written with one character at least. -/
theorem Binary64.text_ne_empty {x : Binary64} (h : x.Canonical) : x.text ≠ "" := by
  cases x with
  | nan => decide
  | infinite negative => cases negative <;> decide
  | finite negative significand exponent =>
    have written : magnitudeText significand exponent ≠ [] := by
      unfold magnitudeText
      split
      · simp
      · rename_i nonzero
        have some : (shortest? significand exponent).isSome = true :=
          isSome_shortest? (Nat.pos_of_ne_zero nonzero) h.1
        obtain ⟨d, found⟩ := Option.isSome_iff_exists.mp some
        rw [found]
        dsimp only
        split
        · exact positional_ne_nil (dropTrailingZeros_ne_nil _) _
        · exact scientific_ne_nil (dropTrailingZeros_ne_nil _) _
    intro empty
    have none := congrArg String.toList empty
    simp [text, written] at none

end Upkeep.Decimal
