/-
This file says which quotients are rounded to a given number.
They reach from halfway to the next smaller number up to halfway to the next greater one, and the
two halfway points belong to them exactly when the significand is even.
-/

import TableStore.Proofs.Binary.Rounding

namespace TableStore.Binary

variable {format : Format} {x : ℚ} {significand other : ℕ} {exponent place : ℤ}

/-- The next smaller number is at half the usual distance where the exponent changes. -/
def lowerMidpoint (format : Format) (significand : ℕ) (exponent : ℤ) : ℚ :=
  if significand = Nat.pow 2 (format.precision - 1) ∧ exponent ≠ format.leastExponent then
    (significand - 1 / 4) * 2 ^ exponent
  else (significand - 1 / 2) * 2 ^ exponent

/-- Halfway to the next greater number. -/
def upperMidpoint (significand : ℕ) (exponent : ℤ) : ℚ := (significand + 1 / 2) * 2 ^ exponent

/-- The significand stays, or its digit too many goes to the exponent. -/
theorem carried_eq_finite {negative : Bool} {canonical : format.Canonical other place}
    (same : carried format negative significand exponent =
      .finite negative other place canonical) :
    significand = other ∧ exponent = place ∨
      significand = Nat.pow 2 format.precision ∧ other = Nat.pow 2 (format.precision - 1) ∧
        place = exponent + 1 := by
  unfold carried at same
  split at same
  · rename_i full
    obtain ⟨rfl, rfl⟩ := pack_eq_finite same
    exact Or.inr ⟨full, rfl, rfl⟩
  · exact Or.inl (pack_eq_finite same)

/-- The least full significand is even, so a tie at a change of exponent goes to it. -/
theorem pow_pred_even (format : Format) : Nat.pow 2 (format.precision - 1) % 2 = 0 := by
  cases format <;> decide

/-- The least significand that is as long as the width allows. -/
theorem size_leading (format : Format) (exponent : ℤ) :
    size (Nat.pow 2 (format.precision - 1)) exponent = 2 ^ (format.precision - 1 + exponent) := by
  rw [size_pow, Format.precision_pred]

/-- A significand with one digit too many is the least full one at the next exponent. -/
theorem size_full (format : Format) (exponent : ℤ) :
    size (Nat.pow 2 format.precision) exponent =
      size (Nat.pow 2 (format.precision - 1)) (exponent + 1) := by
  rw [size_leading, size_pow]
  congr 1
  omega

/-- A significand is the nearest one up to half a step away, and at exactly half a step if it is
even. -/
theorem nearest_iff : Nearest (x / 2 ^ exponent) significand ↔
    (significand - 1 / 2) * 2 ^ exponent ≤ x ∧ x ≤ (significand + 1 / 2) * 2 ^ exponent ∧
      (x = (significand - 1 / 2) * 2 ^ exponent ∨ x = (significand + 1 / 2) * 2 ^ exponent →
        significand % 2 = 0) := by
  have power : (0 : ℚ) < 2 ^ exponent := by positivity
  rw [← le_div_iff₀ power, ← div_le_iff₀ power, ← div_eq_iff power.ne', ← div_eq_iff power.ne']
  exact ⟨fun nearest => ⟨nearest.low, nearest.high, nearest.even⟩,
    fun parts => ⟨parts.1, parts.2.1, parts.2.2⟩⟩

/-- A number comes only from quotients between its midpoints, and from a midpoint only when it is
even. -/
theorem Rounds.within {negative : Bool} {canonical : format.Canonical other place}
    (rounds : Rounds format x significand exponent)
    (same : carried format negative significand exponent =
      .finite negative other place canonical) :
    lowerMidpoint format other place ≤ x ∧ x ≤ upperMidpoint other place ∧
      (x = lowerMidpoint format other place ∨ x = upperMidpoint other place → other % 2 = 0) := by
  have power : (0 : ℚ) < 2 ^ place := by positivity
  obtain ⟨low, high, even⟩ := nearest_iff.mp rounds.nearest
  rcases carried_eq_finite same with ⟨rfl, rfl⟩ | ⟨rfl, rfl, rfl⟩
  · unfold lowerMidpoint upperMidpoint
    split
    · rename_i edge
      have leading := rounds.above.resolve_left edge.2
      rw [← size_leading, ← edge.1, size] at leading
      refine ⟨by linarith, high, fun _ => ?_⟩
      rw [edge.1]
      exact pow_pred_even format
    · exact ⟨low, high, even⟩
  · have least := rounds.least
    have below := rounds.below.le
    have full := size_full format exponent
    rw [← size_pow, full] at below
    have next := zpow_half (exponent + 1)
    rw [add_sub_cancel_right] at next
    unfold size at full below
    rw [lowerMidpoint, if_pos ⟨rfl, by omega⟩, upperMidpoint]
    refine ⟨?_, by linarith, fun _ => pow_pred_even format⟩
    linarith

/-- Below a power of two the exponent is smaller, and a quotient next to the power is rounded to one
binary digit too many. -/
theorem rounds_below (inner : format.leastExponent < place)
    (low : ((Nat.pow 2 (format.precision - 1) : ℕ) - 1 / 4) * 2 ^ place ≤ x)
    (high : x < size (Nat.pow 2 (format.precision - 1)) place) :
    Rounds format x (Nat.pow 2 format.precision) (place - 1) := by
  have power : (0 : ℚ) < 2 ^ place := by positivity
  have next := zpow_half place
  have half := zpow_half (format.precision - 1 + place)
  rw [add_sub_assoc] at half
  have full := size_full format (place - 1)
  rw [sub_add_cancel] at full
  have leading := size_leading format place
  refine ⟨by omega, ?_, Or.inr ?_, ?_⟩
  · rw [← size_pow, full]
    exact high
  · have one : (1 : ℚ) ≤ (Nat.pow 2 (format.precision - 1) : ℕ) := by
      exact_mod_cast Nat.pow_pos two_pos
    have unit := mul_le_mul_of_nonneg_right one power.le
    rw [size] at leading
    linarith
  · unfold size at full high
    refine nearest_iff.mpr ⟨by linarith, by linarith, fun _ => ?_⟩
    exact Nat.mod_eq_zero_of_dvd (dvd_pow_self 2 format.precision_pos.ne')

/-- A quotient between the midpoints of a number is rounded to it, if only to an even one from a
midpoint itself. -/
theorem rounds_within (canonical : format.Canonical other place)
    (low : lowerMidpoint format other place ≤ x) (high : x ≤ upperMidpoint other place)
    (even : x = lowerMidpoint format other place ∨ x = upperMidpoint other place → other % 2 = 0) :
    ∃ significand exponent, Rounds format x significand exponent ∧
      ∀ negative, carried format negative significand exponent =
        .finite negative other place canonical := by
  have power : (0 : ℚ) < 2 ^ place := by positivity
  have least := canonical.2.1
  have leading := size_leading format place
  have below : x < 2 ^ (format.precision + place) := by
    have bound := (size_le_size place).mpr (Nat.succ_le_of_lt canonical.1)
    rw [size_pow, size, Nat.cast_succ] at bound
    rw [upperMidpoint] at high
    linarith
  unfold lowerMidpoint at low even
  rw [upperMidpoint] at high even
  split at low
  · rename_i edge
    obtain ⟨rfl, inner⟩ := edge
    have parity := pow_pred_even format
    -- Below the power of two the steps are half as long, and the result is carried back to it.
    rcases le_or_gt (size (Nat.pow 2 (format.precision - 1)) place) x with above | inside
    · rw [size] at above leading
      exact ⟨_, place, ⟨least, below, Or.inr (leading ▸ above),
        nearest_iff.mpr ⟨by linarith, high, fun _ => parity⟩⟩, carried_canonical canonical⟩
    · refine ⟨_, _, rounds_below (by omega) low inside, fun negative => ?_⟩
      rw [carried, if_pos rfl, sub_add_cancel, pack_canonical canonical]
  · rename_i usual
    rw [if_neg usual] at even
    have above : place = format.leastExponent ∨
        (2 : ℚ) ^ (format.precision - 1 + place) ≤ x := by
      by_cases deepest : place = format.leastExponent
      · exact Or.inl deepest
      · have greater : Nat.pow 2 (format.precision - 1) < other :=
          Nat.lt_of_le_of_ne (canonical.2.2.2.resolve_right deepest)
            fun same => usual ⟨same.symm, deepest⟩
        have bound := (size_le_size place).mpr (Nat.succ_le_of_lt greater)
        rw [size, size, Nat.cast_succ] at bound
        rw [size] at leading
        exact Or.inr (by linarith)
    exact ⟨other, place, ⟨least, below, above, nearest_iff.mpr ⟨low, high, even⟩⟩,
      carried_canonical canonical⟩

/-- Halfway from the greatest number to the power of two that would follow it. -/
def overflow (format : Format) : ℚ :=
  upperMidpoint (Nat.pow 2 format.precision - 1) format.greatestExponent

theorem canonical_greatest (format : Format) :
    format.Canonical (Nat.pow 2 format.precision - 1) format.greatestExponent := by
  cases format <;> decide

/-- A significand that is not the greatest has its upper midpoint below the overflow. -/
theorem upperMidpoint_lt_overflow (canonical : format.Canonical other place)
    (less : other < Nat.pow 2 format.precision - 1) :
    upperMidpoint other place < overflow format := by
  have power : (0 : ℚ) < 2 ^ place := by positivity
  have powers : (2 : ℚ) ^ place ≤ 2 ^ format.greatestExponent :=
    zpow_le_zpow_right₀ one_le_two canonical.2.2.1
  have step : (other : ℚ) < (Nat.pow 2 format.precision - 1 : ℕ) := by exact_mod_cast less
  calc upperMidpoint other place
      < ((Nat.pow 2 format.precision - 1 : ℕ) + 1 / 2) * 2 ^ place :=
        mul_lt_mul_of_pos_right (by linarith) power
    _ ≤ overflow format := mul_le_mul_of_nonneg_left powers (by positivity)

/-- A number that is rounded to is finite only below the overflow, and the overflow itself would be
rounded to an even number. -/
theorem Rounds.lt_overflow {negative : Bool} {canonical : format.Canonical other place}
    (rounds : Rounds format x significand exponent)
    (same : carried format negative significand exponent =
      .finite negative other place canonical) : x < overflow format := by
  obtain ⟨_, high, even⟩ := rounds.within same
  rcases Nat.lt_or_eq_of_le (Nat.le_sub_one_of_lt canonical.1) with less | full
  · exact lt_of_le_of_lt high (upperMidpoint_lt_overflow canonical less)
  · have powers : (2 : ℚ) ^ place ≤ 2 ^ format.greatestExponent :=
      zpow_le_zpow_right₀ one_le_two canonical.2.2.1
    have reach : upperMidpoint other place ≤ overflow format := by
      rw [full]
      exact mul_le_mul_of_nonneg_left powers (by positivity)
    refine lt_of_le_of_ne (high.trans reach) fun tie => ?_
    have parity := even (Or.inr (le_antisymm high (tie ▸ reach)))
    have odd : (Nat.pow 2 format.precision - 1) % 2 = 1 := by
      cases format <;> decide
    omega

/-- Below the overflow everything is rounded to a finite number. -/
theorem Rounds.finite_of_lt (rounds : Rounds format x significand exponent)
    (below : x < overflow format) (negative : Bool) :
    (carried format negative significand exponent).isFinite = true := by
  have greatest := canonical_greatest format
  have power : (0 : ℚ) < 2 ^ format.greatestExponent := by positivity
  rcases le_or_gt x (size (Nat.pow 2 format.precision - 1) format.greatestExponent) with low | high
  · have less := rounds.le_bound greatest.1.le greatest.2.1 low
    obtain ⟨_, _, _, _, finite⟩ := rounds.finite greatest less
    rw [finite]
    rfl
  · -- The greatest number is nearest, and no midpoint is met.
    have usual : Nat.pow 2 format.precision - 1 ≠ Nat.pow 2 (format.precision - 1) := by
      cases format <;> decide
    have lower : lowerMidpoint format (Nat.pow 2 format.precision - 1) format.greatestExponent <
        x := by
      rw [lowerMidpoint, if_neg fun edge => usual edge.1]
      refine lt_trans ?_ high
      exact mul_lt_mul_of_pos_right (by linarith) power
    have apart : ¬ (x = lowerMidpoint format (Nat.pow 2 format.precision - 1)
        format.greatestExponent ∨ x = upperMidpoint (Nat.pow 2 format.precision - 1)
        format.greatestExponent) := not_or.mpr ⟨lower.ne', below.ne⟩
    obtain ⟨found, least, others, finite⟩ :=
      rounds_within greatest lower.le below.le fun tie => absurd tie apart
    obtain ⟨rfl, rfl⟩ := rounds.unique others
    rw [finite]
    rfl

/-- A finite result of a rounding has the sign that the rounding was given. -/
theorem carried_of_isFinite {negative : Bool}
    (finite : (carried format negative significand exponent).isFinite = true) :
    ∃ other place, ∃ canonical : format.Canonical other place,
      carried format negative significand exponent = .finite negative other place canonical := by
  unfold carried pack at finite ⊢
  split_ifs at finite ⊢ with _ shape shape
  · exact ⟨_, _, shape, rfl⟩
  · cases finite
  · exact ⟨_, _, shape, rfl⟩
  · cases finite

/-- A quotient is rounded to a finite number exactly below the overflow. -/
theorem isFinite_round_iff (format : Format) (negative : Bool) (numerator : ℕ) {denominator : ℕ}
    (positive : 0 < denominator) : (round format negative numerator denominator).isFinite = true ↔
      (numerator : ℚ) / denominator < overflow format := by
  rcases Nat.eq_zero_or_pos numerator with rfl | nonzero
  · have above : 0 < overflow format := by
      unfold overflow upperMidpoint
      positivity
    rw [round_zero, Nat.cast_zero, zero_div]
    exact iff_of_true rfl above
  · obtain ⟨significand, exponent, rounds, result⟩ := rounds_round format nonzero positive
    rw [result]
    constructor
    · intro finite
      obtain ⟨_, _, _, same⟩ := carried_of_isFinite finite
      exact rounds.lt_overflow same
    · intro below
      exact rounds.finite_of_lt below negative

end TableStore.Binary
