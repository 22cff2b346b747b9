/-
This file says what rounding a quotient means.
The exponent is that of the quotient, and the significand is the nearest whole number, or the even
one of two.
-/

import Mathlib.Algebra.Order.Field.Basic
import Mathlib.Algebra.Order.Field.Power
import Mathlib.Algebra.Order.Field.Rat
import Mathlib.Tactic.FieldSimp
import Mathlib.Tactic.Linarith
import TableStore.Binary.Rounding

namespace TableStore.Binary

/-- A whole number is nearest to a quotient when it is at most one half away from it, and even
whenever it is exactly one half away. -/
structure Nearest (x : ℚ) (number : ℕ) : Prop where
  low : (number : ℚ) - 1 / 2 ≤ x
  high : x ≤ number + 1 / 2
  even : x = number - 1 / 2 ∨ x = number + 1 / 2 → number % 2 = 0

namespace Nearest

variable {x : ℚ} {first second number bound : ℕ}

/-- No nearest number exceeds another one, since at a tie both would be even and one apart. -/
theorem le_of_nearest (here : Nearest x first) (there : Nearest x second) : second ≤ first := by
  by_contra less
  have step : (first : ℚ) + 1 ≤ second := by exact_mod_cast Nat.lt_of_not_le less
  have above := here.high
  have below := there.low
  -- Both are one half away, so both are even and not one apart.
  have even := here.even (Or.inr (by linarith))
  have other := there.even (Or.inl (by linarith))
  have next : (second : ℚ) = first + 1 := by linarith
  have same : second = first + 1 := by exact_mod_cast next
  omega

/-- A quotient has one nearest number. -/
theorem unique (here : Nearest x first) (there : Nearest x second) : first = second :=
  Nat.le_antisymm (there.le_of_nearest here) (here.le_of_nearest there)

/-- Rounding to a whole number does not pass a whole number. -/
theorem le_natCast (nearest : Nearest x number) (below : x ≤ bound) : number ≤ bound := by
  by_contra less
  have step : (bound : ℚ) + 1 ≤ number := by exact_mod_cast Nat.lt_of_not_le less
  have low := nearest.low
  linarith

/-- A whole bound below the quotient stays below the nearest number. -/
theorem natCast_le (nearest : Nearest x number) (above : (bound : ℚ) ≤ x) : bound ≤ number := by
  by_contra less
  have step : (number : ℚ) + 1 ≤ bound := by exact_mod_cast Nat.lt_of_not_le less
  have high := nearest.high
  linarith

/-- Up to one half of a rest is left off. -/
theorem of_rest_le {rest : ℚ} (least : 0 ≤ rest) (half : rest ≤ 1 / 2)
    (even : rest = 1 / 2 → number % 2 = 0) : Nearest (number + rest) number := by
  refine ⟨by linarith, by linarith, ?_⟩
  rintro (low | high)
  · linarith
  · exact even (by linarith)

/-- From one half on a rest is filled up. -/
theorem of_le_rest {rest : ℚ} (half : 1 / 2 ≤ rest) (proper : rest < 1)
    (even : rest = 1 / 2 → (number + 1) % 2 = 0) : Nearest (number + rest) (number + 1) := by
  have next : ((number + 1 : ℕ) : ℚ) = number + 1 := Nat.cast_succ number
  refine ⟨by linarith, by linarith, ?_⟩
  rintro (low | high)
  · exact even (by linarith)
  · linarith

end Nearest

/-- The quotient of two whole numbers is rounded to the nearest whole number. -/
theorem nearest_roundQuotient (numerator : ℕ) {denominator : ℕ} (positive : 0 < denominator) :
    Nearest ((numerator : ℚ) / denominator) (roundQuotient numerator denominator) := by
  have unit : (0 : ℚ) < denominator := by exact_mod_cast positive
  have below : numerator % denominator < denominator := Nat.mod_lt numerator positive
  have division := Nat.div_add_mod numerator denominator
  generalize whole : numerator / denominator = quotient at division
  generalize rest : numerator % denominator = remainder at division below
  have parts : (denominator * quotient + remainder : ℚ) = numerator := by exact_mod_cast division
  have less : (remainder : ℚ) < denominator := by exact_mod_cast below
  have size : (numerator : ℚ) / denominator = quotient + remainder / denominator := by
    rw [← parts]
    field_simp
  have least : (0 : ℚ) ≤ remainder / denominator := by positivity
  have proper : (remainder : ℚ) / denominator < 1 := (div_lt_one unit).mpr less
  have half : (remainder : ℚ) / denominator = 1 / 2 ↔ 2 * remainder = denominator := by
    rw [div_eq_div_iff unit.ne' two_ne_zero, one_mul, mul_comm]
    norm_cast
  rw [size, roundQuotient]
  simp only [whole, rest]
  split
  · rename_i down
    have atMost : (remainder : ℚ) / denominator ≤ 1 / 2 := by
      rw [div_le_div_iff₀ unit two_pos, one_mul, mul_comm]
      have bound : 2 * remainder ≤ denominator := by omega
      exact_mod_cast bound
    apply Nearest.of_rest_le least atMost
    intro middle
    have tie := half.mp middle
    omega
  · rename_i up
    rw [not_or] at up
    have atLeast : 1 / 2 ≤ (remainder : ℚ) / denominator := by
      rw [div_le_div_iff₀ two_pos unit, one_mul, mul_comm]
      have bound : denominator ≤ 2 * remainder := by omega
      exact_mod_cast bound
    apply Nearest.of_le_rest atLeast proper
    intro middle
    have tie := half.mp middle
    omega

/-- A power with a whole exponent as a quotient of whole numbers. -/
theorem pow_div_pow {base : ℕ} (positive : 0 < base) (exponent : ℤ) :
    ((Nat.pow base exponent.toNat : ℕ) : ℚ) / (Nat.pow base (-exponent).toNat : ℕ) =
      (base : ℚ) ^ exponent := by
  have nonzero : (base : ℚ) ≠ 0 := by exact_mod_cast positive.ne'
  simp only [Nat.pow_eq, Nat.cast_pow, ← zpow_natCast]
  rw [← zpow_sub₀ nonzero]
  congr 1
  omega

theorem log2_le {number : ℕ} (nonzero : 0 < number) :
    (2 : ℚ) ^ (number.log2 : ℤ) ≤ number := by
  rw [zpow_natCast]
  exact_mod_cast Nat.log2_self_le nonzero.ne'

theorem lt_log2 (number : ℕ) : (number : ℚ) < 2 ^ (number.log2 + 1 : ℤ) := by
  rw [← Nat.cast_succ, zpow_natCast]
  exact_mod_cast Nat.lt_log2_self

/-- A power of two is compared with a quotient by whole numbers. -/
theorem zpow_le_div_iff (numerator : ℕ) {denominator : ℕ} (positive : 0 < denominator)
    (exponent : ℤ) : (2 : ℚ) ^ exponent ≤ (numerator : ℚ) / denominator ↔
      denominator * Nat.pow 2 exponent.toNat ≤ numerator * Nat.pow 2 (-exponent).toNat := by
  have unit : (0 : ℚ) < denominator := by exact_mod_cast positive
  have power := pow_div_pow two_pos exponent
  have below : (0 : ℚ) < (Nat.pow 2 (-exponent).toNat : ℕ) := by
    exact_mod_cast Nat.pow_pos two_pos
  rw [Nat.cast_two] at power
  rw [← power, div_le_div_iff₀ below unit, mul_comm denominator]
  norm_cast

/-- Numbers between powers of two have a quotient between powers of two. -/
theorem div_between {x unit : ℚ} {first second : ℤ} (positive : 0 < unit)
    (low : (2 : ℚ) ^ first ≤ x) (high : x < 2 ^ (first + 1))
    (lowUnit : (2 : ℚ) ^ second ≤ unit) (highUnit : unit < 2 ^ (second + 1)) :
    (2 : ℚ) ^ (first - second - 1) ≤ x / unit ∧ x / unit < 2 ^ (first - second + 1) := by
  constructor
  · rw [le_div_iff₀ positive]
    calc (2 : ℚ) ^ (first - second - 1) * unit
        ≤ 2 ^ (first - second - 1) * 2 ^ (second + 1) :=
          mul_le_mul_of_nonneg_left highUnit.le (by positivity)
      _ = 2 ^ first := by
        rw [← zpow_add₀ two_ne_zero]
        congr 1
        omega
      _ ≤ x := low
  · rw [div_lt_iff₀ positive]
    calc x < 2 ^ (first + 1) := high
      _ = 2 ^ (first - second + 1) * 2 ^ second := by
        rw [← zpow_add₀ two_ne_zero]
        congr 1
        omega
      _ ≤ 2 ^ (first - second + 1) * unit :=
        mul_le_mul_of_nonneg_left lowUnit (by positivity)

/-- A quotient lies between a power of two and the next one. -/
theorem binaryExponent_spec {numerator denominator : ℕ} (nonzero : 0 < numerator)
    (positive : 0 < denominator) :
    (2 : ℚ) ^ binaryExponent numerator denominator ≤ (numerator : ℚ) / denominator ∧
      (numerator : ℚ) / denominator < 2 ^ (binaryExponent numerator denominator + 1) := by
  have unit : (0 : ℚ) < denominator := by exact_mod_cast positive
  obtain ⟨below, above⟩ := div_between unit (log2_le nonzero) (lt_log2 numerator)
    (log2_le positive) (lt_log2 denominator)
  unfold binaryExponent
  dsimp only
  split
  · rename_i reached
    exact ⟨(zpow_le_div_iff numerator positive _).mpr reached, above⟩
  · rename_i missed
    rw [sub_add_cancel]
    refine ⟨below, not_le.mp fun reached => ?_⟩
    exact missed ((zpow_le_div_iff numerator positive _).mp reached)

end TableStore.Binary
