/-
This file says that the shortest decimal of a number reads back as the number.
Where no decimal with few digits does, the exact one is taken.
-/

import TableStore.Proofs.Binary.Rounding
import TableStore.Proofs.Decimal.Positional

namespace TableStore.Decimal

open Binary

variable {format : Format} {significand : ℕ} {exponent : ℤ}

/-- The quotient that a decimal is read as is its size. -/
theorem toBinary_quotient (decimal : Decimal) :
    ((decimal.digits * Nat.pow 10 decimal.exponent.toNat : ℕ) : ℚ) /
      (Nat.pow 10 (-decimal.exponent).toNat : ℕ) = decimal.size := by
  have power := pow_div_pow (by decide : 0 < 10) decimal.exponent
  rw [Nat.cast_ofNat] at power
  rw [size, ← power, Nat.cast_mul, mul_div_assoc]

/-- The decimal of a finite number is as great as the number. -/
theorem size_exact (significand : ℕ) (exponent : ℤ) :
    (exact significand exponent).size = Binary.size significand exponent := by
  unfold exact
  split
  · rename_i whole
    have power : (2 : ℚ) ^ exponent.toNat = 2 ^ exponent := by
      rw [← zpow_natCast, Int.toNat_of_nonneg whole]
    rw [size, Binary.size, zpow_zero, mul_one, Nat.cast_mul, Nat.pow_eq, Nat.cast_pow,
      Nat.cast_two, power]
  · rename_i fraction
    have power : (5 : ℚ) ^ (-exponent).toNat = 5 ^ (-exponent) := by
      rw [← zpow_natCast, Int.toNat_of_nonneg (by omega)]
    have parts : (10 : ℚ) ^ exponent = 5 ^ exponent * 2 ^ exponent := by
      rw [← mul_zpow]
      norm_num
    have five : (5 : ℚ) ≠ 0 := by norm_num
    rw [size, Binary.size, Nat.cast_mul, Nat.pow_eq, Nat.cast_pow, Nat.cast_ofNat, power, parts,
      mul_assoc, ← mul_assoc (5 ^ (-exponent) : ℚ), ← zpow_add₀ five, neg_add_cancel, zpow_zero,
      one_mul]

/-- A decimal of the very size of a number reads back as it. -/
theorem toBinary_size {decimal : Decimal} (canonical : format.Canonical significand exponent)
    (same : decimal.size = Binary.size significand exponent) (negative : Bool) :
    decimal.toBinary format negative = .finite negative significand exponent canonical := by
  rw [← toBinary_quotient] at same
  exact round_size (Nat.pow_pos (by decide)) canonical same negative

/-- A decimal is only accepted when it is read back as the number. -/
theorem toBinary_withDigits (canonical : format.Canonical significand exponent) {count : ℕ}
    {decimal : Decimal} (found : withDigits? format significand exponent count = some decimal) :
    decimal.toBinary format false = .finite false significand exponent canonical := by
  have reads := List.find?_some found
  rw [← pack_canonical canonical]
  exact of_decide_eq_true reads

/-- The shortest decimal of a number reads back as it. -/
theorem toBinary_shortest (canonical : format.Canonical significand exponent) :
    (shortest format significand exponent).toBinary format false =
      .finite false significand exponent canonical := by
  unfold shortest
  cases searched : (List.range format.decimalDigits).findSome? fun count =>
      withDigits? format significand exponent (count + 1) with
  | none => exact toBinary_size canonical (size_exact significand exponent) false
  | some decimal =>
      obtain ⟨count, _, found⟩ := List.exists_of_findSome?_eq_some searched
      exact toBinary_withDigits canonical found

/-- Only zero has no digits. -/
theorem digits_pos (canonical : format.Canonical significand exponent) (nonzero : 0 < significand) :
    0 < (shortest format significand exponent).digits := by
  apply Nat.pos_of_ne_zero
  intro none
  have reads := toBinary_shortest canonical
  rw [toBinary, none, Nat.zero_mul, round_zero, zero] at reads
  injection reads with _ same
  omega

end TableStore.Decimal
