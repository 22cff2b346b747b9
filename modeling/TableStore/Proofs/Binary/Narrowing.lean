/-
This file rounds a quotient to the wide format first and to the narrow format then.
The two roundings differ from one only when the first stops exactly midway between two narrow
numbers and the right one of them is odd.
-/

import Mathlib.Tactic.Ring
import TableStore.Binary.Order
import TableStore.Proofs.Binary.Midpoint

namespace TableStore.Binary

variable {x : ℚ} {significand other : ℕ} {exponent place : ℤ}

open Format (single double)

/-- An upper midpoint is a size with one more binary digit. -/
theorem upperMidpoint_size (significand : ℕ) (exponent : ℤ) :
    upperMidpoint significand exponent = size (2 * significand + 1) (exponent - 1) := by
  have half := zpow_half exponent
  rw [upperMidpoint, size, half]
  push_cast
  ring

/-- Where the distance is the usual one, the lower midpoint is like the upper one. -/
theorem lowerMidpoint_usual (nonzero : 0 < significand)
    (usual : ¬ (significand = Nat.pow 2 (single.precision - 1) ∧
      exponent ≠ single.leastExponent)) :
    lowerMidpoint single significand exponent = size (2 * significand - 1) (exponent - 1) := by
  have half := zpow_half exponent
  have one : 1 ≤ 2 * significand := by omega
  rw [lowerMidpoint, if_neg usual, size, half, Nat.cast_sub one]
  push_cast
  ring

/-- Where the exponent changes, a lower midpoint needs two more binary digits. -/
theorem lowerMidpoint_edge (nonzero : 0 < significand)
    (edge : significand = Nat.pow 2 (single.precision - 1) ∧ exponent ≠ single.leastExponent) :
    lowerMidpoint single significand exponent = size (4 * significand - 1) (exponent - 2) := by
  have half := zpow_half exponent
  have quarter := zpow_half (exponent - 1)
  have one : 1 ≤ 4 * significand := by omega
  rw [sub_sub] at quarter
  rw [lowerMidpoint, if_pos edge, size, half, quarter, Nat.cast_sub one]
  push_cast
  ring

/-- The midpoints of narrow numbers are numbers of the wide format. -/
theorem lowerMidpoint_wide (canonical : single.Canonical significand exponent)
    (nonzero : 0 < significand) : ∃ bound least,
      lowerMidpoint single significand exponent = size bound least ∧ 0 < bound ∧
        bound ≤ Nat.pow 2 double.precision ∧ double.leastExponent ≤ least := by
  have small : significand < 16777216 := canonical.1
  have least : -149 ≤ exponent := canonical.2.1
  have precise : Nat.pow 2 double.precision = 9007199254740992 := rfl
  have deep : double.leastExponent = -1074 := rfl
  by_cases edge : significand = Nat.pow 2 (single.precision - 1) ∧ exponent ≠ single.leastExponent
  · exact ⟨_, _, lowerMidpoint_edge nonzero edge, by omega, by omega, by omega⟩
  · exact ⟨_, _, lowerMidpoint_usual nonzero edge, by omega, by omega, by omega⟩

/-- The midpoint below a number that is not zero is not zero. -/
theorem lowerMidpoint_pos (canonical : single.Canonical significand exponent)
    (nonzero : 0 < significand) : 0 < lowerMidpoint single significand exponent := by
  obtain ⟨bound, depth, lower, positive, _⟩ := lowerMidpoint_wide canonical nonzero
  have number : (0 : ℚ) < bound := by exact_mod_cast positive
  rw [lower, size]
  positivity

/-- A size stands midway between a narrow number and one of its neighbours. -/
def AtMidpoint (significand : ℕ) (exponent : ℤ) (x : ℚ) : Prop :=
  x = lowerMidpoint single significand exponent ∨ x = upperMidpoint significand exponent

/-- Rounding to the wide format does not leave the quotients of a narrow number. -/
theorem Rounds.between (canonical : single.Canonical other place) (nonzero : 0 < other)
    (low : lowerMidpoint single other place ≤ x) (high : x ≤ upperMidpoint other place)
    (rounds : Rounds double x significand exponent) :
    lowerMidpoint single other place ≤ size significand exponent ∧
      size significand exponent ≤ upperMidpoint other place := by
  have small : other < 16777216 := canonical.1
  have least : -149 ≤ place := canonical.2.1
  have precise : Nat.pow 2 double.precision = 9007199254740992 := rfl
  have deep : double.leastExponent = -1074 := rfl
  obtain ⟨bound, depth, lower, _, short, known⟩ := lowerMidpoint_wide canonical nonzero
  rw [lower] at low ⊢
  rw [upperMidpoint_size] at high ⊢
  exact ⟨rounds.bound_le short known low, rounds.le_bound (by omega) (by omega) high⟩

/-- A wide number between the midpoints of a narrow number is rounded to it, unless it is a
midpoint and the narrow number is odd. -/
theorem convert_eq_iff (canonical : single.Canonical other place) (nonzero : 0 < other)
    (shape : double.Canonical significand exponent)
    (low : lowerMidpoint single other place ≤ size significand exponent)
    (high : size significand exponent ≤ upperMidpoint other place) (negative : Bool) :
    (Binary.finite negative significand exponent shape).convert single =
        .finite negative other place canonical ↔
      ¬ (other % 2 = 1 ∧ AtMidpoint other place (size significand exponent)) := by
  have ratio := quotient_size significand exponent
  have denominator := quotient_pos significand exponent
  have numerator : 0 < (quotient significand exponent).1 := by
    have positive := lowerMidpoint_pos canonical nonzero
    apply Nat.pos_of_ne_zero
    intro none
    rw [← ratio, none, Nat.cast_zero, zero_div] at low
    linarith
  change round single negative (quotient significand exponent).1 (quotient significand exponent).2 =
    _ ↔ _
  constructor
  · rintro same ⟨odd, midway⟩
    obtain ⟨found, least, rounds, result⟩ := rounds_round single numerator denominator
    rw [result] at same
    -- A midpoint is only rounded to an even significand.
    have even := (rounds.within same).2.2
    rw [ratio] at even
    have parity := even midway
    omega
  · intro usual
    have even : AtMidpoint other place (size significand exponent) → other % 2 = 0 := by
      intro midway
      by_contra odd
      exact usual ⟨by omega, midway⟩
    obtain ⟨found, least, rounds, result⟩ := rounds_within canonical low high even
    rw [← ratio] at rounds
    rw [rounds.round_eq numerator denominator, result]

/-- Of a quotient that is rounded to a narrow number, the wide number is finite, and it is rounded
to the same narrow number unless the narrow number is odd and the wide one stands midway next to
it. -/
theorem round_narrow {numerator denominator : ℕ} (nonzero : 0 < numerator)
    (positive : 0 < denominator) {canonical : single.Canonical other place} (size_pos : 0 < other)
    (read : round single false numerator denominator = .finite false other place canonical) :
    ∃ significand exponent, ∃ shape : double.Canonical significand exponent,
      (∀ negative, round double negative numerator denominator =
        .finite negative significand exponent shape) ∧
      ∀ negative, (Binary.finite negative significand exponent shape).convert single =
          .finite negative other place canonical ↔
        ¬ (other % 2 = 1 ∧ AtMidpoint other place (size significand exponent)) := by
  obtain ⟨found, least, rounds, result⟩ := rounds_round single nonzero positive
  rw [result] at read
  obtain ⟨low, high, _⟩ := rounds.within read
  obtain ⟨wide, wideLeast, wideRounds, wideResult⟩ := rounds_round double nonzero positive
  obtain ⟨lower, upper⟩ := wideRounds.between canonical size_pos low high
  have greatest : double.Canonical (Nat.pow 2 52) 971 := by decide
  have less : size wide wideLeast ≤ size (Nat.pow 2 52) 971 := by
    have small : 2 * other + 1 ≤ Nat.pow 2 25 := by
      have bound : other < 16777216 := canonical.1
      have power : Nat.pow 2 25 = 33554432 := rfl
      omega
    have short : place ≤ 104 := canonical.2.2.1
    have step := (size_le_size (place - 1)).mpr small
    rw [upperMidpoint_size] at upper
    rw [size_pow] at step ⊢
    exact (upper.trans step).trans (zpow_le_zpow_right₀ one_le_two (by omega))
  obtain ⟨significand, exponent, shape, same, finite⟩ := wideRounds.finite greatest less
  rw [← same] at lower upper
  refine ⟨significand, exponent, shape, fun negative => ?_,
    convert_eq_iff canonical size_pos shape lower upper⟩
  rw [wideResult, finite]

/-- Steps are sizes in units of the least wide number. -/
theorem steps_eq_iff (first : double.leastExponent ≤ exponent)
    (second : double.leastExponent ≤ place) :
    steps false significand exponent = steps false other place ↔
      size significand exponent = size other place := by
  have unit : (0 : ℚ) < 2 ^ (-double.leastExponent) := by positivity
  have cast : ∀ (number : ℕ) (power : ℤ), double.leastExponent ≤ power →
      ((steps false number power : ℤ) : ℚ) = size number power * 2 ^ (-double.leastExponent) := by
    intro number power least
    have whole : (2 : ℚ) ^ (power - double.leastExponent) =
        2 ^ (power - double.leastExponent).toNat := by
      rw [← zpow_natCast, Int.toNat_of_nonneg (by omega)]
    rw [size, mul_assoc, ← zpow_add₀ two_ne_zero, ← sub_eq_add_neg, whole, steps,
      if_neg Bool.false_ne_true, Nat.pow_eq]
    push_cast
    rfl
  rw [← @Int.cast_inj ℚ, cast _ _ first, cast _ _ second, mul_left_inj' unit.ne']

/-- The place of a wide number is midway between those of a narrow number and one of its
neighbours. -/
def Midway (significand : ℕ) (exponent : ℤ) (wide : Binary double) : Prop :=
  wide.place? = some (steps false (2 * significand - 1) (exponent - 1)) ∨
    wide.place? = some (steps false (2 * significand + 1) (exponent - 1))

instance (significand : ℕ) (exponent : ℤ) (wide : Binary double) :
    Decidable (Midway significand exponent wide) :=
  inferInstanceAs (Decidable (_ ∨ _))

/-- The places of the wide number decide whether its size is a midpoint of the narrow one. -/
theorem midway_iff (canonical : single.Canonical other place) (odd : other % 2 = 1)
    (shape : double.Canonical significand exponent) :
    Midway other place (.finite false significand exponent shape) ↔
      AtMidpoint other place (size significand exponent) := by
  have least : -149 ≤ place := canonical.2.1
  have deep : double.leastExponent = -1074 := rfl
  have even : Nat.pow 2 (single.precision - 1) % 2 = 0 := pow_pred_even single
  have usual : ¬ (other = Nat.pow 2 (single.precision - 1) ∧ place ≠ single.leastExponent) := by
    rintro ⟨same, _⟩
    omega
  rw [Midway, AtMidpoint, lowerMidpoint_usual (by omega) usual, upperMidpoint_size, place?,
    Option.some.injEq, Option.some.injEq, steps_eq_iff shape.2.1 (by omega),
    steps_eq_iff shape.2.1 (by omega)]

end TableStore.Binary
