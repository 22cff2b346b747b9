/-
This file says which number a quotient is rounded to, and that rounding is exact and monotone.
The result depends on the quotient alone and not on the two numbers that it is given as.
-/

import TableStore.Proofs.Binary.Nearest

namespace TableStore.Binary

variable {format : Format} {x : ℚ} {significand other : ℕ} {exponent place : ℤ}

/-- The exact size of a significand with an exponent. -/
def size (significand : ℕ) (exponent : ℤ) : ℚ := significand * 2 ^ exponent

theorem size_pow (count : ℕ) (exponent : ℤ) :
    size (Nat.pow 2 count) exponent = 2 ^ ((count : ℤ) + exponent) := by
  rw [size, zpow_add₀ two_ne_zero, zpow_natCast, Nat.pow_eq, Nat.cast_pow, Nat.cast_two]

theorem size_le_size (exponent : ℤ) {first second : ℕ} :
    size first exponent ≤ size second exponent ↔ first ≤ second := by
  have power : (0 : ℚ) < 2 ^ exponent := by positivity
  rw [size, size, mul_le_mul_iff_left₀ power, Nat.cast_le]

theorem le_size {number : ℕ} : x ≤ size number exponent ↔ x / 2 ^ exponent ≤ number := by
  rw [size, div_le_iff₀ (by positivity)]

theorem size_le {number : ℕ} : size number exponent ≤ x ↔ (number : ℚ) ≤ x / 2 ^ exponent := by
  rw [size, le_div_iff₀ (by positivity)]

/-- A size with a greater exponent is also one with a smaller exponent. -/
theorem size_shift (number : ℕ) (lower : exponent ≤ place) :
    size number place = size (number * 2 ^ (place - exponent).toNat) exponent := by
  rw [size, size, Nat.cast_mul, mul_assoc]
  congr 1
  rw [Nat.cast_pow, Nat.cast_two, ← zpow_natCast, ← zpow_add₀ two_ne_zero]
  congr 1
  omega

theorem zpow_half (exponent : ℤ) : (2 : ℚ) ^ exponent = 2 * 2 ^ (exponent - 1) := by
  rw [← zpow_one_add₀ two_ne_zero, add_sub_cancel]

namespace Format

theorem least_le_greatest (format : Format) : format.leastExponent ≤ format.greatestExponent := by
  cases format <;> decide

theorem precision_pos (format : Format) : 0 < format.precision := by
  cases format <;> decide

theorem precision_pred (format : Format) :
    ((format.precision - 1 : ℕ) : ℤ) = format.precision - 1 := by
  cases format <;> rfl

theorem pow_pred_lt (format : Format) :
    Nat.pow 2 (format.precision - 1) < Nat.pow 2 format.precision := by
  cases format <;> decide

end Format

/-- A quotient is rounded to this significand with this exponent, where the significand may have
one binary digit too many. -/
structure Rounds (format : Format) (x : ℚ) (significand : ℕ) (exponent : ℤ) : Prop where
  least : format.leastExponent ≤ exponent
  below : x < 2 ^ (format.precision + exponent)
  above : exponent = format.leastExponent ∨ (2 : ℚ) ^ (format.precision - 1 + exponent) ≤ x
  nearest : Nearest (x / 2 ^ exponent) significand

namespace Rounds

/-- No rounding of a quotient has a greater exponent than another one. -/
theorem exponent_le (first : Rounds format x significand exponent)
    (second : Rounds format x other place) : exponent ≤ place := by
  rcases first.above with least | above
  · exact least ▸ second.least
  · have less := lt_of_le_of_lt above second.below
    have order := (zpow_lt_zpow_iff_right₀ one_lt_two).mp less
    omega

/-- A quotient is rounded to one significand and exponent only. -/
theorem unique (first : Rounds format x significand exponent)
    (second : Rounds format x other place) : significand = other ∧ exponent = place := by
  have same := le_antisymm (first.exponent_le second) (second.exponent_le first)
  subst same
  exact ⟨first.nearest.unique second.nearest, rfl⟩

/-- A rounded significand has one digit too many only as a power of two. -/
theorem le_pow (rounds : Rounds format x significand exponent) :
    significand ≤ Nat.pow 2 format.precision := by
  apply rounds.nearest.le_natCast
  rw [← le_size, size_pow]
  exact rounds.below.le

/-- Above the least exponent a rounded significand is full. -/
theorem pow_le (rounds : Rounds format x significand exponent)
    (inner : exponent ≠ format.leastExponent) :
    Nat.pow 2 (format.precision - 1) ≤ significand := by
  apply rounds.nearest.natCast_le
  rw [← size_le, size_pow, Format.precision_pred]
  exact rounds.above.resolve_left inner

/-- Rounding down does not pass a size that needs no more binary digits than the format has. -/
theorem le_bound (rounds : Rounds format x significand exponent) {bound : ℕ}
    (short : bound ≤ Nat.pow 2 format.precision) (known : format.leastExponent ≤ place)
    (below : x ≤ size bound place) : size significand exponent ≤ size bound place := by
  rcases le_or_gt exponent place with lower | higher
  · rw [size_shift bound lower] at below ⊢
    exact (size_le_size _).mpr (rounds.nearest.le_natCast (le_size.mp below))
  · -- The quotient is the least one with its exponent, and that one is exact.
    have leading := rounds.above.resolve_left (by omega)
    have greatest := (size_le_size place).mpr short
    rw [size_pow] at greatest
    have exact : x ≤ size (Nat.pow 2 (format.precision - 1)) exponent := by
      rw [size_pow, Format.precision_pred]
      exact (below.trans greatest).trans (zpow_le_zpow_right₀ one_le_two (by omega))
    have least := (size_le_size exponent).mpr
      (rounds.nearest.le_natCast (le_size.mp exact))
    rw [size_pow, Format.precision_pred] at least
    exact (least.trans leading).trans below

/-- A size below the quotient stays below its rounding. -/
theorem bound_le (rounds : Rounds format x significand exponent) {bound : ℕ}
    (short : bound ≤ Nat.pow 2 format.precision) (known : format.leastExponent ≤ place)
    (above : size bound place ≤ x) : size bound place ≤ size significand exponent := by
  rcases le_or_gt exponent place with lower | higher
  · rw [size_shift bound lower] at above ⊢
    exact (size_le_size _).mpr (rounds.nearest.natCast_le (size_le.mp above))
  · have leading := (size_le_size exponent).mpr (rounds.pow_le (by omega))
    have greatest := (size_le_size place).mpr short
    rw [size_pow] at greatest leading
    rw [Format.precision_pred] at leading
    exact (greatest.trans (zpow_le_zpow_right₀ one_le_two (by omega))).trans leading

end Rounds

/-- A canonical size is rounded to itself. -/
theorem rounds_size (canonical : format.Canonical significand exponent) :
    Rounds format (size significand exponent) significand exponent := by
  obtain ⟨small, least, _, leading⟩ := canonical
  have power : (0 : ℚ) < 2 ^ exponent := by positivity
  have whole : size significand exponent / 2 ^ exponent = significand :=
    mul_div_cancel_right₀ _ power.ne'
  refine ⟨least, ?_, ?_, ?_⟩
  · rw [← size_pow]
    exact not_le.mp fun above => absurd ((size_le_size _).mp above) (Nat.not_le_of_lt small)
  · rcases leading with leading | same
    · refine Or.inr ?_
      rw [← Format.precision_pred, ← size_pow]
      exact (size_le_size _).mpr leading
    · exact Or.inl same
  · rw [whole]
    refine ⟨by linarith, by linarith, ?_⟩
    rintro (low | high) <;> linarith

/-- Of the significands and exponents of one size only one pair is canonical. -/
theorem canonical_unique (first : format.Canonical significand exponent)
    (second : format.Canonical other place) (same : size significand exponent = size other place) :
    significand = other ∧ exponent = place :=
  (rounds_size first).unique (same ▸ rounds_size second)

/-- One binary digit too many goes to the exponent. -/
def carried (format : Format) (negative : Bool) (significand : ℕ) (exponent : ℤ) : Binary format :=
  if significand = Nat.pow 2 format.precision then
    pack format negative (Nat.pow 2 (format.precision - 1)) (exponent + 1)
  else pack format negative significand exponent

theorem pack_canonical (canonical : format.Canonical significand exponent) (negative : Bool) :
    pack format negative significand exponent = .finite negative significand exponent canonical :=
  dif_pos canonical

/-- Nothing is carried when the shape is canonical. -/
theorem carried_canonical (canonical : format.Canonical significand exponent) (negative : Bool) :
    carried format negative significand exponent =
      .finite negative significand exponent canonical := by
  rw [carried, if_neg (Nat.ne_of_lt canonical.1), pack_canonical canonical]

/-- Every quotient is rounded to some number. -/
theorem rounds_round (format : Format) {numerator denominator : ℕ} (nonzero : 0 < numerator)
    (positive : 0 < denominator) : ∃ significand exponent,
      Rounds format ((numerator : ℚ) / denominator) significand exponent ∧
        ∀ negative, round format negative numerator denominator =
          carried format negative significand exponent := by
  obtain ⟨low, high⟩ := binaryExponent_spec nonzero positive
  have pred := format.precision_pred
  generalize found : binaryExponent numerator denominator = binade at low high
  generalize chosen : max format.leastExponent (binade - (format.precision - 1 : ℕ)) = exponent
  have scale := pow_div_pow two_pos exponent
  refine ⟨roundQuotient (numerator * Nat.pow 2 (-exponent).toNat)
    (denominator * Nat.pow 2 exponent.toNat), exponent, ⟨by omega, ?_, ?_, ?_⟩, ?_⟩
  · exact lt_of_lt_of_le high (zpow_le_zpow_right₀ one_le_two (by omega))
  · by_cases least : exponent = format.leastExponent
    · exact Or.inl least
    · exact Or.inr (le_trans (zpow_le_zpow_right₀ one_le_two (by omega)) low)
  · have nearest := nearest_roundQuotient (numerator * Nat.pow 2 (-exponent).toNat)
      (Nat.mul_pos positive (Nat.pow_pos (n := exponent.toNat) two_pos))
    have ratio : ((numerator * Nat.pow 2 (-exponent).toNat : ℕ) : ℚ) /
        (denominator * Nat.pow 2 exponent.toNat : ℕ) =
        (numerator : ℚ) / denominator / 2 ^ exponent := by
      rw [Nat.cast_two] at scale
      rw [← scale, Nat.cast_mul, Nat.cast_mul]
      field_simp
    exact ratio ▸ nearest
  · intro negative
    rw [round, if_neg nonzero.ne', found]
    simp only [chosen]
    rfl

/-- A quotient is rounded to the number that its significand and exponent stand for. -/
theorem Rounds.round_eq {numerator denominator : ℕ} (nonzero : 0 < numerator)
    (positive : 0 < denominator)
    (rounds : Rounds format ((numerator : ℚ) / denominator) significand exponent)
    (negative : Bool) : round format negative numerator denominator =
      carried format negative significand exponent := by
  obtain ⟨found, place, other, result⟩ := rounds_round format nonzero positive
  obtain ⟨rfl, rfl⟩ := rounds.unique other
  exact result negative

/-- Rounding depends on the quotient alone. -/
theorem round_congr {first second unit other : ℕ} (positive : 0 < unit) (also : 0 < other)
    (same : (first : ℚ) / unit = second / other) (negative : Bool) :
    round format negative first unit = round format negative second other := by
  have unitPositive : (0 : ℚ) < unit := by exact_mod_cast positive
  have otherPositive : (0 : ℚ) < other := by exact_mod_cast also
  rcases Nat.eq_zero_or_pos first with rfl | nonzero
  · have none : (second : ℚ) = 0 := by
      rw [Nat.cast_zero, zero_div, eq_comm, div_eq_zero_iff] at same
      exact same.resolve_right otherPositive.ne'
    rw [Nat.cast_eq_zero.mp none, round_zero, round_zero]
  · have quotient : (0 : ℚ) < (second : ℚ) / other := by
      rw [← same]
      have size : (0 : ℚ) < first := by exact_mod_cast nonzero
      positivity
    have otherNonzero : 0 < second := by
      have size := (div_pos_iff_of_pos_right otherPositive).mp quotient
      exact_mod_cast size
    obtain ⟨significand, exponent, rounds, result⟩ := rounds_round format nonzero positive
    rw [same] at rounds
    rw [result, rounds.round_eq otherNonzero also]

/-- The quotient of a number is its size. -/
theorem quotient_size (significand : ℕ) (exponent : ℤ) :
    ((quotient significand exponent).1 : ℚ) / (quotient significand exponent).2 =
      size significand exponent := by
  have power := pow_div_pow two_pos exponent
  rw [Nat.cast_two] at power
  rw [size, ← power, quotient, Nat.cast_mul, mul_div_assoc]

theorem quotient_pos (significand : ℕ) (exponent : ℤ) : 0 < (quotient significand exponent).2 :=
  Nat.pow_pos two_pos

/-- A number is rounded to itself. -/
theorem round_size {numerator denominator : ℕ} (positive : 0 < denominator)
    (canonical : format.Canonical significand exponent)
    (same : (numerator : ℚ) / denominator = size significand exponent) (negative : Bool) :
    round format negative numerator denominator =
      .finite negative significand exponent canonical := by
  rcases Nat.eq_zero_or_pos numerator with rfl | nonzero
  · have none : size significand exponent = size 0 format.leastExponent := by
      rw [← same, size, Nat.cast_zero, zero_div, zero_mul]
    obtain ⟨rfl, rfl⟩ := canonical_unique canonical format.canonical_zero none
    exact round_zero format negative denominator
  · have rounds := rounds_size canonical
    rw [← same] at rounds
    rw [rounds.round_eq nonzero positive, carried_canonical canonical]

/-- A result that is no greater than some finite number is finite. -/
theorem Rounds.finite (rounds : Rounds format x significand exponent)
    (canonical : format.Canonical other place)
    (less : size significand exponent ≤ size other place) :
    ∃ found least, ∃ shape : format.Canonical found least,
      size found least = size significand exponent ∧
        ∀ negative, carried format negative significand exponent =
          .finite negative found least shape := by
  have greatest : size other place < 2 ^ (format.precision + format.greatestExponent) := by
    have bound := canonical.2.2.1
    exact lt_of_lt_of_le (rounds_size canonical).below
      (zpow_le_zpow_right₀ one_le_two (by omega))
  -- A significand with this many digits does not pass the greatest exponent.
  have fits {count : ℕ} (leading : Nat.pow 2 count ≤ significand) :
      (count : ℤ) + exponent < format.precision + format.greatestExponent := by
    have least := (size_le_size exponent).mpr leading
    rw [size_pow] at least
    exact (zpow_lt_zpow_iff_right₀ one_lt_two).mp (lt_of_le_of_lt (least.trans less) greatest)
  by_cases full : significand = Nat.pow 2 format.precision
  · have shape : format.Canonical (Nat.pow 2 (format.precision - 1)) (exponent + 1) := by
      have bound := fits full.ge
      have least := rounds.least
      exact ⟨format.pow_pred_lt, by omega, by omega, Or.inl le_rfl⟩
    refine ⟨_, _, shape, ?_, fun negative => ?_⟩
    · rw [full, size_pow, size_pow, Format.precision_pred]
      congr 1
      omega
    · rw [carried, if_pos full, pack_canonical shape]
  · have shape : format.Canonical significand exponent := by
      refine ⟨Nat.lt_of_le_of_ne rounds.le_pow full, rounds.least, ?_, ?_⟩
      · by_cases least : exponent = format.leastExponent
        · exact least ▸ format.least_le_greatest
        · have bound := fits (rounds.pow_le least)
          rw [Format.precision_pred] at bound
          omega
      · by_cases least : exponent = format.leastExponent
        · exact Or.inr least
        · exact Or.inl (rounds.pow_le least)
    exact ⟨_, _, shape, rfl, carried_canonical shape⟩

/-- A finite number has the significand and the exponent that it was made of. -/
theorem pack_eq_finite {negative : Bool} {canonical : format.Canonical other place}
    (same : pack format negative significand exponent = .finite negative other place canonical) :
    significand = other ∧ exponent = place := by
  unfold pack at same
  split at same
  · cases same
    exact ⟨rfl, rfl⟩
  · cases same

/-- The sign does not decide whether a result is finite. -/
theorem pack_sign {canonical : format.Canonical other place}
    (same : pack format false significand exponent = .finite false other place canonical)
    (negative : Bool) :
    pack format negative significand exponent = .finite negative other place canonical := by
  obtain ⟨rfl, rfl⟩ := pack_eq_finite same
  exact pack_canonical canonical negative

/-- A sign does not change what a quotient is rounded to. -/
theorem round_sign {numerator denominator : ℕ} {canonical : format.Canonical other place}
    (same : round format false numerator denominator = .finite false other place canonical)
    (negative : Bool) :
    round format negative numerator denominator = .finite negative other place canonical := by
  unfold round at same ⊢
  split at same
  · rename_i none
    rw [if_pos none]
    cases same
    rfl
  · rename_i nonzero
    rw [if_neg nonzero]
    dsimp only at same ⊢
    split at same
    · rename_i full
      rw [if_pos full]
      exact pack_sign same negative
    · rename_i short
      rw [if_neg short]
      exact pack_sign same negative

end TableStore.Binary
