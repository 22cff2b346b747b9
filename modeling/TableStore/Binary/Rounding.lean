/-
This file rounds exact quotients to the nearest floating point number.
Of two nearest numbers the one with the even significand is taken.
-/

import TableStore.Binary.Format

namespace TableStore.Binary

/-- The nearest whole number to a quotient, and the even one of two. -/
def roundQuotient (numerator denominator : Nat) : Nat :=
  let quotient := numerator / denominator
  let remainder := numerator % denominator
  if 2 * remainder < denominator ∨ (2 * remainder = denominator ∧ quotient % 2 = 0) then quotient
  else quotient + 1

/-- A quotient lies between this power of two and the next one. -/
def binaryExponent (numerator denominator : Nat) : Int :=
  let guess : Int := (numerator.log2 : Int) - denominator.log2
  if denominator * Nat.pow 2 guess.toNat ≤ numerator * Nat.pow 2 (-guess).toNat then guess
  else guess - 1

/-- The quotient of two whole numbers is rounded once.
A carry into one more binary digit moves to the exponent, and a result past the greatest exponent
is infinite. -/
def round (format : Format) (negative : Bool) (numerator denominator : Nat) : Binary format :=
  if numerator = 0 then zero format negative
  else
    let exponent := max format.leastExponent
      (binaryExponent numerator denominator - (format.precision - 1 : Nat))
    let significand :=
      roundQuotient (numerator * Nat.pow 2 (-exponent).toNat)
        (denominator * Nat.pow 2 exponent.toNat)
    if significand = Nat.pow 2 format.precision then
      pack format negative (Nat.pow 2 (format.precision - 1)) (exponent + 1)
    else pack format negative significand exponent

/-- The size of a finite number is this quotient. -/
def quotient (significand : Nat) (exponent : Int) : Nat × Nat :=
  (significand * Nat.pow 2 exponent.toNat, Nat.pow 2 (-exponent).toNat)

/-- A number of another width is rounded to this width. -/
def convert {source : Format} (target : Format) : Binary source → Binary target
  | .nan => .nan
  | .infinite negative => .infinite negative
  | .finite negative significand exponent _ =>
      let (numerator, denominator) := quotient significand exponent
      round target negative numerator denominator

@[simp] theorem convert_nan {source : Format} (target : Format) :
    convert target (.nan : Binary source) = .nan := rfl

@[simp] theorem convert_infinite {source : Format} (target : Format) (negative : Bool) :
    convert target (.infinite negative : Binary source) = .infinite negative := rfl

@[simp] theorem round_zero (format : Format) (negative : Bool) (denominator : Nat) :
    round format negative 0 denominator = zero format negative := by
  simp [round]

end TableStore.Binary
