/-
This file orders floating point numbers of both widths on one line.
-/

import TableStore.Binary.Format

namespace TableStore.Binary

variable {format other : Format}

/-- Every finite number is a whole number of least steps of the finer width. -/
def steps (negative : Bool) (significand : Nat) (exponent : Int) : Int :=
  let size : Int := significand * Nat.pow 2 (exponent - Format.double.leastExponent).toNat
  if negative then -size else size

/-- The infinities stand past all finite numbers. -/
def farthest : Int := Nat.pow 2 2099

/-- A number other than not-a-number has a place on the line. Both zeros share theirs. -/
def place? : Binary format → Option Int
  | .nan => none
  | .infinite negative => some (if negative then -farthest else farthest)
  | .finite negative significand exponent _ => some (steps negative significand exponent)

/-- Two numbers compare as their places do. -/
def compare? (left : Binary format) (right : Binary other) : Option Ordering :=
  match left.place?, right.place? with
  | some first, some second => some (compare first second)
  | _, _ => none

@[simp] theorem place?_nan : (nan : Binary format).place? = none := rfl

@[simp] theorem compare?_nan_left (right : Binary other) :
    compare? (nan : Binary format) right = none := rfl

@[simp] theorem compare?_nan_right (left : Binary format) :
    compare? left (nan : Binary other) = none := by
  cases left <;> rfl

end TableStore.Binary
