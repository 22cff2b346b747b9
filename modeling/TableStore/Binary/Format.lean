/-
This file defines the binary floating point numbers of two widths.
A finite number is a significand times a power of two, with a significand as long as the width
allows, or with the least exponent.
-/

namespace TableStore

namespace Binary

/-- Numbers of both widths are stored in columns. -/
inductive Format where
  | single
  | double
deriving DecidableEq, Repr

namespace Format

/-- The significand has at most this many binary digits. -/
def precision : Format → Nat
  | single => 24
  | double => 53

def leastExponent : Format → Int
  | single => -149
  | double => -1074

def greatestExponent : Format → Int
  | single => 104
  | double => 971

/-- A decimal with this many digits always tells a number from its neighbours. -/
def decimalDigits : Format → Nat
  | single => 9
  | double => 17

/-- Each finite number has exactly one significand and exponent of this shape. -/
def Canonical (format : Format) (significand : Nat) (exponent : Int) : Prop :=
  significand < Nat.pow 2 format.precision ∧
    format.leastExponent ≤ exponent ∧ exponent ≤ format.greatestExponent ∧
    (Nat.pow 2 (format.precision - 1) ≤ significand ∨ exponent = format.leastExponent)

instance (format : Format) (significand : Nat) (exponent : Int) :
    Decidable (format.Canonical significand exponent) := by
  unfold Canonical
  infer_instance

theorem canonical_zero (format : Format) : format.Canonical 0 format.leastExponent := by
  cases format <;> decide

end Format

end Binary

/-- A floating point number keeps the sign of zero and knows a single not-a-number. -/
inductive Binary (format : Binary.Format) where
  | nan
  | infinite (negative : Bool)
  | finite (negative : Bool) (significand : Nat) (exponent : Int)
      (canonical : format.Canonical significand exponent)
deriving DecidableEq

namespace Binary

variable {format : Format}

def zero (format : Format) (negative : Bool) : Binary format :=
  .finite negative 0 format.leastExponent format.canonical_zero

def isFinite : Binary format → Bool
  | finite .. => true
  | _ => false

def isZero : Binary format → Bool
  | finite _ significand .. => significand == 0
  | _ => false

/-- A significand and an exponent that no finite number has lie beyond the greatest one. -/
def pack (format : Format) (negative : Bool) (significand : Nat) (exponent : Int) :
    Binary format :=
  if canonical : format.Canonical significand exponent then
    .finite negative significand exponent canonical
  else .infinite negative

end Binary

end TableStore
