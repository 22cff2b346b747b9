/-
This file writes floating point numbers in decimal digits.
The digits are the fewest that read back as the same number, and the nearest such digits.
-/

import TableStore.Binary.Rounding

namespace TableStore

/-- A decimal stands for its digits times a power of ten. -/
structure Decimal where
  digits : Nat
  exponent : Int
deriving DecidableEq, Repr

namespace Decimal

open Binary

/-- A decimal is read by rounding its exact value once. -/
def toBinary (format : Format) (negative : Bool) (decimal : Decimal) : Binary format :=
  round format negative (decimal.digits * Nat.pow 10 decimal.exponent.toNat)
    (Nat.pow 10 (-decimal.exponent).toNat)

/-- The number of decimal digits of a whole number. -/
def length (number : Nat) : Nat := (Nat.toDigits 10 number).length

/-- A quotient lies between this power of ten and the next one. -/
def decimalExponent (numerator denominator : Nat) : Int :=
  if denominator ≤ numerator then (length (numerator / denominator) : Int) - 1
  else -(length ((denominator - 1) / numerator) : Int)

/-- The greatest decimal below a quotient with the given number of digits, and whether the next
decimal with so many digits is at least as near to it. -/
def below (numerator denominator count : Nat) : Decimal × Bool :=
  let exponent := decimalExponent numerator denominator - (count : Int) + 1
  let scaled := numerator * Nat.pow 10 (-exponent).toNat
  let unit := denominator * Nat.pow 10 exponent.toNat
  (⟨scaled / unit, exponent⟩, decide (unit ≤ 2 * (scaled % unit)))

/-- The next decimal with the same exponent. -/
def next (decimal : Decimal) : Decimal := ⟨decimal.digits + 1, decimal.exponent⟩

/-- Among the two decimals next to the number that have so many digits, the nearer one that reads
back is taken. The greater one wins when both are equally near. -/
def withDigits? (format : Format) (significand : Nat) (exponent : Int) (count : Nat) :
    Option Decimal :=
  let number := pack format false significand exponent
  let (numerator, denominator) := quotient significand exponent
  let (lower, upperNearer) := below numerator denominator count
  let candidates := if upperNearer then [lower.next, lower] else [lower, lower.next]
  candidates.find? fun decimal => decimal.toBinary format false = number

/-- Every power of two is a decimal, so every finite number is. -/
def exact (significand : Nat) (exponent : Int) : Decimal :=
  if 0 ≤ exponent then ⟨significand * Nat.pow 2 exponent.toNat, 0⟩
  else ⟨significand * Nat.pow 5 (-exponent).toNat, exponent⟩

/-- The shortest decimal has the fewest digits that read back. -/
def shortest (format : Format) (significand : Nat) (exponent : Int) : Decimal :=
  ((List.range format.decimalDigits).findSome? fun count =>
    withDigits? format significand exponent (count + 1)).getD (exact significand exponent)

/-- The digits of a decimal without zeros at the end, and the exponent that then belongs to it. -/
def trimmed (decimal : Decimal) : List Char × Int :=
  let digits := Nat.toDigits 10 decimal.digits
  let kept := (digits.reverse.dropWhile (· = '0')).reverse
  (kept, decimal.exponent + ((digits.length - kept.length : Nat) : Int))

/-- Digits with an exponent are written with zeros up to the point or after it. -/
def positional (digits : List Char) (exponent : Int) : List Char :=
  if 0 ≤ exponent then digits ++ List.replicate exponent.toNat '0'
  else
    let places := (-exponent).toNat
    let padded := List.replicate (places + 1 - digits.length) '0' ++ digits
    padded.take (padded.length - places) ++ '.' :: padded.drop (padded.length - places)

/-- Digits with an exponent are written with one digit in front of the point. -/
def scientific (digits : List Char) (exponent : Int) : List Char :=
  let shifted := exponent + (digits.length - 1 : Nat)
  let mantissa := match digits with
    | [] => ['0']
    | [first] => [first]
    | first :: rest => first :: '.' :: rest
  mantissa ++ 'e' :: (toString shifted).toList

end Decimal

end TableStore
