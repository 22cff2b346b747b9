/-
This file reads numbers that are written in decimal digits.
-/

namespace TableStore.Decimal

/-- A sequence of digits stands for its value in base ten. -/
def digitsValue (digits : List Char) : Nat :=
  digits.foldl (fun value digit => 10 * value + (digit.toNat - '0'.toNat)) 0

/-- A numeral has at least one digit and nothing else. -/
def isNumeral (text : List Char) : Bool := !text.isEmpty && text.all Char.isDigit

/-- A sign in front is read once, and only one of them is negative. -/
def splitSign : List Char → Bool × List Char
  | '-' :: rest => (true, rest)
  | '+' :: rest => (false, rest)
  | text => (false, text)

/-- Counts have at most 64 binary digits. -/
def countBound : Nat := 18446744073709551616

/-- A count is written as a numeral with at most a plus sign in front of it. -/
def count? (text : List Char) : Option Nat :=
  let digits := match text with
    | '+' :: rest => rest
    | other => other
  if isNumeral digits && digitsValue digits < countBound then some (digitsValue digits) else none

/-- Whole numbers take either sign. -/
def integer? (text : List Char) : Option Int :=
  let (negative, digits) := splitSign text
  if isNumeral digits then
    some (if negative then -(digitsValue digits : Int) else digitsValue digits)
  else none

/-- A numeral may go on with a point and a second numeral.
The result gives the sign, all digits as one number, and how many of them follow the point. -/
def fraction? (text : List Char) : Option (Bool × Nat × Nat) :=
  let (negative, unsigned) := splitSign text
  let whole := unsigned.takeWhile (· ≠ '.')
  match unsigned.dropWhile (· ≠ '.') with
  | [] => if isNumeral whole then some (negative, digitsValue whole, 0) else none
  | _ :: places =>
      if isNumeral whole && isNumeral places then
        some (negative, digitsValue (whole ++ places), places.length)
      else none

@[simp] theorem digitsValue_nil : digitsValue [] = 0 := rfl

theorem digitsValue_append_one (digits : List Char) (digit : Char) :
    digitsValue (digits ++ [digit]) = 10 * digitsValue digits + (digit.toNat - '0'.toNat) := by
  simp [digitsValue]

/-- A count that is read is a machine word. -/
theorem count?_lt {text : List Char} {count : Nat} (read : count? text = some count) :
    count < countBound := by
  simp only [count?, Option.ite_none_right_eq_some, Bool.and_eq_true, decide_eq_true_eq,
    Option.some.injEq] at read
  obtain ⟨⟨_, inside⟩, rfl⟩ := read
  exact inside

end TableStore.Decimal
