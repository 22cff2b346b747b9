/-
This file reads values from the texts of literals, with quotes already removed.
-/

import TableStore.Value
import TableStore.Decimal.Numeral
import TableStore.Text.Capitals

namespace TableStore.Value

/-- The word for null is free in case. -/
def isNullLiteral (text : String) : Bool := Text.sameWord "null" text.toList

/-- Truth is written as a word in any case, or as one digit. -/
def boolLiteral? (text : String) : Option Bool :=
  if text = "1" then some true
  else if text = "0" then some false
  else if Text.sameWord "true" text.toList then some true
  else if Text.sameWord "false" text.toList then some false
  else none

/-- Whole numbers must fit into 32 bits. -/
def intLiteral? (text : String) : Option Int32 :=
  match Decimal.integer? text.toList with
  | some number =>
      if -2147483648 ≤ number ∧ number ≤ 2147483647 then some (Int32.ofInt number) else none
  | none => none

/-- A fraction is rounded to the wide width and must be finite there. -/
def fractionLiteral? (text : String) : Option (Binary .double) :=
  match Decimal.fraction? text.toList with
  | some (negative, digits, places) =>
      let number := Binary.round .double negative digits (Nat.pow 10 places)
      if number.isFinite then some number else none
  | none => none

/-- A literal without a type is read as the first kind that accepts it: a whole number, null, a
truth value, a fraction, and else a text. -/
def ofLiteral (text : String) : Value :=
  match intLiteral? text with
  | some number => .int number
  | none =>
      if isNullLiteral text then .null
      else match boolLiteral? text with
        | some truth => .bool truth
        | none =>
            match fractionLiteral? text with
            | some number => .double number
            | none => .text text

end TableStore.Value
