/-
This file defines the types of columns.
-/

import TableStore.Value
import TableStore.Decimal.Numeral
import TableStore.Text.Capitals

namespace TableStore

/-- The length of a text type is kept but bounds nothing. -/
inductive DataType where
  | bool
  | int
  | float
  | double
  | varchar (length : Nat)
deriving DecidableEq, Repr

namespace DataType

def text : DataType → String
  | bool => "BOOL"
  | int => "INT"
  | float => "FLOAT"
  | double => "DOUBLE"
  | varchar length => "VARCHAR(" ++ toString length ++ ")"

/-- Types of one kind hold the same values. -/
def sameKind : DataType → DataType → Bool
  | bool, bool => true
  | int, int => true
  | float, float => true
  | double, double => true
  | varchar _, varchar _ => true
  | _, _ => false

/-- Null fits every type, and every other value fits one kind of type. -/
def accepts : DataType → Value → Bool
  | _, .null => true
  | bool, .bool _ => true
  | int, .int _ => true
  | float, .float _ => true
  | double, .double _ => true
  | varchar _, .text _ => true
  | _, _ => false

/-- The name of a type is free in case, and the length of a text type stands in parentheses. -/
def ofText? (text : String) : Option DataType :=
  let name := Text.inCapitals text.toList
  if name = "BOOL".toList then some bool
  else if name = "INT".toList then some int
  else if name = "FLOAT".toList then some float
  else if name = "DOUBLE".toList then some double
  else
    let inner := name.drop 8
    if name.take 8 = "VARCHAR(".toList ∧ inner.getLast? = some ')' then
      (Decimal.count? inner.dropLast).map varchar
    else none

@[simp] theorem accepts_null (type : DataType) : type.accepts .null = true := by
  cases type <;> rfl

end DataType

end TableStore
