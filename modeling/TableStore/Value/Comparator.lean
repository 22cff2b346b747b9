/-
This file defines the comparators of conditions.
-/

import TableStore.Value

namespace TableStore

/-- A comparison leaf of a condition uses one of these. -/
inductive Comparator where
  | equal
  | notEqual
  | greater
  | greaterEqual
  | lower
  | lowerEqual
  | is
  | isNot
deriving DecidableEq, Repr

def Comparator.text : Comparator → String
  | equal => "="
  | notEqual => "<>"
  | greater => ">"
  | greaterEqual => ">="
  | lower => "<"
  | lowerEqual => "<="
  | is => "IS"
  | isNot => "IS NOT"

namespace Value

/-- Null equals only null, and values that do not compare are never equal. -/
def equals (left right : Value) : Bool :=
  match left.isNull, right.isNull with
  | true, true => true
  | false, false => left.compare? right == some .eq
  | _, _ => false

/-- Values differ when exactly one of them is null, or when they compare and are not equal. -/
def differs (left right : Value) : Bool :=
  match left.isNull, right.isNull with
  | true, true => false
  | false, false => left.compare? right == some .lt || left.compare? right == some .gt
  | _, _ => true

end Value

/-- The order comparators fail where the two values do not compare. -/
def Comparator.holds (comparator : Comparator) (left right : Value) : Bool :=
  match comparator with
  | equal | is => left.equals right
  | notEqual | isNot => left.differs right
  | greater => left.compare? right == some .gt
  | greaterEqual => left.compare? right == some .gt || left.compare? right == some .eq
  | lower => left.compare? right == some .lt
  | lowerEqual => left.compare? right == some .lt || left.compare? right == some .eq

@[simp] theorem Comparator.holds_is (left right : Value) :
    is.holds left right = equal.holds left right := rfl

@[simp] theorem Comparator.holds_isNot (left right : Value) :
    isNot.holds left right = notEqual.holds left right := rfl

end TableStore
