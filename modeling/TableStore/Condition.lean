/-
This file defines conditions on rows.
A condition lists its leaves and connectives so that each connective follows its operands.
-/

import TableStore.Value.Comparator

namespace TableStore

inductive Connective where
  | not
  | and
  | or
deriving DecidableEq, Repr

namespace Connective

/-- The number of operands in front of a connective. -/
def arity : Connective → Nat
  | not => 1
  | and => 2
  | or => 2

def text : Connective → String
  | not => "NOT"
  | and => "AND"
  | or => "OR"

end Connective

/-- A greater precedence binds its operands more tightly. -/
structure Precedences where
  not : Nat
  and : Nat
  or : Nat
deriving DecidableEq, Repr

namespace Precedences

def standard : Precedences := ⟨3, 2, 1⟩

def of (precedences : Precedences) : Connective → Nat
  | .not => precedences.not
  | .and => precedences.and
  | .or => precedences.or

end Precedences

/-- An operand may turn out to name a column, also when it is quoted. -/
structure Operand where
  text : String
  isQuoted : Bool
deriving DecidableEq, Repr

def Operand.display (operand : Operand) : String :=
  if operand.isQuoted then "'" ++ operand.text ++ "'" else operand.text

/-- A leaf of a condition compares two operands, or takes the truth of one. -/
inductive Predicate where
  | compare (left : Operand) (comparator : Comparator) (right : Operand)
  | alone (operand : Operand)
deriving DecidableEq, Repr

def Predicate.display : Predicate → String
  | compare left comparator right => left.display ++ " " ++ comparator.text ++ " " ++ right.display
  | alone operand => operand.display

inductive Term where
  | leaf (predicate : Predicate)
  | connective (operator : Connective)
deriving DecidableEq, Repr

def Term.display : Term → String
  | leaf predicate => predicate.display
  | connective operator => operator.text

/-- A leaf adds a result, and a connective replaces its operands by one result.
A connective that lacks operands is returned as the fault. -/
def Term.depth (depth : Nat) : Term → Except Connective Nat
  | leaf _ => .ok (depth + 1)
  | connective operator =>
      if depth < operator.arity then .error operator
      else .ok (depth - operator.arity + 1)

/-- The number of results that a list of terms leaves. -/
def Term.depthAfter (terms : List Term) : Except Connective Nat :=
  terms.foldlM Term.depth 0

/-- The terms of a condition leave exactly one result. -/
structure Condition where
  terms : List Term
  settled : Term.depthAfter terms = .ok 1
deriving DecidableEq

/-- Statements without a condition apply to every row. -/
def Condition.always : Condition := ⟨[.leaf (.alone ⟨"true", false⟩)], rfl⟩

@[simp] theorem Term.depthAfter_nil : Term.depthAfter [] = .ok 0 := rfl

theorem Condition.ext_terms {first second : Condition} (same : first.terms = second.terms) :
    first = second := by
  cases first
  cases second
  cases same
  rfl

end TableStore
