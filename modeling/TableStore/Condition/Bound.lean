/-
This file resolves conditions against the columns of a table and runs them on rows.
-/

import TableStore.Schema
import TableStore.Value.Typed

namespace TableStore

/-- A side of a comparison is a column or a fixed value. -/
inductive Side where
  | column (position : Nat)
  | literal (value : Value)
deriving DecidableEq

def Side.value (row : Row) : Side → Value
  | column position => row.at position
  | literal value => value

/-- A leaf with its operands resolved. -/
inductive Check where
  | compare (left : Side) (comparator : Comparator) (right : Side)
  | truthy (position : Nat)
  | constant (truth : Bool)
deriving DecidableEq

def Check.test (row : Row) : Check → Bool
  | compare left comparator right => comparator.holds (left.value row) (right.value row)
  | truthy position => (row.at position).truthy
  | constant truth => truth

inductive BoundTerm where
  | check (check : Check)
  | connective (operator : Connective)
deriving DecidableEq

/-- A condition with all operands resolved. -/
structure BoundCondition where
  terms : List BoundTerm
deriving DecidableEq

namespace Operand

/-- A bare operand with a point in it is a qualified name unless it is a number. -/
def isQualified (operand : Operand) : Bool :=
  !operand.isQuoted && (Value.fractionLiteral? operand.text).isNone
    && operand.text.toList.contains '.'

/-- The column that an operand names. A qualified name must name one. -/
def column? (schema : Schema) (operand : Operand) : Except Fault (Option Nat) :=
  match schema.indexOf? operand.text with
  | some position => .ok (some position)
  | none =>
      if operand.isQualified then .error (.logic (.unknownColumn operand.text)) else .ok none

/-- The type of the facing column reads a literal if it can. -/
def literal (schema : Schema) (facing : Option Nat) (operand : Operand) : Value :=
  match facing.bind (schema.columns[·]?) with
  | some column => (column.type.literal? operand.text).getD (Value.ofLiteral operand.text)
  | none => Value.ofLiteral operand.text

/-- An operand that names no column is a literal. -/
def side (schema : Schema) (own facing : Option Nat) (operand : Operand) : Side :=
  match own with
  | some position => .column position
  | none => .literal (operand.literal schema facing)

/-- An operand alone is a column or a constant. Quoted texts never hold. -/
def alone (schema : Schema) (operand : Operand) : Except Fault Check :=
  if operand.isQuoted then .ok (.constant false)
  else match operand.column? schema with
    | .error cause => .error cause
    | .ok (some position) => .ok (.truthy position)
    | .ok none =>
        match Value.boolLiteral? operand.text with
        | some truth => .ok (.constant truth)
        | none =>
            match Value.intLiteral? operand.text with
            | some number => .ok (.constant (number != 0))
            | none =>
                match Value.fractionLiteral? operand.text with
                | some number => .ok (.constant (!number.isZero))
                | none =>
                    if Value.isNullLiteral operand.text then .ok (.constant false)
                    else .error (.grammar (.noTruth operand.text))

end Operand

/-- Both columns are looked up before either literal is read. -/
def Predicate.bind (schema : Schema) : Predicate → Except Fault Check
  | alone operand => operand.alone schema
  | compare left comparator right => do
      let first ← left.column? schema
      let second ← right.column? schema
      return .compare (left.side schema first second) comparator (right.side schema second first)

def Term.bind (schema : Schema) : Term → Except Fault BoundTerm
  | leaf predicate => return .check (← predicate.bind schema)
  | connective operator => return .connective operator

/-- Every operand is resolved once. -/
def Condition.bind (schema : Schema) (condition : Condition) : Except Fault BoundCondition := do
  return ⟨← condition.terms.mapM (·.bind schema)⟩

/-- A check puts its result on the stack, and a connective replaces its operands. -/
def BoundTerm.run (row : Row) (stack : List Bool) : BoundTerm → Except Fault (List Bool)
  | check content => .ok (content.test row :: stack)
  | connective .not =>
      match stack with
      | operand :: rest => .ok ((!operand) :: rest)
      | [] => .error (.grammar .missingOperand)
  | connective .and =>
      match stack with
      | right :: left :: rest => .ok ((left && right) :: rest)
      | _ => .error (.grammar .missingOperand)
  | connective .or =>
      match stack with
      | right :: left :: rest => .ok ((left || right) :: rest)
      | _ => .error (.grammar .missingOperand)

/-- A row is accepted when the single result left is true. -/
def BoundCondition.evaluate (row : Row) (condition : BoundCondition) : Except Fault Bool := do
  match ← condition.terms.foldlM (BoundTerm.run row) [] with
  | [result] => return result
  | _ => throw (.grammar .unsettled)

end TableStore
