/-
This file reads conditions and runs them on rows with guarded positions.
No tokens make the compilation give up, and a condition that was bound to as many columns as a row
has values never gives up on the row.
-/

import TableStore.Condition.Infix
import TableStore.Proofs.Condition.Evaluation
import TableStore.Proofs.Guarded

namespace TableStore

open Guarded

namespace Condition

/-- A connective takes as many results off as it has operands, and puts one back. -/
def depthGuarded (depth : Nat) : Term → Guarded Connective Nat
  | .leaf _ => return depth + 1
  | .connective operator => do
      if depth < operator.arity then throw operator
      minus depth (← minus operator.arity 1)

def ofTermsGuarded (terms : List Term) : Guarded GrammarFault Condition := do
  let _ ← (terms.foldlM depthGuarded 0).adapt GrammarFault.starvedConnective
  sure (ofTerms terms)

/-- The tokens are looked at one after the other. -/
def ofTokensGuarded (precedences : Precedences) (tokens : List Token) :
    Guarded GrammarFault Condition := do
  let progress ← (List.range tokens.length).foldlM (fun progress position => do
    sure (Progress.step precedences progress (← look tokens position))) Progress.start
  let progress ← sure progress.flush
  let terms ← sure (Progress.drain progress.output progress.pending)
  ofTermsGuarded terms

end Condition

def Side.valueGuarded (row : Row) : Side → Guarded Fault Value
  | column position => look row position
  | literal value => pure value

def Check.testGuarded (row : Row) : Check → Guarded Fault Bool
  | compare left comparator right => do
      let first ← left.valueGuarded row
      let second ← right.valueGuarded row
      return comparator.holds first second
  | truthy position => return (← look row position).truthy
  | constant truth => return truth

/-- Connectives look at the stack only. -/
def BoundTerm.runGuarded (row : Row) (stack : List Bool) : BoundTerm → Guarded Fault (List Bool)
  | check content => return (← content.testGuarded row) :: stack
  | connective operator => sure (BoundTerm.run row stack (.connective operator))

def BoundCondition.evaluateGuarded (row : Row) (condition : BoundCondition) :
    Guarded Fault Bool := do
  match ← condition.terms.foldlM (BoundTerm.runGuarded row) [] with
  | [result] => return result
  | _ => throw (.grammar .unsettled)

namespace Operand

/-- A literal looks up the type of the column that it faces. -/
def literalGuarded (schema : Schema) (facing : Option Nat) (operand : Operand) :
    Guarded Fault Value :=
  match facing with
  | some position => do
      let column ← look schema.columns position
      return (column.type.literal? operand.text).getD (Value.ofLiteral operand.text)
  | none => return Value.ofLiteral operand.text

def sideGuarded (schema : Schema) (own facing : Option Nat) (operand : Operand) :
    Guarded Fault Side :=
  match own with
  | some position => return .column position
  | none => return .literal (← operand.literalGuarded schema facing)

end Operand

def Predicate.bindGuarded (schema : Schema) : Predicate → Guarded Fault Check
  | alone operand => sure (operand.alone schema)
  | compare left comparator right => do
      let first ← sure (left.column? schema)
      let second ← sure (right.column? schema)
      let leftSide ← left.sideGuarded schema first second
      let rightSide ← right.sideGuarded schema second first
      return .compare leftSide comparator rightSide

def Term.bindGuarded (schema : Schema) : Term → Guarded Fault BoundTerm
  | leaf predicate => return .check (← predicate.bindGuarded schema)
  | connective operator => return .connective operator

def Condition.bindGuarded (schema : Schema) (condition : Condition) :
    Guarded Fault BoundCondition := do
  return ⟨← condition.terms.mapM (·.bindGuarded schema)⟩

namespace Condition

/-- The depth is only lowered by operands that are there. -/
theorem depthGuarded_eq (depth : Nat) (term : Term) :
    depthGuarded depth term = sure (term.depth depth) := by
  cases term with
  | leaf predicate => rfl
  | connective operator =>
      have own : 1 ≤ operator.arity := by cases operator <;> decide
      rw [depthGuarded, Term.depth]
      by_cases starved : depth < operator.arity
      · rw [if_pos starved, if_pos starved]
        rfl
      · have left : depth - (operator.arity - 1) = depth - operator.arity + 1 := by omega
        rw [if_neg starved, if_neg starved, minus_of_le own, pure_bind,
          minus_of_le (by omega), left]
        rfl

/-- The depth of all terms is found without a negative one. -/
theorem ofTermsGuarded_eq (terms : List Term) : ofTermsGuarded terms = sure (ofTerms terms) := by
  have settles : terms.foldlM depthGuarded 0 = sure (Term.depthAfter terms) :=
    foldlM_each (fun depth term _ => depthGuarded_eq depth term) 0
  rw [ofTermsGuarded, settles]
  cases settled : Term.depthAfter terms with
  | ok depth => rfl
  | error connective =>
      have starved : ofTerms terms = .error (.starvedConnective connective) := by
        unfold ofTerms
        split <;> simp_all
      rw [starved]
      rfl

/-- The compiler looks at no token that is not there. -/
theorem ofTokensGuarded_eq (precedences : Precedences) (tokens : List Token) :
    ofTokensGuarded precedences tokens = sure (ofTokens precedences tokens) := by
  rw [ofTokensGuarded, foldlM_positions]
  apply bind_sure
  intro progress _
  apply bind_sure
  intro flushed _
  apply bind_sure
  intro terms _
  exact ofTermsGuarded_eq terms

end Condition

/-- The value at a position of a row is there. -/
theorem Row.look_of_lt {row : Row} {position : Nat} (within : position < row.length) :
    (look row position : Guarded Fault Value) = pure (row.at position) := by
  have found := List.getElem?_eq_getElem within
  rw [look_of_getElem? found, Row.at, List.getD_eq_getElem?_getD, found, Option.getD_some]

/-- A side within the row finds its value. -/
theorem Side.valueGuarded_eq {row : Row} {side : Side} (within : side.Within row.length) :
    side.valueGuarded row = pure (side.value row) := by
  cases side with
  | column position => exact Row.look_of_lt within
  | literal value => rfl

/-- A check within the row finds all its values. -/
theorem Check.testGuarded_eq {row : Row} {check : Check} (within : check.Within row.length) :
    check.testGuarded row = pure (check.test row) := by
  cases check with
  | compare left comparator right =>
      rw [testGuarded, Side.valueGuarded_eq within.1, Side.valueGuarded_eq within.2]
      rfl
  | truthy position =>
      rw [testGuarded, Row.look_of_lt within]
      rfl
  | constant truth => rfl

/-- A condition whose positions lie in the row does not give up on it. -/
theorem BoundCondition.evaluateGuarded_eq {row : Row} {bound : BoundCondition}
    (within : ∀ check, .check check ∈ bound.terms → check.Within row.length) :
    bound.evaluateGuarded row = sure (bound.evaluate row) := by
  have ran : bound.terms.foldlM (BoundTerm.runGuarded row) [] =
      sure (bound.terms.foldlM (BoundTerm.run row) []) := by
    refine foldlM_each ?_ []
    intro stack term present
    cases term with
    | check content =>
        rw [BoundTerm.runGuarded, Check.testGuarded_eq (within content present)]
        rfl
    | connective operator => rfl
  rw [evaluateGuarded, ran, evaluate]
  apply bind_sure
  intro stack _
  rcases stack with _ | ⟨result, _ | _⟩ <;> rfl

namespace Operand

/-- A literal looks at the column that it faces, which is one of the schema. -/
theorem literalGuarded_eq {schema : Schema} {facing : Option Nat}
    (within : ∀ position ∈ facing, position < schema.size) (operand : Operand) :
    operand.literalGuarded schema facing = pure (operand.literal schema facing) := by
  cases facing with
  | none => rfl
  | some position =>
      have found := List.getElem?_eq_getElem (within position rfl)
      simp only [literalGuarded, literal, Option.bind_some, look_of_getElem? found, found,
        pure_bind]

theorem sideGuarded_eq {schema : Schema} {facing : Option Nat}
    (within : ∀ position ∈ facing, position < schema.size) (own : Option Nat) (operand : Operand) :
    operand.sideGuarded schema own facing = pure (operand.side schema own facing) := by
  cases own with
  | none =>
      rw [sideGuarded, literalGuarded_eq within]
      rfl
  | some position => rfl

end Operand

/-- A leaf is bound to positions that its schema has. -/
theorem Predicate.bindGuarded_eq (schema : Schema) (predicate : Predicate) :
    predicate.bindGuarded schema = sure (predicate.bind schema) := by
  cases predicate with
  | alone operand => rfl
  | compare left comparator right =>
      apply bind_sure
      intro first leftFound
      apply bind_sure
      intro second rightFound
      have leftWithin : ∀ position ∈ first, position < schema.size := by
        rintro position rfl
        exact Operand.column?_within leftFound
      have rightWithin : ∀ position ∈ second, position < schema.size := by
        rintro position rfl
        exact Operand.column?_within rightFound
      rw [Operand.sideGuarded_eq rightWithin, Operand.sideGuarded_eq leftWithin]
      rfl

/-- Every column that an operand faces is there. -/
theorem Condition.bindGuarded_eq (schema : Schema) (condition : Condition) :
    condition.bindGuarded schema = sure (condition.bind schema) := by
  have each : ∀ term ∈ condition.terms, term.bindGuarded schema = sure (term.bind schema) := by
    intro term _
    cases term with
    | leaf predicate =>
        rw [Term.bindGuarded, Predicate.bindGuarded_eq]
        apply bind_sure
        intro check _
        rfl
    | connective operator => rfl
  rw [bindGuarded, mapM_sure each]
  apply bind_sure
  intro terms _
  rfl

/-- A condition that is bound to the columns of a row does not give up on the row. -/
theorem Condition.evaluateGuarded_eq {condition : Condition} {schema : Schema}
    {bound : BoundCondition} (binds : condition.bind schema = .ok bound) {row : Row}
    (size : row.length = schema.size) :
    bound.evaluateGuarded row = pure (bound.accepts row) := by
  rw [BoundCondition.evaluateGuarded_eq, evaluate_eq_accepts binds]
  · rfl
  · intro check present
    rw [size]
    exact bind_within binds present

end TableStore
