/-
This file compares the stack on which a condition runs with the tree that its terms write.
Terms form a condition exactly when they write a tree, and the condition computes that tree.
-/

import TableStore.Condition.Bound
import TableStore.Proofs.Condition.Formula
import TableStore.Proofs.Success

namespace TableStore

namespace Formula

/-- A term takes its operands from a stack of formulas and leaves their formula there. -/
def stackTerm (stack : List Formula) : Term → Option (List Formula)
  | .leaf predicate => some (leaf predicate :: stack)
  | .connective operator =>
      match operator, stack with
      | .not, operand :: rest => some (not operand :: rest)
      | .and, right :: left :: rest => some (join .and left right :: rest)
      | .or, right :: left :: rest => some (join .or left right :: rest)
      | _, _ => none

/-- The formulas that a list of terms leaves on the stack. -/
def stackTerms (stack : List Formula) (terms : List Term) : Option (List Formula) :=
  terms.foldlM stackTerm stack

/-- The terms of the formulas on a stack, the lowest first. -/
def stackedTerms (stack : List Formula) : List Term := stack.reverse.flatMap terms

@[simp] theorem stackedTerms_cons (formula : Formula) (stack : List Formula) :
    stackedTerms (formula :: stack) = stackedTerms stack ++ formula.terms := by
  simp [stackedTerms]

/-- The second terms find the stack that the first ones leave. -/
theorem stackTerms_append (stack : List Formula) (first second : List Term) :
    stackTerms stack (first ++ second) =
      (stackTerms stack first).bind fun middle => stackTerms middle second :=
  List.foldlM_append

/-- The terms of a formula put it on the stack. -/
theorem stackTerms_terms (formula : Formula) (stack : List Formula) :
    stackTerms stack formula.terms = some (formula :: stack) := by
  induction formula generalizing stack with
  | leaf predicate => rfl
  | not operand ih =>
      rw [terms, stackTerms_append, ih]
      rfl
  | join junction left right leftStacks rightStacks =>
      rw [terms, stackTerms_append, stackTerms_append, leftStacks]
      show ((stackTerms (left :: stack) right.terms).bind _) = _
      rw [rightStacks]
      cases junction <;> rfl

/-- No two formulas have the same terms. -/
theorem terms_injective : Function.Injective terms := by
  intro first second same
  have stacked := stackTerms_terms first []
  rw [same, stackTerms_terms second []] at stacked
  exact (List.cons.inj (Option.some.inj stacked)).1.symm

/-- A term that finds its operands on the stack is added to the terms of the stack. -/
theorem stackedTerms_stackTerm {stack next : List Formula} {term : Term}
    (done : stackTerm stack term = some next) :
    stackedTerms next = stackedTerms stack ++ [term] := by
  cases term with
  | leaf predicate =>
      cases done
      rw [stackedTerms_cons, terms]
  | connective operator =>
      cases operator with
      | not =>
          cases stack with
          | nil => cases done
          | cons operand rest =>
              cases done
              rw [stackedTerms_cons, stackedTerms_cons, terms, List.append_assoc]
      | and =>
          rcases stack with _ | ⟨right, _ | ⟨left, rest⟩⟩ <;> cases done
          simp [terms, Junction.connective]
      | or =>
          rcases stack with _ | ⟨right, _ | ⟨left, rest⟩⟩ <;> cases done
          simp [terms, Junction.connective]

/-- A connective that finds its operands on the stack leaves one formula for them. -/
theorem stackTerm_of_arity {operator : Connective} {stack : List Formula}
    (enough : operator.arity ≤ stack.length) :
    ∃ next, stackTerm stack (.connective operator) = some next ∧
      next.length = stack.length - operator.arity + 1 := by
  cases operator with
  | not =>
      cases stack with
      | nil => cases enough
      | cons operand rest => exact ⟨_, rfl, rfl⟩
  | and =>
      rcases stack with _ | ⟨right, _ | ⟨left, rest⟩⟩
      · cases enough
      · cases Nat.le_of_succ_le_succ enough
      · exact ⟨_, rfl, rfl⟩
  | or =>
      rcases stack with _ | ⟨right, _ | ⟨left, rest⟩⟩
      · cases enough
      · cases Nat.le_of_succ_le_succ enough
      · exact ⟨_, rfl, rfl⟩

/-- The number of results counts the formulas on the stack. -/
theorem stackTerm_of_depth {depth : Nat} {term : Term} {stack : List Formula}
    (counted : Term.depth stack.length term = .ok depth) :
    ∃ next, stackTerm stack term = some next ∧ next.length = depth := by
  cases term with
  | leaf predicate =>
      cases counted
      exact ⟨_, rfl, rfl⟩
  | connective operator =>
      have enough : operator.arity ≤ stack.length := by
        by_contra missing
        rw [Term.depth, if_pos (Nat.lt_of_not_le missing)] at counted
        cases counted
      rw [Term.depth, if_neg (Nat.not_lt.mpr enough), Except.ok.injEq] at counted
      rw [← counted]
      exact stackTerm_of_arity enough

/-- Terms that do not run out of results put as many formulas on the stack, and these formulas
have the same terms. -/
theorem stackTerms_of_depth {terms : List Term} {stack : List Formula} {depth : Nat}
    (counted : terms.foldlM Term.depth stack.length = .ok depth) :
    ∃ final, stackTerms stack terms = some final ∧ final.length = depth ∧
      stackedTerms final = stackedTerms stack ++ terms := by
  induction terms generalizing stack with
  | nil =>
      cases counted
      exact ⟨stack, rfl, rfl, (List.append_nil _).symm⟩
  | cons term rest ih =>
      rw [List.foldlM_cons] at counted
      obtain ⟨middle, first, remaining⟩ := bind_eq_ok.mp counted
      obtain ⟨next, stacked, rfl⟩ := stackTerm_of_depth first
      obtain ⟨final, run, size, same⟩ := ih remaining
      refine ⟨final, ?_, size, ?_⟩
      · show (stackTerm stack term).bind (fun middle => stackTerms middle rest) = some final
        rw [stacked]
        exact run
      · rw [same, stackedTerms_stackTerm stacked, List.append_assoc]
        rfl

/-- Terms that leave exactly one result write a formula. -/
theorem exists_of_settled {terms : List Term} (settled : Term.depthAfter terms = .ok 1) :
    ∃ formula : Formula, formula.terms = terms := by
  obtain ⟨final, _, size, same⟩ := @stackTerms_of_depth terms [] 1 settled
  match final, size, same with
  | [formula], _, same =>
      refine ⟨formula, ?_⟩
      simpa [stackedTerms] using same

end Formula

namespace Condition

/-- A list of terms is accepted as the condition that consists of them. -/
theorem ofTerms_ok {terms : List Term} {condition : Condition} :
    ofTerms terms = .ok condition ↔ condition.terms = terms := by
  constructor
  · intro accepted
    unfold ofTerms at accepted
    split at accepted
    · cases accepted
    · cases accepted
      rfl
    · cases accepted
  · rintro rfl
    exact ofTerms_eq condition.settled

/-- Every condition is the post-order of a tree. -/
theorem exists_formula (condition : Condition) :
    ∃ formula : Formula, formula.terms = condition.terms :=
  Formula.exists_of_settled condition.settled

end Condition

/-- A side reads no position from this one on. -/
def Side.Within (size : Nat) : Side → Prop
  | column position => position < size
  | literal _ => True

/-- A check reads no position from this one on. -/
def Check.Within (size : Nat) : Check → Prop
  | compare left _ right => left.Within size ∧ right.Within size
  | truthy position => position < size
  | constant _ => True

/-- A column that is found is a position of the schema. -/
theorem Operand.column?_within {schema : Schema} {operand : Operand} {position : Nat}
    (found : operand.column? schema = .ok (some position)) : position < schema.size := by
  unfold column? at found
  split at found
  · rename_i other named
    cases found
    exact Schema.indexOf?_lt named
  · split at found
    · cases found
    · cases found

/-- A side reads only the column that was found for it. -/
theorem Operand.side_within {schema : Schema} {operand : Operand} {own : Option Nat}
    (found : operand.column? schema = .ok own) (facing : Option Nat) :
    (operand.side schema own facing).Within schema.size := by
  cases own with
  | none => trivial
  | some position => exact column?_within found

/-- An operand alone reads at most its own column. -/
theorem Operand.alone_within {schema : Schema} {operand : Operand} {check : Check}
    (bound : operand.alone schema = .ok check) : check.Within schema.size := by
  unfold alone at bound
  split at bound
  · cases bound
    trivial
  · split at bound
    · cases bound
    · rename_i position found
      cases bound
      exact column?_within found
    · split at bound
      · cases bound
        trivial
      · split at bound
        · cases bound
          trivial
        · split at bound
          · cases bound
            trivial
          · split at bound
            · cases bound
              trivial
            · cases bound

/-- A bound leaf reads columns of the schema only. -/
theorem Predicate.bind_within {schema : Schema} {predicate : Predicate} {check : Check}
    (bound : predicate.bind schema = .ok check) : check.Within schema.size := by
  cases predicate with
  | alone operand => exact Operand.alone_within bound
  | compare left comparator right =>
      obtain ⟨first, leftFound, rest⟩ := bind_eq_ok.mp bound
      obtain ⟨second, rightFound, last⟩ := bind_eq_ok.mp rest
      cases last
      exact ⟨Operand.side_within leftFound second, Operand.side_within rightFound first⟩

/-- The truth of two operands together. -/
def Junction.combine : Junction → Bool → Bool → Bool
  | and, left, right => left && right
  | or, left, right => left || right

namespace Formula

/-- The truth of a tree on a row is that of its leaves, put together by its connectives. -/
def evaluate (schema : Schema) (row : Row) : Formula → Except Fault Bool
  | leaf predicate => return (← predicate.bind schema).test row
  | not operand => return !(← operand.evaluate schema row)
  | join junction left right => do
      let first ← left.evaluate schema row
      let second ← right.evaluate schema row
      return junction.combine first second

/-- The bound terms of a tree put its truth on the stack, whatever the stack holds. -/
theorem run_terms {schema : Schema} (row : Row) {formula : Formula} {bound : List BoundTerm}
    (binds : formula.terms.mapM (Term.bind schema) = .ok bound) (stack : List Bool) :
    ∃ truth, formula.evaluate schema row = .ok truth ∧
      bound.foldlM (BoundTerm.run row) stack = .ok (truth :: stack) := by
  induction formula generalizing bound stack with
  | leaf predicate =>
      rw [terms, List.mapM_cons] at binds
      obtain ⟨term, first, rest⟩ := bind_eq_ok.mp binds
      obtain ⟨check, checked, last⟩ := bind_eq_ok.mp first
      cases last
      cases rest
      refine ⟨check.test row, ?_, rfl⟩
      rw [evaluate, checked]
      rfl
  | not operand ih =>
      obtain ⟨inner, outer, bindsInner, bindsOuter, rfl⟩ := mapM_append_eq_ok.mp binds
      cases bindsOuter
      obtain ⟨truth, evaluated, run⟩ := ih bindsInner stack
      refine ⟨!truth, ?_, ?_⟩
      · rw [evaluate, evaluated]
        rfl
      · rw [List.foldlM_append, run]
        rfl
  | join junction left right leftRuns rightRuns =>
      obtain ⟨operands, outer, bindsOperands, bindsOuter, rfl⟩ := mapM_append_eq_ok.mp binds
      obtain ⟨first, second, bindsFirst, bindsSecond, rfl⟩ := mapM_append_eq_ok.mp bindsOperands
      cases bindsOuter
      obtain ⟨leftTruth, leftEvaluated, leftRun⟩ := leftRuns bindsFirst stack
      -- The right operand runs on top of the truth of the left one.
      obtain ⟨rightTruth, rightEvaluated, rightRun⟩ := rightRuns bindsSecond (leftTruth :: stack)
      have operandsRun : (first ++ second).foldlM (BoundTerm.run row) stack =
          .ok (rightTruth :: leftTruth :: stack) := by
        rw [List.foldlM_append, leftRun, ok_bind, rightRun]
      refine ⟨junction.combine leftTruth rightTruth, ?_, ?_⟩
      · rw [evaluate, leftEvaluated, ok_bind, rightEvaluated]
        rfl
      · rw [List.foldlM_append, operandsRun]
        cases junction <;> rfl

end Formula

/-- The result of a bound condition on a row. -/
def BoundCondition.accepts (bound : BoundCondition) (row : Row) : Bool :=
  match bound.evaluate row with
  | .ok truth => truth
  | .error _ => false

namespace Condition

/-- A condition is bound term by term. -/
theorem bind_ok {condition : Condition} {schema : Schema} {bound : BoundCondition} :
    condition.bind schema = .ok bound ↔
      condition.terms.mapM (Term.bind schema) = .ok bound.terms := by
  rw [Condition.bind, bind_eq_ok]
  constructor
  · rintro ⟨terms, mapped, last⟩
    cases last
    exact mapped
  · intro mapped
    exact ⟨_, mapped, rfl⟩

/-- A bound condition reads columns of the schema only. -/
theorem bind_within {condition : Condition} {schema : Schema} {bound : BoundCondition}
    (binds : condition.bind schema = .ok bound) {check : Check}
    (present : .check check ∈ bound.terms) : check.Within schema.size := by
  obtain ⟨term, _, made⟩ := mem_of_mapM (bind_ok.mp binds) present
  cases term with
  | leaf predicate =>
      obtain ⟨other, checked, same⟩ := bind_eq_ok.mp made
      cases same
      exact Predicate.bind_within checked
  | connective operator => cases made

/-- A bound condition computes the truth of the tree that its terms write. -/
theorem evaluate_of_terms {condition : Condition} {schema : Schema} {bound : BoundCondition}
    (binds : condition.bind schema = .ok bound) {formula : Formula}
    (written : formula.terms = condition.terms) (row : Row) :
    ∃ truth, formula.evaluate schema row = .ok truth ∧ bound.evaluate row = .ok truth := by
  have mapped := bind_ok.mp binds
  rw [← written] at mapped
  obtain ⟨truth, evaluated, run⟩ := Formula.run_terms row mapped []
  refine ⟨truth, evaluated, ?_⟩
  rw [BoundCondition.evaluate, run]
  rfl

/-- A bound condition decides every row. -/
theorem evaluate_eq_accepts {condition : Condition} {schema : Schema} {bound : BoundCondition}
    (binds : condition.bind schema = .ok bound) (row : Row) :
    bound.evaluate row = .ok (bound.accepts row) := by
  obtain ⟨formula, written⟩ := condition.exists_formula
  obtain ⟨truth, _, ran⟩ := evaluate_of_terms binds written row
  rw [BoundCondition.accepts, ran]

/-- A bound condition has a result on every row. -/
theorem mapM_evaluate {condition : Condition} {schema : Schema} {bound : BoundCondition}
    (binds : condition.bind schema = .ok bound) (rows : List Row) :
    rows.mapM bound.evaluate = .ok (rows.map bound.accepts) := by
  rw [mapM_eq_ok, List.forall₂_map_right_iff, List.forall₂_same]
  exact fun row _ => evaluate_eq_accepts binds row

end Condition

namespace Predicate

/-- The condition that has one leaf and no connective. -/
def condition (predicate : Predicate) : Condition := ⟨[.leaf predicate], rfl⟩

/-- A condition of one leaf is bound to one check. -/
theorem condition_bind {schema : Schema} {predicate : Predicate} {check : Check}
    (bound : predicate.bind schema = .ok check) :
    predicate.condition.bind schema = .ok ⟨[.check check]⟩ := by
  refine Condition.bind_ok.mpr (mapM_eq_ok.mpr (.cons ?_ .nil))
  rw [Term.bind, bound]
  rfl

/-- A comparison is bound when each of its operands names a column or is a literal. -/
theorem bind_compare {schema : Schema} {left right : Operand} {first second : Option Nat}
    (leftFound : left.column? schema = .ok first) (rightFound : right.column? schema = .ok second)
    (comparator : Comparator) :
    (compare left comparator right).bind schema = .ok (.compare (left.side schema first second)
      comparator (right.side schema second first)) :=
  bind_eq_ok.mpr ⟨first, leftFound, bind_eq_ok.mpr ⟨second, rightFound, rfl⟩⟩

end Predicate

namespace Condition

/-- Terms are accepted as a condition exactly when they write a tree, and no other tree is written
by the same terms. When the condition is bound, it reads no column that a row of the schema lacks,
and the stack always ends with the truth of the tree. -/
theorem computes_tree (terms : List Term) :
    ((∃ condition, ofTerms terms = .ok condition) ↔ ∃ formula : Formula, formula.terms = terms) ∧
      (∀ first second : Formula, first.terms = terms → second.terms = terms → first = second) ∧
      ∀ condition, ofTerms terms = .ok condition → ∀ schema bound,
        condition.bind schema = .ok bound → ∀ row : Row, row.length = schema.size →
          (∀ check, .check check ∈ bound.terms → check.Within row.length) ∧
          ∃ (formula : Formula) (truth : Bool), formula.terms = terms ∧
            formula.evaluate schema row = .ok truth ∧ bound.evaluate row = .ok truth := by
  refine ⟨⟨?_, ?_⟩, ?_, ?_⟩
  · rintro ⟨condition, accepted⟩
    obtain ⟨formula, written⟩ := condition.exists_formula
    exact ⟨formula, written.trans (ofTerms_ok.mp accepted)⟩
  · rintro ⟨formula, rfl⟩
    exact ⟨formula.condition, ofTerms_ok.mpr rfl⟩
  · intro first second same other
    exact Formula.terms_injective (same.trans other.symm)
  · intro condition accepted schema bound binds row size
    have whole := ofTerms_ok.mp accepted
    obtain ⟨formula, written⟩ := condition.exists_formula
    obtain ⟨truth, evaluated, ran⟩ := evaluate_of_terms binds written row
    refine ⟨?_, formula, truth, written.trans whole, evaluated, ran⟩
    intro check present
    rw [size]
    exact bind_within binds present

/-- A denied conjunction of a comparison and a column. -/
theorem computes_tree_not_both :
    let schema : Schema := ⟨[.fresh "a" "t" .int false, .fresh "b" "t" .bool false]⟩
    let row : Row := [.int 1, .bool false]
    let terms : List Term := [.leaf (.compare ⟨"a", false⟩ .equal ⟨"1", false⟩),
      .leaf (.alone ⟨"t.b", false⟩), .connective .and, .connective .not]
    let bound : BoundCondition := ⟨[.check (.compare (.column 0) .equal (.literal (.int 1))),
      .check (.truthy 1), .connective .and, .connective .not]⟩
    ∃ condition, ofTerms terms = .ok condition ∧ condition.bind schema = .ok bound ∧
      row.length = schema.size ∧ ∃ formula : Formula, formula.terms = terms ∧
        formula.evaluate schema row = .ok true ∧ bound.evaluate row = .ok true := by
  intro schema row terms bound
  have accepted : ofTerms terms = .ok ⟨terms, rfl⟩ := ofTerms_ok.mpr rfl
  have binds : (Condition.mk terms rfl).bind schema = .ok bound := by decide +kernel
  have ran : bound.evaluate row = .ok true := by decide +kernel
  obtain ⟨_, formula, truth, written, evaluated, same⟩ :=
    (computes_tree terms).2.2 _ accepted schema bound binds row rfl
  rw [ran, Except.ok.injEq] at same
  subst same
  exact ⟨_, accepted, binds, rfl, formula, written, evaluated, ran⟩

end Condition

end TableStore
