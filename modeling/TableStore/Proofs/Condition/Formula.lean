/-
This file arranges the terms of conditions in trees.
Each tree is written as a list of terms in which every connective follows its operands.
-/

import TableStore.Condition.Infix

namespace TableStore

/-- A junction stands between two operands. -/
inductive Junction where
  | and
  | or
deriving DecidableEq, Repr

namespace Junction

def connective : Junction → Connective
  | and => .and
  | or => .or

@[simp] theorem arity_connective (junction : Junction) : junction.connective.arity = 2 := by
  cases junction <;> rfl

end Junction

/-- A condition with its operands inside of their connectives. -/
inductive Formula where
  | leaf (predicate : Predicate)
  | not (operand : Formula)
  | join (junction : Junction) (left right : Formula)
deriving DecidableEq, Repr

namespace Formula

/-- The operands of a connective come before it, the left one first. -/
def terms : Formula → List Term
  | leaf predicate => [.leaf predicate]
  | not operand => operand.terms ++ [.connective .not]
  | join junction left right => left.terms ++ right.terms ++ [.connective junction.connective]

/-- The terms of a formula leave one more result. -/
theorem depth_terms (formula : Formula) (depth : Nat) :
    formula.terms.foldlM Term.depth depth = .ok (depth + 1) := by
  induction formula generalizing depth with
  | leaf predicate => rfl
  | not operand ih =>
      rw [terms, List.foldlM_append, ih]
      rfl
  | join junction left right leftDepth rightDepth =>
      rw [terms, List.foldlM_append, List.foldlM_append, leftDepth]
      change (right.terms.foldlM Term.depth (depth + 1) >>= _) = _
      rw [rightDepth]
      change List.foldlM Term.depth (depth + 1 + 1) [.connective junction.connective] = _
      have enough : ¬ depth + 1 + 1 < 2 := by omega
      simp [Term.depth, enough]

/-- The terms of a tree leave one result. -/
theorem depthAfter_terms (formula : Formula) : Term.depthAfter formula.terms = .ok 1 :=
  formula.depth_terms 0

/-- A formula is a condition. -/
def condition (formula : Formula) : Condition := ⟨formula.terms, formula.depthAfter_terms⟩

@[simp] theorem condition_terms (formula : Formula) : formula.condition.terms = formula.terms := rfl

end Formula

/-- Terms that leave one result form a condition. -/
theorem Condition.ofTerms_eq {terms : List Term} (settled : Term.depthAfter terms = .ok 1) :
    Condition.ofTerms terms = .ok ⟨terms, settled⟩ := by
  unfold Condition.ofTerms
  split
  · rename_i starved
    rw [settled] at starved
    cases starved
  · rfl
  · rename_i other unsettled
    rw [settled] at unsettled
    cases unsettled
    contradiction

end TableStore
