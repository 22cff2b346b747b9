/-
This file puts the name of the table in front of names of its columns.
The columns are found as before, so conditions stay the same once their operands are resolved.
-/

import TableStore.Proofs.Schema.Resolution
import TableStore.Proofs.Success

namespace TableStore

/-- The columns belong to the table, and its name has no point that would cut it. -/
structure Table.Owns (table : Table) : Prop where
  owned : ∀ column ∈ table.schema.columns, column.table = table.name
  plain : '.' ∉ table.name.toList

/-- The same name, or a bare name and the same name with the table in front. -/
def Qualified (table name other : String) : Prop :=
  other = name ∨ '.' ∉ name.toList ∧ other = table ++ "." ++ name

/-- An operand that names a column may be qualified, and a literal stays. -/
structure Operand.Qualifies (table : Table) (operand other : Operand) : Prop where
  quoting : other.isQuoted = operand.isQuoted
  text : Qualified table.name operand.text other.text
  literal : table.schema.indexOf? operand.text = none → other.text = operand.text

inductive Predicate.Qualifies (table : Table) : Predicate → Predicate → Prop where
  | compare {left right first second : Operand} (comparator : Comparator) :
      left.Qualifies table first → right.Qualifies table second →
      Qualifies table (.compare left comparator right) (.compare first comparator second)
  | alone {operand other : Operand} :
      operand.Qualifies table other → Qualifies table (.alone operand) (.alone other)

inductive Term.Qualifies (table : Table) : Term → Term → Prop where
  | leaf {predicate other : Predicate} :
      predicate.Qualifies table other → Qualifies table (.leaf predicate) (.leaf other)
  | connective (operator : Connective) : Qualifies table (.connective operator) (.connective operator)

/-- Any of the operands that name columns may be qualified. -/
def Condition.Qualifies (table : Table) (condition other : Condition) : Prop :=
  List.Forall₂ (Term.Qualifies table) condition.terms other.terms

/-- A bare name with its table in front finds the same column as alone, or none as well. -/
theorem Schema.indexOf?_of_owner {schema : Schema} {table name : String}
    (owned : ∀ column ∈ schema.columns, column.table = table) (plain : '.' ∉ table.toList)
    (bare : '.' ∉ name.toList) : schema.indexOf? (table ++ "." ++ name) = schema.indexOf? name := by
  have point : '.' ∈ (table ++ "." ++ name).toList := by simp
  have cut := qualifier?_qualified plain name
  rw [indexOf?, indexOf?, if_pos point, if_neg bare]
  obtain ⟨columns⟩ := schema
  induction columns with
  | nil => rfl
  | cons column rest ih =>
      rw [List.forall_mem_cons] at owned
      have answers : column.isNamed (table ++ "." ++ name) = (column.name == name) := by
        simp only [Column.isNamed, cut, owned.1, beq_self_eq_true, Bool.true_and]
        exact Bool.beq_comm
      rw [List.findIdx?_cons, List.findIdx?_cons, answers, ih owned.2]

namespace Table.Owns

variable {table : Table} (owns : table.Owns)
include owns

/-- A qualified name finds the column of the bare one. -/
theorem indexOf?_qualified {name other : String} (qualified : Qualified table.name name other) :
    table.schema.indexOf? other = table.schema.indexOf? name := by
  rcases qualified with rfl | ⟨bare, rfl⟩
  · rfl
  · exact Schema.indexOf?_of_owner owns.owned owns.plain bare

/-- An operand stays, or it finds the same column as before. -/
theorem operand_cases {operand other : Operand} (qualifies : operand.Qualifies table other) :
    other = operand ∨ other.isQuoted = operand.isQuoted ∧ ∃ position,
      table.schema.indexOf? operand.text = some position ∧
        table.schema.indexOf? other.text = some position := by
  have same := owns.indexOf?_qualified qualifies.text
  cases found : table.schema.indexOf? operand.text with
  | none =>
      obtain ⟨text, quoted⟩ := operand
      obtain ⟨otherText, otherQuoted⟩ := other
      obtain rfl : otherQuoted = quoted := qualifies.quoting
      obtain rfl : otherText = text := qualifies.literal found
      exact Or.inl rfl
  | some position => exact Or.inr ⟨qualifies.quoting, position, rfl, same.trans found⟩

/-- The qualified operand names the same column, or is a literal as well. -/
theorem column?_qualifies {operand other : Operand} (qualifies : operand.Qualifies table other) :
    other.column? table.schema = operand.column? table.schema := by
  rcases owns.operand_cases qualifies with rfl | ⟨_, position, before, after⟩
  · rfl
  · rw [Operand.column?, Operand.column?, before, after]

/-- Only a literal is read by the column that it faces. -/
theorem side_qualifies {operand other : Operand} (qualifies : operand.Qualifies table other)
    {own : Option Nat} (found : operand.column? table.schema = .ok own) (facing : Option Nat) :
    other.side table.schema own facing = operand.side table.schema own facing := by
  rcases owns.operand_cases qualifies with rfl | ⟨_, position, before, _⟩
  · rfl
  · rw [Operand.column?, before] at found
    cases found
    rfl

/-- The qualified operand is checked alone as the bare one is. -/
theorem alone_qualifies {operand other : Operand} (qualifies : operand.Qualifies table other) :
    other.alone table.schema = operand.alone table.schema := by
  rcases owns.operand_cases qualifies with rfl | ⟨quoting, position, before, after⟩
  · rfl
  · simp only [Operand.alone, Operand.column?, quoting, before, after]

/-- A qualified leaf is bound to the same check, or fails for the same cause. -/
theorem bind_predicate {predicate other : Predicate} (qualifies : predicate.Qualifies table other) :
    other.bind table.schema = predicate.bind table.schema := by
  cases qualifies with
  | alone operand => exact owns.alone_qualifies operand
  | @compare left right first second comparator early late =>
      simp only [Predicate.bind, owns.column?_qualifies early, owns.column?_qualifies late]
      cases leftFound : left.column? table.schema with
      | error cause => rfl
      | ok own =>
          cases rightFound : right.column? table.schema with
          | error cause => rfl
          | ok facing =>
              simp only [ok_bind, owns.side_qualifies early leftFound,
                owns.side_qualifies late rightFound]

/-- A qualified term is bound as the bare one is. -/
theorem bind_term {term other : Term} (qualifies : term.Qualifies table other) :
    other.bind table.schema = term.bind table.schema := by
  cases qualifies with
  | leaf predicate => simp only [Term.bind, owns.bind_predicate predicate]
  | connective operator => rfl

/-- A condition is resolved to the same columns and literals, or fails for the same cause. -/
theorem bind_condition {condition other : Condition}
    (qualifies : condition.Qualifies table other) :
    other.bind table.schema = condition.bind table.schema := by
  rw [Condition.bind, Condition.bind, mapM_congr]
  exact qualifies.imp fun _ _ term => owns.bind_term term

end Table.Owns

end TableStore
