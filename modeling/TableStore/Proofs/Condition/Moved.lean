/-
This file moves the columns of a table to other positions.
A condition that finds its columns at their new positions accepts a moved row when it accepted the
row before, and where it does not find them it fails with the same fault.
-/

import TableStore.Proofs.Condition.Evaluation

namespace TableStore

/-- The texts that a leaf looks up as columns. A text that names no column is a literal. -/
def Predicate.references : Predicate → List String
  | compare left _ right => [left.text, right.text]
  | alone operand => if operand.isQuoted then [] else [operand.text]

def Term.references : Term → List String
  | leaf predicate => predicate.references
  | connective _ => []

/-- The texts that a condition looks up as columns. -/
def Condition.references (condition : Condition) : List String :=
  condition.terms.flatMap Term.references

/-- All columns of a schema stand at other positions of a second one, and the names find them
there. -/
structure Schema.Moves (move : Nat → Nat) (first second : Schema) (names : List String) : Prop where
  found : ∀ name ∈ names, second.indexOf? name = (first.indexOf? name).map move
  columns : ∀ position, second.columns[move position]? = first.columns[position]?

/-- All values of a row stand at other positions of a second one. -/
def Row.Moves (move : Nat → Nat) (row other : Row) : Prop :=
  ∀ position, other.at (move position) = row.at position

def Side.moved (move : Nat → Nat) : Side → Side
  | column position => .column (move position)
  | literal value => .literal value

def Check.moved (move : Nat → Nat) : Check → Check
  | compare left comparator right => .compare (left.moved move) comparator (right.moved move)
  | truthy position => .truthy (move position)
  | constant truth => .constant truth

def BoundTerm.moved (move : Nat → Nat) : BoundTerm → BoundTerm
  | check content => .check (content.moved move)
  | connective operator => .connective operator

def BoundCondition.moved (move : Nat → Nat) (bound : BoundCondition) : BoundCondition :=
  ⟨bound.terms.map (BoundTerm.moved move)⟩

variable {move : Nat → Nat}

section Binding

variable {first second : Schema} {names : List String}

/-- A name is found at the moved position, or is unknown to both schemas. -/
theorem Schema.resolve_moved (moves : Schema.Moves move first second names) {name : String}
    (named : name ∈ names) : second.resolve name = (first.resolve name).map move := by
  unfold resolve
  rw [moves.found name named]
  cases first.indexOf? name <;> rfl

/-- An operand names the moved column or is a literal in both schemas. -/
theorem Operand.column?_moved (moves : Schema.Moves move first second names) {operand : Operand}
    (named : operand.text ∈ names) :
    operand.column? second = (operand.column? first).map (Option.map move) := by
  unfold column?
  rw [moves.found operand.text named]
  cases first.indexOf? operand.text with
  | some position => rfl
  | none =>
      dsimp only [Option.map_none]
      split <;> rfl

/-- A literal is read by the type of the same column. -/
theorem Operand.literal_moved (moves : Schema.Moves move first second names) (facing : Option Nat)
    (operand : Operand) :
    operand.literal second (facing.map move) = operand.literal first facing := by
  cases facing with
  | none => rfl
  | some position =>
      unfold literal
      simp only [Option.map_some, Option.bind_some, moves.columns]

/-- A literal keeps its value, since the column that it faces keeps its type. -/
theorem Operand.side_moved (moves : Schema.Moves move first second names) (own facing : Option Nat)
    (operand : Operand) :
    operand.side second (own.map move) (facing.map move) =
      (operand.side first own facing).moved move := by
  cases own with
  | some position => rfl
  | none => exact congrArg Side.literal (literal_moved moves facing operand)

/-- An operand alone is checked at the moved position. -/
theorem Operand.alone_moved (moves : Schema.Moves move first second names) {operand : Operand}
    (named : operand.isQuoted = false → operand.text ∈ names) :
    operand.alone second = (operand.alone first).map (Check.moved move) := by
  unfold alone
  cases quoted : operand.isQuoted with
  | true => rfl
  | false =>
      rw [column?_moved moves (named quoted)]
      cases operand.column? first with
      | error cause => rfl
      | ok own =>
          cases own with
          | some position => rfl
          | none =>
              cases Value.boolLiteral? operand.text with
              | some truth => rfl
              | none =>
                  cases Value.intLiteral? operand.text with
                  | some number => rfl
                  | none =>
                      cases Value.fractionLiteral? operand.text with
                      | some number => rfl
                      | none => cases Value.isNullLiteral operand.text <;> rfl

/-- A leaf is bound to the moved positions, with the same faults. -/
theorem Predicate.bind_moved {predicate : Predicate}
    (moves : Schema.Moves move first second predicate.references) :
    predicate.bind second = (predicate.bind first).map (Check.moved move) := by
  cases predicate with
  | alone operand =>
      apply Operand.alone_moved moves
      intro bare
      simp [references, bare]
  | compare left comparator right =>
      have leftNamed : left.text ∈ (compare left comparator right).references :=
        List.mem_cons_self
      have rightNamed : right.text ∈ (compare left comparator right).references :=
        List.mem_cons_of_mem _ List.mem_cons_self
      simp only [Predicate.bind, Operand.column?_moved moves leftNamed,
        Operand.column?_moved moves rightNamed]
      cases left.column? first with
      | error cause => rfl
      | ok own =>
          cases right.column? first with
          | error cause => rfl
          | ok facing =>
              have forth := Operand.side_moved moves own facing left
              have back := Operand.side_moved moves facing own right
              simp only [Except.map, ok_bind, pure_eq_ok, forth, back]
              rfl

/-- A condition finds the moved columns, or fails with the same fault. -/
theorem Condition.bind_moved {condition : Condition}
    (moves : Schema.Moves move first second condition.references) :
    condition.bind second = (condition.bind first).map (BoundCondition.moved move) := by
  have each : ∀ term ∈ condition.terms,
      term.bind second = (term.bind first).map (BoundTerm.moved move) := by
    intro term present
    cases term with
    | connective operator => rfl
    | leaf predicate =>
        have own : Schema.Moves move first second predicate.references := by
          refine ⟨fun name named => moves.found name ?_, moves.columns⟩
          exact List.mem_flatMap.mpr ⟨_, present, named⟩
        simp only [Term.bind, Predicate.bind_moved own]
        cases predicate.bind first <;> rfl
  unfold bind
  rw [mapM_map_eq each]
  cases condition.terms.mapM (·.bind first) <;> rfl

end Binding

section Evaluation

variable {row other : Row}

/-- A moved side finds the same value in a moved row. -/
theorem Side.value_moved (moves : Row.Moves move row other) (side : Side) :
    (side.moved move).value other = side.value row := by
  cases side with
  | column position => exact moves position
  | literal value => rfl

/-- A moved check has the same truth on a moved row. -/
theorem Check.test_moved (moves : Row.Moves move row other) (check : Check) :
    (check.moved move).test other = check.test row := by
  cases check with
  | compare left comparator right =>
      simp only [moved, test, Side.value_moved moves]
  | truthy position => exact congrArg Value.truthy (moves position)
  | constant truth => rfl

/-- A moved term does the same to the stack on a moved row. -/
theorem BoundTerm.run_moved (moves : Row.Moves move row other) (stack : List Bool)
    (term : BoundTerm) : (term.moved move).run other stack = term.run row stack := by
  cases term with
  | check content => simp only [moved, run, Check.test_moved moves]
  | connective operator => cases operator <;> rfl

/-- A moved condition accepts a moved row when the condition accepts the row. -/
theorem BoundCondition.accepts_moved (moves : Row.Moves move row other) (bound : BoundCondition) :
    (bound.moved move).accepts other = bound.accepts row := by
  have same : (bound.moved move).evaluate other = bound.evaluate row := by
    simp only [moved, evaluate, List.foldlM_map, BoundTerm.run_moved moves]
  rw [accepts, accepts, same]

end Evaluation

end TableStore
