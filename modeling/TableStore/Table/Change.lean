/-
This file changes rows of tables in place.
-/

import TableStore.Table

namespace TableStore.Table

/-- Each column is assigned once, and the literal must fit it. -/
def addTarget (schema : Schema) (targets : List (Nat × Value)) (assignment : String × String) :
    Except Fault (List (Nat × Value)) := do
  let position ← schema.resolve assignment.1
  if targets.any (·.1 == position) then throw (.logic (.assignedTwice assignment.1))
  match schema.columns[position]? with
  | none => return targets
  | some column =>
      let value ← column.type.readLiteral assignment.2
      if column.notNull && value.isNull then throw (.logic (.nullInColumn column.name))
      return targets ++ [(position, value)]

/-- The targets replace the values at their positions. -/
def assign (targets : List (Nat × Value)) (row : Row) : Row :=
  targets.foldl (fun row target => row.set target.1 target.2) row

/-- The key that the accepted rows would get, unless it is null. -/
def newKey? (table : Table) (targets : List (Nat × Value)) : Option (Nat × Value) :=
  table.primaryKey.bind fun position =>
    targets.find? fun target => target.1 == position && !target.2.isNull

/-- A new key must go to at most one row, and no other row may have it. -/
def checkChange (table : Table) (targets : List (Nat × Value)) (marks : List Bool) :
    Except Fault Unit :=
  match table.newKey? targets with
  | none => .ok ()
  | some (position, key) =>
      let count := marks.count true
      let taken := (marked table.rows marks false).any fun other => (other.at position).same key
      if count > 1 || (count == 1 && taken) then .error (.logic (.repeatedKey key)) else .ok ()

/-- The accepted rows get the assigned values and are counted. -/
def update (table : Table) (assignments : List (String × String)) (condition : Condition) :
    Except Fault (Nat × Table) := do
  let targets ← assignments.foldlM (addTarget table.schema) []
  let marks ← table.marks condition
  table.checkChange targets marks
  let count := marks.count true
  let rows := List.zipWith (fun row mark => if mark then assign targets row else row) table.rows marks
  let schema :=
    if count > 0 then
      targets.foldl (fun schema target => schema.modify target.1 (·.fit target.2)) table.schema
    else table.schema
  return (count, { table with schema := schema, rows := rows })

end TableStore.Table
