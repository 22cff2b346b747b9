/-
This file defines tables, the declaration of new ones, and queries on one table.
-/

import TableStore.Condition.Bound
import TableStore.ResultSet

namespace TableStore

/-- A table may have a primary key, and joined tables have none. -/
structure Table where
  name : String
  schema : Schema
  primaryKey : Option Nat
  rows : List Row
deriving DecidableEq

namespace Table

/-- The name of the key column. -/
def keyName? (table : Table) : Option String :=
  (table.primaryKey.bind (table.schema.columns[·]?)).map (·.name)

def hasColumn (table : Table) (name : String) : Bool := (table.schema.indexOf? name).isSome

/-- A declared column must have a new name, and only one may be the key. -/
def addDeclared (table : String) (state : List Column × Option Nat)
    (declaration : ColumnDeclaration) : Except Fault (List Column × Option Nat) :=
  let (columns, key) := state
  if columns.any (·.name == declaration.name) then
    .error (.logic (.repeatedColumn declaration.name))
  else if declaration.primaryKey && key.isSome then .error (.logic .severalPrimaryKeys)
  else
    .ok (columns ++ [Column.fresh declaration.name table declaration.type declaration.notNull],
      if declaration.primaryKey then some columns.length else key)

/-- The first column is the key when no column is declared as the key. -/
def declare (name : String) (declarations : List ColumnDeclaration) : Except Fault Table :=
  if declarations = [] then .error (.grammar (.noColumn name))
  else do
    let (columns, key) ← declarations.foldlM (addDeclared name) ([], none)
    return ⟨name, ⟨columns⟩, some (key.getD 0), []⟩

/-- Each row is marked with whether the condition accepts it. -/
def marks (table : Table) (condition : Condition) : Except Fault (List Bool) := do
  let bound ← condition.bind table.schema
  table.rows.mapM bound.evaluate

/-- The rows with the given mark. -/
def marked (rows : List Row) (marks : List Bool) (mark : Bool) : List Row :=
  ((rows.zip marks).filter (·.2 == mark)).map (·.1)

/-- The accepted rows are projected on the named columns, in the order of the names. -/
def select (table : Table) (names : Option (List String)) (condition : Condition) :
    Except Fault ResultSet := do
  let positions ← table.schema.positions names
  let marks ← table.marks condition
  let columns := positions.filterMap (table.schema.columns[·]?)
  return ⟨columns.map (·.name), columns.map (·.width),
    (marked table.rows marks true).map fun row => positions.map row.at⟩

/-- The accepted rows are removed and counted. -/
def delete (table : Table) (condition : Condition) : Except Fault (Nat × Table) := do
  let marks ← table.marks condition
  return (marks.count true, { table with rows := marked table.rows marks false })

end Table

end TableStore
