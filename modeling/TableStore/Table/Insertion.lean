/-
This file inserts rows into tables.
-/

import TableStore.Table

namespace TableStore.Table

/-- A value goes to its position once. -/
def fillSlot (schema : Schema) (slots : List (Option Value)) (entry : Nat × String) :
    Except Fault (List (Option Value)) :=
  match schema.columns[entry.1]? with
  | none => .ok slots
  | some column =>
      if (slots[entry.1]?.getD none).isSome then .error (.logic (.columnGivenTwice column.name))
      else do
        let value ← column.type.readLiteral entry.2
        return slots.set entry.1 (some value)

/-- A cell must have the kind of its column, and null must be allowed there. -/
def checkCell (column : Column) (value : Value) : Except Fault Unit :=
  if !column.type.accepts value then
    .error (.logic (.kindMismatch value column.name column.type))
  else if column.notNull && value.isNull then .error (.logic (.nullInColumn column.name))
  else .ok ()

/-- A key other than null must not stand in the table yet. -/
def checkKey (table : Table) (row : Row) : Except Fault Unit :=
  match table.primaryKey with
  | none => .ok ()
  | some position =>
      let key := row.at position
      if !key.isNull && table.rows.any (fun other => (other.at position).same key) then
        .error (.logic (.repeatedKey key))
      else .ok ()

/-- A row that fits all columns goes to the end, and the columns become wide enough for it. -/
def insert (table : Table) (row : Row) : Except Fault Table :=
  if row.length ≠ table.schema.size then .error (.logic (.rowSize row.length table.schema.size))
  else do
    (table.schema.columns.zip row).forM fun cell => checkCell cell.1 cell.2
    table.checkKey row
    return { table with
      schema := ⟨List.zipWith Column.fit table.schema.columns row⟩
      rows := table.rows ++ [row] }

/-- A row of literals is inserted. Columns that are not named hold null. -/
def addRow (table : Table) (values : List String) (names : Option (List String)) :
    Except Fault Table := do
  let positions ← table.schema.positions names
  if values.length ≠ positions.length then
    throw (.logic (.valueCount values.length positions.length))
  let slots ← (positions.zip values).foldlM (fillSlot table.schema)
    (List.replicate table.schema.size none)
  table.insert (slots.map (·.getD .null))

end TableStore.Table
