/-
This file joins two tables on one column of each.
-/

import TableStore.Table

namespace TableStore

namespace Table

/-- The rows of the right table that match a row of the left table. -/
def matching (leftPosition rightPosition : Nat) (right : List Row) (row : Row) : List Row :=
  right.filter fun other => (row.at leftPosition).equals (other.at rightPosition)

/-- A row stands in front of each of its matches. Where unmatched rows are kept, a row without a
match stands once, in front of nulls. -/
def joinRow (keepUnmatched : Bool) (rightSize : Nat) (found : List Row) (row : Row) : List Row :=
  if keepUnmatched && found.isEmpty then [row ++ List.replicate rightSize .null]
  else found.map (row ++ ·)

/-- The rows of the left table come in order, each with its matches in order. -/
def joinWith (keepUnmatched : Bool) (left right : Table) (leftName rightName : String) :
    Except Fault Table := do
  let leftPosition ← left.schema.resolve leftName
  let rightPosition ← right.schema.resolve rightName
  return {
    name := left.name ++ "_" ++ right.name
    schema := left.schema.merge right.schema
    primaryKey := none
    rows := left.rows.flatMap fun row =>
      joinRow keepUnmatched right.schema.size
        (matching leftPosition rightPosition right.rows row) row }

/-- An inner join has only matched rows. -/
def innerJoin (left right : Table) (leftName rightName : String) : Except Fault Table :=
  joinWith false left right leftName rightName

/-- A left join keeps every row of the left table. -/
def leftJoin (left right : Table) (leftName rightName : String) : Except Fault Table :=
  joinWith true left right leftName rightName

/-- A right join keeps every row of the right table, whose columns then come first. -/
def rightJoin (left right : Table) (leftName rightName : String) : Except Fault Table :=
  leftJoin right left rightName leftName

/-- The kind decides which rows are kept. -/
def join (kind : JoinKind) (left right : Table) (leftName rightName : String) :
    Except Fault Table :=
  match kind with
  | .inner => innerJoin left right leftName rightName
  | .left => leftJoin left right leftName rightName
  | .right => rightJoin left right leftName rightName

end Table

end TableStore
