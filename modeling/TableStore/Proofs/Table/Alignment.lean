/-
This file says that the columns of a table are wide enough for what stands in them.
Every change of a table makes room for its values, and joins and queries keep the room.
-/

import TableStore.Join
import TableStore.Proofs.ResultSet.Lines
import TableStore.Proofs.Table.Change
import TableStore.Proofs.Table.Declaration
import TableStore.Proofs.Table.Insertion

namespace TableStore

namespace Column

/-- A wide column has room for null and for its own name. -/
structure Wide (column : Column) : Prop where
  least : leastWidth ≤ column.width
  name : column.name.length ≤ column.width

/-- The text of a value has room in the column. -/
def Shows (column : Column) (value : Value) : Prop := value.display.length ≤ column.width

/-- A wider column is wide as well. -/
theorem wide_steady (column wider : Column) (grows : column.Grows wider) (wide : column.Wide) :
    wider.Wide := by
  have name := wide.name
  have least := wide.least
  have grown := grows.width
  have same : wider.name = column.name := by rw [grows.same]
  constructor
  · omega
  · rw [same]
    omega

/-- A wide column has room for null, although no one stored it there. -/
theorem Wide.null {column : Column} (wide : column.Wide) : column.Shows .null := wide.least

end Column

/-- The cell at the position of a column goes with it. -/
theorem Row.at_of_cells {Cell : Column → Value → Prop} {columns : List Column} {row : Row}
    (cells : List.Forall₂ Cell columns row) {position : Nat} {column : Column}
    (found : columns[position]? = some column) : Cell column (row.at position) := by
  induction cells generalizing position with
  | nil => simp at found
  | cons cell _ ih =>
      cases position with
      | zero =>
          cases found
          exact cell
      | succ earlier => exact ih found

namespace Table

/-- The columns of an aligned table are wide, and they have room for all values of the table. -/
structure Aligned (table : Table) : Prop where
  columns : ∀ column ∈ table.schema.columns, column.Wide
  cells : table.Every Column.Shows

/-- The table changes its rows and the widths of its columns only, and no width shrinks. -/
structure Widens (table changed : Table) : Prop where
  name : changed.name = table.name
  columns : List.Forall₂ Column.Grows table.schema.columns changed.schema.columns

theorem Widens.refl (table : Table) : table.Widens table :=
  ⟨rfl, List.forall₂_same.mpr fun column _ => .refl column⟩

/-- Inserting a row may widen columns and does no more to them. -/
theorem insert_widens {table changed : Table} {row : Row}
    (stored : table.insert row = .ok changed) : table.Widens changed := by
  obtain ⟨admitted, _, rfl⟩ := insert_ok.mp stored
  exact ⟨rfl, fit_columns_grow admitted.length_eq⟩

/-- Inserting literals may widen columns and does no more to them. -/
theorem addRow_widens {table changed : Table} {values : List String} {names : Option (List String)}
    (added : table.addRow values names = .ok changed) : table.Widens changed := by
  obtain ⟨row, _, stored⟩ := addRow_ok added
  exact insert_widens stored

/-- Deleting rows leaves all columns as they are. -/
theorem delete_widens {table changed : Table} {condition : Condition} {count : Nat}
    (done : table.delete condition = .ok (count, changed)) : table.Widens changed := by
  obtain ⟨rows, _, rfl⟩ := delete_ok done
  exact ⟨rfl, (Widens.refl table).columns⟩

/-- An update may widen the assigned columns and does no more to them. -/
theorem update_widens {table changed : Table} {assignments : List (String × String)}
    {condition : Condition} {count : Nat}
    (done : table.update assignments condition = .ok (count, changed)) : table.Widens changed := by
  obtain ⟨targets, marks, _, _, _, rfl⟩ := update_ok done
  exact ⟨rfl, updated_grows table targets marks⟩

/-- An aligned table that grows stays aligned when its new cells have room. -/
theorem Aligned.widened {table changed : Table} (aligned : table.Aligned)
    (widens : table.Widens changed) (cells : changed.Every Column.Shows) : changed.Aligned :=
  ⟨Column.forall_of_grow Column.wide_steady widens.columns aligned.columns, cells⟩

/-- The rows of a join are a row of the left table with a row of the right one or with nulls. -/
theorem mem_joinRow {keepUnmatched : Bool} {size : Nat} {found : List Row} {row joined : Row}
    (present : joined ∈ joinRow keepUnmatched size found row) :
    joined = row ++ List.replicate size .null ∨ ∃ other ∈ found, joined = row ++ other := by
  unfold joinRow at present
  split at present
  · exact Or.inl (List.mem_singleton.mp present)
  · obtain ⟨other, member, rfl⟩ := List.mem_map.mp present
    exact Or.inr ⟨other, member, rfl⟩

/-- Every chosen position is one of the schema. -/
theorem positions_within {schema : Schema} {names : Option (List String)} {positions : List Nat}
    (done : schema.positions names = .ok positions) :
    ∀ position ∈ positions, position < schema.size := by
  cases names with
  | none =>
      cases done
      simp
  | some names =>
      intro position present
      obtain ⟨name, _, found⟩ := mem_of_mapM done present
      exact Schema.resolve_lt found

end Table

/-- The names and all rows of an aligned result have room in its widths, and their cells line up. -/
structure ResultSet.Aligned (result : ResultSet) : Prop where
  header : HasRoom result.widths result.columns ∧ LinesUp result.widths result.columns
  rows : ∀ row ∈ result.rows, HasRoom result.widths (row.map Value.display) ∧
    LinesUp result.widths (row.map Value.display)

end TableStore
