/-
This file says what else holds of the tables that statements make.
All names in them are names, and every value was read from a literal and has room in its column.
-/

import TableStore.Proofs.Database.Soundness
import TableStore.Proofs.Statement.Names

namespace TableStore

namespace Column

/-- A regular column has a name, is wide enough for it, and refers to a name if to anything. -/
structure Regular (column : Column) : Prop where
  name : Text.IsName column.name.toList
  wide : max column.name.length leastWidth ≤ column.width
  type : column.type.Small
  reference : ∀ key ∈ column.foreignKey, Text.IsName key.table.toList

/-- A column holds a value that was read from a literal and has room in it. -/
structure Holds (column : Column) (value : Value) : Prop where
  reads : column.Reads value
  room : value.width ≤ column.width

/-- A wider column stays regular. -/
theorem regular_steady (column wider : Column) (grows : column.Grows wider)
    (regular : column.Regular) : wider.Regular := by
  have wide := Nat.le_trans regular.wide grows.width
  rw [grows.same]
  exact ⟨regular.name, wide, regular.type, regular.reference⟩

/-- A wider column holds what it held before. -/
theorem holds_steady : Steady Holds := by
  intro column wider value grows holds
  exact ⟨reads_steady column wider value grows holds.reads,
    Nat.le_trans holds.room grows.width⟩

/-- Columns that are widened for a row have room for it. -/
theorem holds_of_reads {columns : List Column} {row : Row}
    (reads : List.Forall₂ Reads columns row) :
    List.Forall₂ Holds (List.zipWith fit columns row) row := by
  induction reads with
  | nil => exact .nil
  | cons read _ ih => exact .cons ⟨read, value_le_fit _ _⟩ ih

/-- A column declared with a name and a small type is regular. -/
theorem regular_declared {table : String} {declaration : ColumnDeclaration}
    (proper : declaration.Proper) : (declared table declaration).Regular :=
  ⟨proper.name, Nat.le_refl _, proper.type, fun _ none => nomatch none⟩

end Column

namespace Table

/-- A regular table is sound, its columns are regular and have different names, and they hold
their values. -/
structure Regular (table : Table) : Prop where
  sound : table.Sound
  name : Text.IsName table.name.toList
  columns : ∀ column ∈ table.schema.columns, column.Regular
  nonempty : table.schema.columns ≠ []
  apart : (table.schema.columns.map (·.name)).Nodup
  cells : table.Every Column.Holds

/-- What a regular table has through its columns outlasts their growth. -/
theorem Regular.grown {table changed : Table} (regular : table.Regular)
    (grow : List.Forall₂ Column.Grows table.schema.columns changed.schema.columns)
    (same : changed.name = table.name) (sound : changed.Sound)
    (cells : changed.Every Column.Holds) : changed.Regular where
  sound := sound
  name := same ▸ regular.name
  columns := Column.forall_of_grow Column.regular_steady grow regular.columns
  nonempty := by
    intro none
    rw [none] at grow
    exact regular.nonempty (List.forall₂_nil_right_iff.mp grow)
  apart := by
    rw [Column.names_of_grow grow]
    exact regular.apart
  cells := cells

/-- A table declared with names is regular. -/
theorem regular_declare {declaration : TableDeclaration} {table : Table}
    (proper : declaration.Proper)
    (done : declare declaration.name declaration.columns = .ok table) : table.Regular := by
  have sound := declare_sound done
  obtain ⟨nonempty, apart, key, within, rfl⟩ := declare_ok done
  refine ⟨sound, proper.name, ?_, by simpa using nonempty, ?_, by simp [Every]⟩
  · intro column present
    obtain ⟨asked, member, rfl⟩ := List.mem_map.mp present
    exact Column.regular_declared (proper.columns asked member)
  · rw [List.map_map]
    exact apart

/-- A reference in an empty table keeps it regular. -/
theorem regular_referring {table : Table} (regular : table.Regular) (empty : table.rows = [])
    (position : Nat) {key : ForeignKey} (named : Text.IsName key.table.toList) :
    (table.referring position key).Regular where
  sound := Database.referring_sound regular.sound empty position key
  name := regular.name
  columns := by
    refine Database.forall_referring (fun column good => ?_) regular.columns position
    refine ⟨good.name, good.wide, good.type, ?_⟩
    intro other same
    cases same
    exact named
  nonempty := by
    intro none
    have names := Database.names_referring table position key
    rw [none] at names
    exact regular.nonempty (List.map_eq_nil_iff.mp names.symm)
  apart := by
    rw [Database.names_referring]
    exact regular.apart
  cells := by
    intro row present
    change row ∈ table.rows at present
    rw [empty] at present
    cases present

/-- Inserting literals keeps a table regular. -/
theorem regular_addRow {table changed : Table} {values : List String}
    {names : Option (List String)} (regular : table.Regular)
    (done : table.addRow values names = .ok changed) : changed.Regular := by
  obtain ⟨row, reads, stored⟩ := addRow_ok done
  have sound := insert_sound regular.sound stored
  obtain ⟨admitted, _, rfl⟩ := insert_ok.mp stored
  have size := admitted.length_eq
  exact regular.grown (fit_columns_grow size) rfl sound
    (every_extended Column.holds_steady regular.cells (Column.holds_of_reads reads) size)

/-- Deleting rows keeps a table regular. -/
theorem regular_delete {table changed : Table} {condition : Condition} {count : Nat}
    (regular : table.Regular) (done : table.delete condition = .ok (count, changed)) :
    changed.Regular := by
  have sound := delete_sound regular.sound done
  obtain ⟨rows, kept, rfl⟩ := delete_ok done
  have grow := List.forall₂_same.mpr fun column (_ : column ∈ table.schema.columns) =>
    Column.Grows.refl column
  exact regular.grown grow rfl sound (every_sublist kept regular.cells)

/-- Updating rows keeps a table regular. -/
theorem regular_update {table changed : Table} {assignments : List (String × String)}
    {condition : Condition} {count : Nat} (regular : table.Regular)
    (done : table.update assignments condition = .ok (count, changed)) : changed.Regular := by
  have sound := update_sound regular.sound done
  obtain ⟨targets, marks, valid, _, _, rfl⟩ := update_ok done
  exact regular.grown (updated_grows table targets marks) rfl sound
    (every_updated Column.holds_steady (fun _ _ reads _ room => ⟨reads, room⟩) regular.cells valid
      marks)

end Table

namespace Database

/-- Statements keep every table regular. -/
theorem keeps_regular : Keeps Table.Regular where
  created database text declaration declared table read fresh referred := by
    have proper : declaration.Proper := parse_proper read
    have start := Table.regular_declare proper fresh
    refine references_keep ?_ referred (Table.rows_of_declare fresh) start
    intro other empty regular reference member position target
    exact Table.regular_referring regular empty position (proper.references reference member)
  inserted table changed values names added regular := Table.regular_addRow regular added
  deleted table changed condition count removed regular := Table.regular_delete regular removed
  updated table changed assignments condition count assigned regular :=
    Table.regular_update regular assigned

/-- A store that begins empty has regular tables only after any statements. -/
theorem regular_runAll (name : String) (precedences : Precedences) (texts : List String) :
    ((fresh name precedences).runAll texts).2.All Table.Regular :=
  keeps_regular.runAll texts (all_fresh name precedences)

end Database

end TableStore
