/-
This file defines the columns of tables.
-/

import TableStore.DataType

namespace TableStore

/-- A foreign key names a table and the position of one of its columns. -/
structure ForeignKey where
  table : String
  column : Nat
deriving DecidableEq, Repr

/-- A column keeps the table that declared it, also in a joined table.
Its width never shrinks. -/
structure Column where
  name : String
  table : String
  type : DataType
  notNull : Bool
  width : Nat
  foreignKey : Option ForeignKey
deriving DecidableEq, Repr

/-- The text before the first point and the text after it. -/
def qualifier? (name : String) : Option (String × String) :=
  match name.toList.dropWhile (· ≠ '.') with
  | [] => none
  | _ :: rest => some (String.ofList (name.toList.takeWhile (· ≠ '.')), String.ofList rest)

namespace Column

/-- Null has the least width of a column. -/
def leastWidth : Nat := 4

/-- A new column is as wide as its name. -/
def fresh (name table : String) (type : DataType) (notNull : Bool) : Column :=
  ⟨name, table, type, notNull, max name.length leastWidth, none⟩

/-- The column becomes wide enough for a value. -/
def fit (column : Column) (value : Value) : Column :=
  { column with width := max column.width value.width }

/-- A column answers to its name, alone or with its table in front. -/
def isNamed (column : Column) (name : String) : Bool :=
  match qualifier? name with
  | some (table, bare) => table == column.table && bare == column.name
  | none => name == column.name

@[simp] theorem fit_name (column : Column) (value : Value) : (column.fit value).name = column.name :=
  rfl

@[simp] theorem fit_table (column : Column) (value : Value) :
    (column.fit value).table = column.table := rfl

@[simp] theorem fit_type (column : Column) (value : Value) : (column.fit value).type = column.type :=
  rfl

@[simp] theorem fit_notNull (column : Column) (value : Value) :
    (column.fit value).notNull = column.notNull := rfl

theorem width_le_fit (column : Column) (value : Value) : column.width ≤ (column.fit value).width :=
  Nat.le_max_left _ _

theorem value_le_fit (column : Column) (value : Value) : value.width ≤ (column.fit value).width :=
  Nat.le_max_right _ _

end Column

end TableStore
