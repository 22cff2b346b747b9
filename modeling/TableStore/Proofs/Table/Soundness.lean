/-
This file says what every stored table satisfies.
The columns belong to the table, the rows fit the columns, and no key occurs twice.
-/

import TableStore.Proofs.Success
import TableStore.Proofs.Value.Standing
import TableStore.Table

namespace TableStore

namespace Binary

variable {format : Format}

/-- Equal places are equal the other way round. -/
theorem compare?_eq_comm (left right : Binary format) :
    (left.compare? right == some .eq) = (right.compare? left == some .eq) := by
  rw [Bool.eq_iff_iff, beq_iff_eq, beq_iff_eq, compare?_eq_iff, compare?_eq_iff]
  simp only [and_comm]

end Binary

namespace Value

theorem isNull_eq_false {value : Value} : value.isNull = false ↔ value ≠ .null := by
  rw [← Bool.not_eq_true, isNull_iff]

/-- Sameness goes both ways, although not-a-number is not the same as itself. -/
theorem same_comm (first second : Value) : first.same second = second.same first := by
  cases first <;> cases second <;>
    first | rfl | exact BEq.comm | exact Binary.compare?_eq_comm _ _

/-- Null is the same as no other value. -/
theorem not_null_of_same {first second : Value} (same : first.same second = true)
    (present : first ≠ .null) : second ≠ .null := by
  rintro rfl
  cases first <;> simp_all [Value.same]

end Value

namespace Row

/-- Two rows share a key when both hold the same value there, and not null. -/
def SharesKey (key : Nat) (first second : Row) : Prop :=
  first.at key ≠ .null ∧ (first.at key).same (second.at key) = true

instance (key : Nat) (first second : Row) : Decidable (SharesKey key first second) :=
  inferInstanceAs (Decidable (first.at key ≠ .null ∧ (first.at key).same (second.at key) = true))

theorem SharesKey.symm {key : Nat} {first second : Row} (shared : SharesKey key first second) :
    SharesKey key second first :=
  ⟨Value.not_null_of_same shared.2 shared.1, Value.same_comm _ _ ▸ shared.2⟩

end Row

namespace Column

/-- A column admits the values of its type, and null unless that is forbidden. -/
structure Admits (column : Column) (value : Value) : Prop where
  accepted : column.type.accepts value = true
  present : column.notNull = true → value ≠ .null

instance (column : Column) (value : Value) : Decidable (column.Admits value) :=
  decidable_of_iff (column.type.accepts value = true ∧ (column.notNull = true → value ≠ .null))
    ⟨fun parts => ⟨parts.1, parts.2⟩, fun whole => ⟨whole.accepted, whole.present⟩⟩

/-- A column reads a value when it is that of some literal. -/
def Reads (column : Column) (value : Value) : Prop :=
  ∃ text, column.type.literal? text = some value

/-- A column grows when nothing changes but its width, which does not shrink. -/
structure Grows (column wider : Column) : Prop where
  width : column.width ≤ wider.width
  same : wider = { column with width := wider.width }

theorem Grows.refl (column : Column) : column.Grows column := ⟨Nat.le_refl _, rfl⟩

theorem Grows.trans {first second third : Column} (early : first.Grows second)
    (late : second.Grows third) : first.Grows third := by
  refine ⟨Nat.le_trans early.width late.width, ?_⟩
  rw [late.same, early.same]

/-- Making room for a value only grows a column. -/
theorem fit_grows (column : Column) (value : Value) : column.Grows (column.fit value) :=
  ⟨column.width_le_fit value, rfl⟩

/-- A property of cells is steady when it outlasts the growth of columns. -/
def Steady (Cell : Column → Value → Prop) : Prop :=
  ∀ column wider value, column.Grows wider → Cell column value → Cell wider value

/-- What a column admits does not depend on its width. -/
theorem admits_steady : Steady Admits := by
  intro column wider value grows admits
  rw [grows.same]
  exact ⟨admits.accepted, admits.present⟩

/-- What a column reads does not depend on its width. -/
theorem reads_steady : Steady Reads := by
  intro column wider value grows reads
  rw [grows.same]
  exact reads

/-- The cells of a row keep a steady property when the columns grow. -/
theorem Steady.cells {Cell : Column → Value → Prop} (steady : Steady Cell)
    {columns wider : List Column} (grow : List.Forall₂ Grows columns wider) {row : Row}
    (cells : List.Forall₂ Cell columns row) : List.Forall₂ Cell wider row := by
  induction grow generalizing row with
  | nil => exact cells
  | cons grows _ ih =>
      cases cells with
      | cons cell others => exact .cons (steady _ _ _ grows cell) (ih others)

/-- A cell is replaced by one that goes with its column. -/
theorem cells_set {α : Type} {Cell : Column → α → Prop} {columns : List Column} {cells : List α}
    (whole : List.Forall₂ Cell columns cells) {position : Nat} {cell : α}
    (fitting : ∀ column, columns[position]? = some column → Cell column cell) :
    List.Forall₂ Cell columns (cells.set position cell) := by
  induction whole generalizing position with
  | nil => exact .nil
  | @cons column _ others _ first rest ih =>
      cases position with
      | zero => exact .cons (fitting column rfl) rest
      | succ later => exact .cons first (ih fitting)

/-- What outlasts the growth of each column holds of all columns afterwards. -/
theorem forall_of_grow {Good : Column → Prop}
    (steady : ∀ column wider, column.Grows wider → Good column → Good wider)
    {columns wider : List Column} (grow : List.Forall₂ Grows columns wider)
    (good : ∀ column ∈ columns, Good column) : ∀ column ∈ wider, Good column := by
  induction grow with
  | nil => exact good
  | cons grows _ ih =>
      rw [List.forall_mem_cons] at good ⊢
      exact ⟨steady _ _ grows good.1, ih good.2⟩

theorem owned_steady {table : String} (column wider : Column) (grows : column.Grows wider)
    (owned : column.table = table) : wider.table = table := by
  rw [grows.same]
  exact owned

/-- Wider columns have the same names. -/
theorem names_of_grow {columns wider : List Column} (grow : List.Forall₂ Grows columns wider) :
    wider.map (·.name) = columns.map (·.name) := by
  induction grow with
  | nil => rfl
  | cons grows _ ih =>
      rw [List.map_cons, List.map_cons, ih]
      congr 1
      rw [grows.same]

end Column

namespace Table

/-- Every cell of the table has the given property together with its column. -/
def Every (table : Table) (Cell : Column → Value → Prop) : Prop :=
  ∀ row ∈ table.rows, List.Forall₂ Cell table.schema.columns row

instance (table : Table) (Cell : Column → Value → Prop)
    [∀ column value, Decidable (Cell column value)] : Decidable (table.Every Cell) :=
  inferInstanceAs (Decidable (∀ row ∈ table.rows, List.Forall₂ Cell table.schema.columns row))

/-- Rows at different positions do not share a key. -/
def DistinctKeys (table : Table) : Prop :=
  ∀ key, table.primaryKey = some key → ∀ first second : Nat, first ≠ second →
    ∀ row other, table.rows[first]? = some row → table.rows[second]? = some other →
      ¬ Row.SharesKey key row other

/-- It is enough to compare every row with the later ones. -/
theorem distinctKeys_iff {table : Table} :
    table.DistinctKeys ↔ ∀ key, table.primaryKey = some key →
      table.rows.Pairwise fun first second => ¬ Row.SharesKey key first second := by
  constructor
  · intro distinct key keyed
    rw [List.pairwise_iff_getElem]
    intro first second within inside before
    exact distinct key keyed first second (Nat.ne_of_lt before) _ _
      (List.getElem?_eq_getElem within) (List.getElem?_eq_getElem inside)
  · intro pairs key keyed first second apart row other here there
    have ordered := List.pairwise_iff_getElem.mp (pairs key keyed)
    obtain ⟨within, rfl⟩ := List.getElem?_eq_some_iff.mp here
    obtain ⟨inside, rfl⟩ := List.getElem?_eq_some_iff.mp there
    rcases Nat.lt_or_gt_of_ne apart with before | after
    · exact ordered first second within inside before
    · intro shared
      exact ordered second first inside within after shared.symm

instance (table : Table) : Decidable table.DistinctKeys :=
  decidable_of_iff (∀ key ∈ table.primaryKey,
    table.rows.Pairwise fun first second => ¬ Row.SharesKey key first second) distinctKeys_iff.symm

/-- A sound table owns its columns, has one admitted value per column in every row, and repeats
no key. -/
structure Sound (table : Table) : Prop where
  owned : ∀ column ∈ table.schema.columns, column.table = table.name
  keyed : ∀ key, table.primaryKey = some key → key < table.schema.size
  admitted : table.Every Column.Admits
  distinct : table.DistinctKeys

/-- A new table without rows is sound when its columns are its own. -/
theorem Sound.of_empty {table : Table}
    (owned : ∀ column ∈ table.schema.columns, column.table = table.name)
    (keyed : ∀ key, table.primaryKey = some key → key < table.schema.size)
    (empty : table.rows = []) : table.Sound where
  owned := owned
  keyed := keyed
  admitted := by simp [Every, empty]
  distinct := by simp [DistinctKeys, empty]

end Table

end TableStore
