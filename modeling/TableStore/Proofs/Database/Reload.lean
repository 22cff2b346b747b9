/-
This file shows that a store comes back from its file.
Statements make tables that can be stored, as long as their counts fit machine words.
-/

import TableStore.Catalog.Lookup
import TableStore.Proofs.Archive.Refusal
import TableStore.Proofs.Database.Regularity
import TableStore.Proofs.Schema.Resolution

namespace TableStore

/-- The numbers that are written out for a column are machine words. -/
structure Column.Countable (column : Column) : Prop where
  width : column.width < Decimal.countBound
  reference : ∀ key ∈ column.foreignKey, key.column < Decimal.countBound

instance (column : Column) : Decidable column.Countable :=
  decidable_of_iff (column.width < Decimal.countBound ∧
      ∀ key ∈ column.foreignKey, key.column < Decimal.countBound)
    ⟨fun parts => ⟨parts.1, parts.2⟩, fun whole => ⟨whole.width, whole.reference⟩⟩

/-- A column restores a value unless it is a fraction that would change on the way. -/
def Column.RestoresFraction (column : Column) (value : Value) : Prop :=
  value.isFraction = true → column.Restores value

instance (column : Column) (value : Value) : Decidable (column.RestoresFraction value) :=
  inferInstanceAs (Decidable (value.isFraction = true → column.Restores value))

/-- The columns and rows of a table are counted in machine words. -/
structure Table.Countable (table : Table) : Prop where
  size : table.schema.size < Decimal.countBound
  count : table.rows.length < Decimal.countBound
  columns : ∀ column ∈ table.schema.columns, column.Countable

instance (table : Table) : Decidable table.Countable :=
  decidable_of_iff (table.schema.size < Decimal.countBound ∧
      table.rows.length < Decimal.countBound ∧ ∀ column ∈ table.schema.columns, column.Countable)
    ⟨fun parts => ⟨parts.1, parts.2.1, parts.2.2⟩,
      fun whole => ⟨whole.size, whole.count, whole.columns⟩⟩

namespace Column

/-- A regular column with counts that are machine words can be stored. -/
theorem Regular.storable {table : String} {column : Column} (regular : column.Regular)
    (countable : column.Countable) (owned : column.table = table) : column.Storable table where
  named := regular.name.isWord
  owned := owned
  wide := regular.wide
  small := countable.width
  type := regular.type
  reference key present :=
    ⟨(regular.reference key present).isWord.noBlank, countable.reference key present⟩

/-- Cells that are admitted, held and restored can be stored. -/
theorem keeps_cells {columns : List Column} {row : Row}
    (admitted : List.Forall₂ Admits columns row) (held : List.Forall₂ Holds columns row)
    (fractions : List.Forall₂ RestoresFraction columns row) : List.Forall₂ Keeps columns row := by
  induction admitted with
  | nil => exact .nil
  | cons admits _ ih =>
      obtain _ | ⟨holds, holding⟩ := held
      obtain _ | ⟨fraction, others⟩ := fractions
      have restores := restores_of_reads holds.reads fraction
      exact .cons ⟨admits, restores, holds.room⟩ (ih holding others)

end Column

namespace Table

/-- The key of a regular table is found again by the name of its column. -/
theorem Regular.key {table : Table} (regular : table.Regular) {key : Nat}
    (keyed : table.primaryKey = some key) : ∃ column, table.schema.columns[key]? = some column ∧
      table.schema.indexOf? column.name = some key ∧ column.name ≠ Archive.nothing := by
  have within : key < table.schema.columns.length := regular.sound.keyed key keyed
  have there := List.getElem?_eq_getElem within
  have name := (regular.columns _ (List.getElem_mem within)).name
  refine ⟨table.schema.columns[key], there, ?_, ?_⟩
  · exact Schema.indexOf?_name regular.apart there name.noPoint
  · intro same
    rw [same] at name
    exact name.noMinus (by decide)

/-- A regular table with counts that are machine words can be stored. -/
theorem Regular.storable {table : Table} (regular : table.Regular) (countable : table.Countable)
    (fractions : table.Every Column.RestoresFraction) : table.Storable where
  name := Text.whole_of_noBlank regular.name.isWord.noBlank
  columns column present := (regular.columns column present).storable
    (countable.columns column present) (regular.sound.owned column present)
  filled row present := by
    rintro rfl
    have cells := regular.cells [] present
    exact regular.nonempty (List.forall₂_nil_right_iff.mp cells)
  size := countable.size
  count := countable.count
  key _ keyed := regular.key keyed
  cells row present := Column.keeps_cells (regular.sound.admitted row present)
    (regular.cells row present) (fractions row present)
  distinct := regular.sound.distinct

end Table

namespace Database

/-- The tables of a store, their columns and their rows are counted in machine words. -/
structure Countable (database : Database) : Prop where
  few : database.catalog.tables.length < Decimal.countBound
  tables : database.All Table.Countable

instance (database : Database) : Decidable database.Countable :=
  decidable_of_iff (database.catalog.tables.length < Decimal.countBound ∧
      database.All Table.Countable)
    ⟨fun parts => ⟨parts.1, parts.2⟩, fun whole => ⟨whole.few, whole.tables⟩⟩

/-- Something in the store stands in the way of saving it. -/
def Unsavable (database : Database) : Prop :=
  Archive.Unsavable database.name database.catalog.tables

/-- A store of regular tables is read back from its file. -/
theorem read_save {database : Database} (regular : database.All Table.Regular)
    (countable : database.Countable)
    (fractions : database.All fun table => table.Every Column.RestoresFraction)
    (savable : ¬ database.Unsavable) : ∃ content, database.save = .ok content ∧
      Archive.read (some content.toUTF8) = .ok (database.name, database.catalog.tables) := by
  obtain ⟨content, written⟩ := Archive.write_succeeds.mpr savable
  unfold Unsavable Archive.Unsavable at savable
  rw [not_or, not_or] at savable
  have line := Text.whole_of_noBreak savable.1 savable.2.1
  have storable : ∀ table ∈ database.catalog.tables, table.Storable := fun table present =>
    (regular table present).storable (countable.tables table present) (fractions table present)
  exact ⟨content, written,
    Archive.read_write line storable countable.few database.catalog.apart_tables written⟩

/-- Whatever statements have made of an empty store, saving it is refused exactly when its name or
a stored text stands in the way. Else its file gives back its name and all its tables, as long as
the counts are machine words and every fraction is restored from its text. -/
theorem save_load (name : String) (precedences : Precedences) (texts : List String) :
    let database := ((fresh name precedences).runAll texts).2
    ((∃ cause, database.save = .error (.logic cause)) ↔ database.Unsavable) ∧
      (database.Countable →
        (database.All fun table => table.Every Column.RestoresFraction) →
        ¬ database.Unsavable → ∃ content, database.save = .ok content ∧
          Archive.read (some content.toUTF8) = .ok (database.name, database.catalog.tables)) :=
  ⟨Archive.write_refuses, read_save (regular_runAll name precedences texts)⟩

/-- A text with quotes and blanks at its ends, null and fractions come back. -/
theorem save_load_notes :
    let database := ((fresh "notes" .standard).runAll
      ["CREATE TABLE notes (id INT PRIMARY KEY, body VARCHAR(9), weight FLOAT);",
        "INSERT INTO notes VALUES (1, \"' it's \", 0.5);",
        "INSERT INTO notes (weight, id) VALUES (0.1, -2);"]).2
    database.save = .ok ("notes\n1\nnotes\n3\nid 0 4 INT 0 -\nbody 1 7 VARCHAR(9) 0 -\n" ++
      "weight 2 6 FLOAT 0 -\nid\n2\n'1' '' it's ' '0.5'\n'-2' 'NULL' '0.1'\n") ∧
    ∃ content, database.save = .ok content ∧
      Archive.read (some content.toUTF8) = .ok (database.name, database.catalog.tables) := by
  intro database
  have saved : database.save =
      .ok ("notes\n1\nnotes\n3\nid 0 4 INT 0 -\nbody 1 7 VARCHAR(9) 0 -\n" ++
        "weight 2 6 FLOAT 0 -\nid\n2\n'1' '' it's ' '0.5'\n'-2' 'NULL' '0.1'\n") := by
    decide +kernel
  have countable : database.Countable := by decide +kernel
  have fractions : database.All fun table => table.Every Column.RestoresFraction := by
    decide +kernel
  have savable : ¬ database.Unsavable := Archive.write_succeeds.mp ⟨_, saved⟩
  exact ⟨saved, (save_load "notes" .standard _).2 countable fractions savable⟩

end Database

end TableStore
