/-
This file recovers columns, rows and tables from the lines that they are written as.
-/

import TableStore.Proofs.Archive.Fields
import TableStore.Proofs.Archive.Words
import TableStore.Proofs.Table.Insertion

namespace TableStore.Archive

namespace Reader

variable {α β : Type}

/-- The reader takes exactly these lines and returns the value, whatever follows. -/
def Recovers (reader : Reader α) (lines : List String) (value : α) : Prop :=
  ∀ line rest, reader.run ⟨line, lines ++ rest⟩ = .ok (value, ⟨line + lines.length, rest⟩)

theorem recovers_pure (value : α) : Recovers (pure value) [] value := fun _ _ => rfl

theorem recovers_next (part : FilePart) (line : String) : Recovers (next part) [line] line :=
  fun _ _ => rfl

/-- Two readers recover what stands in their lines, one part behind the other. -/
theorem Recovers.bind {reader : Reader α} {lines : List String} {value : α}
    (first : Recovers reader lines value) {next : α → Reader β} {more : List String} {result : β}
    (second : Recovers (next value) more result) :
    Recovers (reader >>= next) (lines ++ more) result := by
  intro line rest
  rw [StateT.run_bind, List.append_assoc, first, ok_bind, second, List.length_append,
    Nat.add_assoc]

/-- A reader that asks for a line goes on with that line. -/
theorem Recovers.next {part : FilePart} {line : String} {after : String → Reader β}
    {more : List String} {result : β} (second : Recovers (after line) more result) :
    Recovers (next part >>= after) (line :: more) result :=
  (recovers_next part line).bind second

/-- What is made of the value needs no line. -/
theorem Recovers.map {reader : Reader α} {lines : List String} {value : α}
    (first : Recovers reader lines value) (f : α → β) :
    Recovers (f <$> reader) lines (f value) := by
  intro line rest
  rw [StateT.run_map, first]
  rfl

/-- A part that takes no line may come first. -/
theorem Recovers.also {reader : Reader α} {value : α} (first : Recovers reader [] value)
    {next : α → Reader β} {more : List String} {result : β}
    (second : Recovers (next value) more result) : Recovers (reader >>= next) more result :=
  first.bind second

/-- What must be there is recovered without a line when it is there. -/
theorem recovers_need {damage : Damage} {option : Option α} {value : α}
    (there : option = some value) : Recovers (need damage option) [] value := by
  rw [there]
  exact recovers_pure value

/-- A success is recovered without a line. -/
theorem recovers_accept {outcome : Except Fault α} {value : α} (success : outcome = .ok value) :
    Recovers (accept outcome) [] value := by
  rw [success]
  exact recovers_pure value

/-- A count is recovered from its line. -/
theorem recovers_count (part : FilePart) {number : Nat} (small : number < Decimal.countBound) :
    Recovers (count part) [toString number] number := by
  refine Recovers.next (recovers_need ?_)
  rw [Text.trim_of_noBlank (Text.isWord_toString number).noBlank]
  exact Decimal.count?_toString small

end Reader

end TableStore.Archive

namespace TableStore

/-- A column can be stored when its name and its reference are words, and its width and the
numbers in its type and its reference are small enough to be read back. -/
structure Column.Storable (table : String) (column : Column) : Prop where
  named : Text.IsWord column.name.toList
  owned : column.table = table
  wide : max column.name.length Column.leastWidth ≤ column.width
  small : column.width < Decimal.countBound
  type : column.type.Small
  reference : ∀ key ∈ column.foreignKey,
    (∀ c ∈ key.table.toList, Text.isBlank c = false) ∧ key.column < Decimal.countBound

/-- The reader puts the parts of a column together again. -/
theorem Column.Storable.rebuilt {table : String} {column : Column}
    (storable : column.Storable table) {key : Option ForeignKey}
    (same : column.foreignKey = key) :
    ({ Column.fresh column.name table column.type column.notNull with
      width := max column.width (Column.fresh column.name table column.type column.notNull).width
      foreignKey := key } : Column) = column := by
  obtain ⟨name, owner, type, notNull, width, foreignKey⟩ := column
  have owned : owner = table := storable.owned
  have wide : max width (max name.length leastWidth) = width := Nat.max_eq_left storable.wide
  change foreignKey = key at same
  subst owned same
  simp only [Column.fresh, wide]

/-- A cell can be stored when its column admits it, reads it back and has room for it. -/
structure Column.Keeps (column : Column) (value : Value) : Prop where
  admits : column.Admits value
  restores : column.Restores value
  room : value.width ≤ column.width

/-- A table can be stored when its name is a whole line, its columns and its cells can be stored, no
row is empty, and its key is known by name. -/
structure Table.Storable (table : Table) : Prop where
  name : Text.Whole table.name.toList
  columns : ∀ column ∈ table.schema.columns, column.Storable table.name
  filled : ∀ row ∈ table.rows, row ≠ []
  size : table.schema.size < Decimal.countBound
  count : table.rows.length < Decimal.countBound
  key : ∀ key, table.primaryKey = some key → ∃ column, table.schema.columns[key]? = some column ∧
    table.schema.indexOf? column.name = some key ∧ column.name ≠ Archive.nothing
  cells : table.Every Column.Keeps
  distinct : table.DistinctKeys

namespace Archive

open Reader
open Text (IsWord)

/-- The parts of a column line. -/
def columnWords (position : Nat) (column : Column) : List String :=
  [column.name, toString position, toString column.width, column.type.text,
    if column.notNull then "1" else "0", referenceText column.foreignKey]

/-- A column line is its six words with blanks between them. -/
theorem columnLine_toList (position : Nat) (column : Column) :
    (columnLine position column).toList =
      [' '].intercalate ((columnWords position column).map String.toList) :=
  String.toList_intercalate

/-- Every part of the line of a storable column is a word. -/
theorem isWord_columnWords {table : String} {column : Column} (storable : column.Storable table)
    (position : Nat) : ∀ word ∈ (columnWords position column).map String.toList, IsWord word := by
  have flag : IsWord (if column.notNull then "1" else "0").toList := by
    cases column.notNull <;> decide
  have reference := isWord_referenceText fun key present => (storable.reference key present).1
  simp only [columnWords, List.map_cons, List.map_nil, List.forall_mem_cons]
  exact ⟨storable.named, Text.isWord_toString position, Text.isWord_toString column.width,
    DataType.isWord_text column.type, flag, reference, by simp⟩

/-- The line of a storable column is cut into the words it was made of. -/
theorem words_columnLine {table : String} {column : Column} (storable : column.Storable table)
    (position : Nat) :
    (Text.words (columnLine position column).toList).map String.ofList =
      columnWords position column := by
  rw [columnLine_toList, Text.words_intercalate (isWord_columnWords storable position),
    List.map_map]
  simp

/-- A column is recovered from its line. -/
theorem readColumn_recovers {table : String} {column : Column} (storable : column.Storable table)
    {position : Nat} (small : position < Decimal.countBound) :
    Recovers (readColumn table position) [columnLine position column] column := by
  refine Recovers.next ?_
  rw [words_columnLine storable position, columnWords]
  dsimp only
  rw [Decimal.count?_toString small, if_neg (not_not.mpr rfl)]
  have type : DataType.ofText column.type.text = .ok column.type := by
    rw [DataType.ofText, DataType.ofText?_text storable.type]
  have flag : (if (if column.notNull then "1" else "0") = "0" then some false
      else if (if column.notNull then "1" else "0") = "1" then some true else none) =
      some column.notNull := by
    cases column.notNull <;> rfl
  refine (recovers_accept type).also ((recovers_need flag).also ?_)
  refine (recovers_need (Decimal.count?_toString storable.small)).also ?_
  cases reference : column.foreignKey with
  | none =>
      have none : referenceText none = nothing := rfl
      rw [if_pos none]
      refine (recovers_pure _).also ?_
      rw [storable.rebuilt reference]
      exact recovers_pure column
  | some key =>
      have read := reference?_text (storable.reference key reference).2
      rw [if_neg (referenceText_ne_nothing key)]
      refine ((recovers_need read).map some).also ?_
      rw [storable.rebuilt reference]
      exact recovers_pure column

/-- All columns are recovered from their lines, which count their positions. -/
theorem readColumns_recovers {table : String} {columns : List Column}
    (storable : ∀ column ∈ columns, column.Storable table) {position : Nat}
    (small : position + columns.length ≤ Decimal.countBound) :
    Recovers (readColumns table position columns.length) (columnLines position columns) columns := by
  induction columns generalizing position with
  | nil => exact recovers_pure []
  | cons column rest ih =>
      rw [List.forall_mem_cons] at storable
      rw [List.length_cons] at small
      have first := readColumn_recovers storable.1 (by omega : position < Decimal.countBound)
      have others := ih storable.2 (by omega : position + 1 + rest.length ≤ Decimal.countBound)
      refine first.bind ?_
      rw [← List.append_nil (columnLines (position + 1) rest)]
      exact others.bind (recovers_pure (column :: rest))

/-- The key is recovered from the name of its column. -/
theorem readKey_recovers {table : Table} (storable : table.Storable) :
    Recovers (readKey table.schema) [table.keyName?.getD nothing] table.primaryKey := by
  refine Recovers.next ?_
  cases keyed : table.primaryKey with
  | none =>
      have name : table.keyName?.getD nothing = nothing := by simp [Table.keyName?, keyed]
      rw [name, if_pos rfl]
      exact recovers_pure none
  | some key =>
      obtain ⟨column, there, found, other⟩ := storable.key key keyed
      have name : table.keyName?.getD nothing = column.name := by
        simp [Table.keyName?, keyed, there]
      rw [name, if_neg other]
      exact (recovers_need found).map some

/-- A column with room for a value stays as it is. -/
theorem fit_of_room {column : Column} {value : Value} (room : value.width ≤ column.width) :
    column.fit value = column := by
  rw [Column.fit, Nat.max_eq_left room]

/-- Columns that keep the cells of a row are not widened by it. -/
theorem zipWith_fit_of_cells {columns : List Column} {row : Row}
    (cells : List.Forall₂ Column.Keeps columns row) :
    List.zipWith Column.fit columns row = columns := by
  induction cells with
  | nil => rfl
  | cons cell _ ih => rw [List.zipWith_cons_cons, fit_of_room cell.room, ih]

/-- The fields of a row are read as the cells that they show. -/
theorem readCells_displays {columns : List Column} {row : Row}
    (cells : List.Forall₂ Column.Keeps columns row) :
    readCells columns (row.map Value.display) = .ok row := by
  induction cells with
  | nil => rfl
  | cons cell _ ih =>
      rw [List.map_cons, readCells, DataType.readLiteral_ok.mpr cell.restores, ok_bind, ih]
      rfl

end Archive

end TableStore
