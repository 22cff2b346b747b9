/-
This file recovers whole stores from their files.
The rows of a table are inserted again one by one, and every check lets them pass.
-/

import TableStore.Proofs.Archive.Recovery

namespace TableStore.Archive

open Reader
open Decimal (isPart)
open Text (Whole)

/-- The characters of numbers and words fit a field. -/
theorem fits_of_isPart {text : List Char} (parts : ∀ c ∈ text, isPart c = true) : Fits text := by
  apply fits_of_plain
  intro c present
  have part := parts c present
  refine ⟨?_, ?_, ?_⟩
  · rintro rfl
    exact absurd part (by decide)
  · rintro rfl
    exact absurd part (by decide)
  · rintro rfl
    exact absurd part (by decide)

/-- Only the texts of text values may fail to fit their fields. -/
theorem fits_display {column : Column} {value : Value} (restores : column.Restores value)
    (texts : ∀ text, value = .text text → Fits text.toList) : Fits value.display.toList := by
  cases value with
  | null => exact fitsField_iff.mp (by decide)
  | bool truth => cases truth <;> exact fitsField_iff.mp (by decide)
  | int number =>
      exact fits_of_isPart (Decimal.isPart_of_integer? (Decimal.integer?_toString number.toInt))
  | float number => exact fits_of_isPart (restores.isPart rfl)
  | double number => exact fits_of_isPart (restores.isPart rfl)
  | text content => exact texts content rfl

/-- No misfit is found exactly when all texts of the row fit. -/
theorem misfit?_eq_none {row : Row} :
    misfit? row = none ↔ ∀ text, Value.text text ∈ row → Fits text.toList := by
  rw [misfit?, List.find?_eq_none]
  simp only [Bool.not_eq_true', Bool.not_eq_false, fitsField_iff, List.mem_filterMap]
  constructor
  · intro fits text present
    exact fits text ⟨.text text, present, rfl⟩
  · rintro fits text ⟨value, present, same⟩
    cases value <;> cases same
    exact fits text present

/-- A row is written when its texts fit, and its line is made of its fields. -/
theorem rowLine_ok {table : String} {number : Nat} {row : Row} {line : String} :
    rowLine table number row = .ok line ↔
      (∀ text, Value.text text ∈ row → Fits text.toList) ∧
        line = " ".intercalate (row.map field) := by
  rw [← misfit?_eq_none, rowLine]
  split
  · rename_i found
    simp [found]
  · rename_i found
    simp [found, eq_comm]

/-- Only texts can be unfit, so with them all cells of a row fit. -/
theorem fits_row {columns : List Column} {row : Row}
    (cells : List.Forall₂ Column.Keeps columns row)
    (texts : ∀ text, Value.text text ∈ row → Fits text.toList) :
    ∀ value ∈ row, Fits value.display.toList := by
  induction cells with
  | nil => simp
  | cons cell _ ih =>
      refine List.forall_mem_cons.mpr ⟨?_, ?_⟩
      · exact fits_display cell.restores fun text same => texts text (same ▸ List.mem_cons_self)
      · exact ih fun text present => texts text (List.mem_cons_of_mem _ present)

/-- The next row of a table is recovered from its line when the rows before it are there. -/
theorem readRow_recovers {table : Table} (storable : table.Storable) {before after : List Row}
    {row : Row} (rows : table.rows = before ++ row :: after) {number : Nat} {line : String}
    (written : rowLine table.name number row = .ok line) :
    Recovers (readRow { table with rows := before }) [line]
      { table with rows := before ++ [row] } := by
  obtain ⟨texts, rfl⟩ := rowLine_ok.mp written
  have stored : row ∈ table.rows := rows ▸ List.mem_append_right before List.mem_cons_self
  have cells := storable.cells row stored
  have size : (row.map Value.display).length = table.schema.size := by
    rw [List.length_map]
    exact cells.length_eq.symm
  have fields : (fields? (" ".intercalate (row.map field))).filter
      (fun fields => fields.length = table.schema.size) = some (row.map Value.display) := by
    rw [fields?_line (storable.filled row stored) (fits_row cells texts)]
    exact if_pos (decide_eq_true size)
  have fresh : ({ table with rows := before } : Table).TakesKey row := by
    intro key keyed other present shared
    have apart := Table.distinctKeys_iff.mp storable.distinct key keyed
    rw [rows] at apart
    exact (List.pairwise_append.mp apart).2.2 other present row List.mem_cons_self shared.symm
  have inserted : ({ table with rows := before } : Table).insert row =
      .ok { table with rows := before ++ [row] } := by
    refine Table.insert_ok.mpr ⟨cells.imp fun _ _ cell => cell.admits, fresh, ?_⟩
    rw [Table.extended, zipWith_fit_of_cells cells]
  refine Recovers.next ((recovers_need fields).also ?_)
  refine (recovers_accept (readCells_displays cells)).also ?_
  exact recovers_accept inserted

/-- The rows behind those that are read already are recovered one by one, each inserted where it
was. -/
theorem readRows_recovers {table : Table} (storable : table.Storable) {before rows : List Row}
    (whole : table.rows = before ++ rows) {number : Nat} {lines : List String}
    (written : rowLines table.name number rows = .ok lines) :
    Recovers (readRows rows.length { table with rows := before }) lines table := by
  induction rows generalizing before number lines with
  | nil =>
      cases written
      rw [List.append_nil] at whole
      rw [← whole]
      exact recovers_pure table
  | cons row rest ih =>
      obtain ⟨line, first, remaining⟩ := bind_eq_ok.mp written
      obtain ⟨others, later, last⟩ := bind_eq_ok.mp remaining
      cases last
      refine (readRow_recovers storable whole first).bind ?_
      exact ih (by rw [whole, List.append_assoc, List.singleton_append]) later

/-- A table is recovered from its lines. -/
theorem readTable_recovers {table : Table} (storable : table.Storable) {lines : List String}
    (written : tableLines table = .ok lines) : Recovers readTable lines table := by
  obtain ⟨rows, inserted, last⟩ := bind_eq_ok.mp written
  cases last
  have small : 0 + table.schema.columns.length ≤ Decimal.countBound := by
    rw [Nat.zero_add]
    exact Nat.le_of_lt storable.size
  simp only [List.cons_append, List.nil_append, List.append_assoc]
  refine Recovers.next ?_
  refine (recovers_count .columnCount storable.size).bind ?_
  refine (readColumns_recovers storable.columns small).bind ?_
  refine (readKey_recovers storable).bind ?_
  refine (recovers_count .rowCount storable.count).bind ?_
  exact readRows_recovers storable rfl inserted

/-- Tables with different names are recovered in their order. -/
theorem readTables_recovers {before tables : List Table}
    (storable : ∀ table ∈ tables, table.Storable)
    (apart : (before ++ tables).Pairwise fun first second => first.name ≠ second.name)
    {parts : List (List String)} (written : tables.mapM tableLines = .ok parts) :
    Recovers (readTables tables.length before) parts.flatten (before ++ tables) := by
  induction tables generalizing before parts with
  | nil =>
      cases written
      rw [List.append_nil]
      exact recovers_pure before
  | cons table rest ih =>
      rw [List.forall_mem_cons] at storable
      rw [List.mapM_cons] at written
      obtain ⟨lines, first, remaining⟩ := bind_eq_ok.mp written
      obtain ⟨others, later, last⟩ := bind_eq_ok.mp remaining
      cases last
      have fresh : ¬ before.any (·.name == table.name) = true := by
        rw [List.any_eq_true]
        rintro ⟨other, present, same⟩
        have different := (List.pairwise_append.mp apart).2.2 other present table
          List.mem_cons_self
        exact different (beq_iff_eq.mp same)
      rw [List.flatten_cons, ← List.singleton_append, ← List.append_assoc] at *
      refine (readTable_recovers storable.1 first).bind ?_
      rw [if_neg fresh]
      exact ih storable.2 apart later

/-- A store is recovered from its lines, with its name. -/
theorem readStore_recovers {name : String} {tables : List Table}
    (storable : ∀ table ∈ tables, table.Storable) (few : tables.length < Decimal.countBound)
    (apart : tables.Pairwise fun first second => first.name ≠ second.name)
    {lines : List String} (written : Archive.lines name tables = .ok lines) :
    Recovers readStore lines (name, tables) := by
  unfold Archive.lines at written
  split at written
  · cases written
  · obtain ⟨parts, mapped, last⟩ := bind_eq_ok.mp written
    cases last
    refine Recovers.next ?_
    refine (recovers_count .tableCount few).bind ?_
    have read : Recovers (readTables tables.length []) parts.flatten tables :=
      @readTables_recovers [] tables storable apart parts mapped
    rw [← List.append_nil parts.flatten]
    exact read.bind (recovers_pure (name, tables))

/-- Nothing may follow the lines of a store, and nothing does. -/
theorem readLines_of_recovers {name : String} {tables : List Table} {lines : List String}
    (recovers : Recovers readStore lines (name, tables)) : readLines lines = .ok (name, tables) := by
  have whole := recovers 0 []
  rw [List.append_nil] at whole
  rw [readLines, whole]
  rfl

/-- A column line is one line, since its words have no breaks. -/
theorem whole_columnLines {table : String} {columns : List Column}
    (storable : ∀ column ∈ columns, column.Storable table) (position : Nat) :
    ∀ line ∈ columnLines position columns, Whole line.toList := by
  induction columns generalizing position with
  | nil => simp [columnLines]
  | cons column rest ih =>
      rw [List.forall_mem_cons] at storable
      refine List.forall_mem_cons.mpr ⟨?_, ih storable.2 (position + 1)⟩
      rw [columnLine_toList]
      exact Text.whole_of_words (isWord_columnWords storable.1 position)

/-- A row line is one line, since its texts fit. -/
theorem whole_rowLines {table : Table} (storable : table.Storable) {rows : List Row}
    (stored : ∀ row ∈ rows, row ∈ table.rows) {number : Nat} {lines : List String}
    (written : rowLines table.name number rows = .ok lines) :
    ∀ line ∈ lines, Whole line.toList := by
  induction rows generalizing number lines with
  | nil =>
      cases written
      simp
  | cons row rest ih =>
      rw [List.forall_mem_cons] at stored
      obtain ⟨line, first, remaining⟩ := bind_eq_ok.mp written
      obtain ⟨others, later, last⟩ := bind_eq_ok.mp remaining
      cases last
      refine List.forall_mem_cons.mpr ⟨?_, ih stored.2 later⟩
      obtain ⟨texts, rfl⟩ := rowLine_ok.mp first
      have cells := storable.cells row stored.1
      exact whole_line (storable.filled row stored.1) (fits_row cells texts)

/-- All lines of a storable table are whole. -/
theorem whole_tableLines {table : Table} (storable : table.Storable) {lines : List String}
    (written : tableLines table = .ok lines) : ∀ line ∈ lines, Whole line.toList := by
  obtain ⟨rows, inserted, last⟩ := bind_eq_ok.mp written
  cases last
  have number : ∀ count : Nat, Whole (toString count).toList :=
    fun count => Text.whole_of_noBlank (Text.isWord_toString count).noBlank
  have key : Whole (table.keyName?.getD nothing).toList := by
    apply Text.whole_of_noBlank
    cases keyed : table.primaryKey with
    | none =>
        have name : table.keyName?.getD nothing = nothing := by simp [Table.keyName?, keyed]
        have word : Text.IsWord nothing.toList := by decide
        rw [name]
        exact word.noBlank
    | some position =>
        obtain ⟨column, there, _, _⟩ := storable.key position keyed
        have name : table.keyName?.getD nothing = column.name := by
          simp [Table.keyName?, keyed, there]
        rw [name]
        exact (storable.columns column (List.mem_of_getElem? there)).named.noBlank
  simp only [List.forall_mem_append, List.forall_mem_cons]
  exact ⟨⟨⟨⟨storable.name, number _, by simp⟩, whole_columnLines storable.columns 0⟩, key,
    number _, by simp⟩, whole_rowLines storable (fun _ present => present) inserted⟩

/-- All lines of a store are whole, with the name on the first of them. -/
theorem whole_lines {name : String} {tables : List Table} (line : Whole name.toList)
    (storable : ∀ table ∈ tables, table.Storable) {lines : List String}
    (written : Archive.lines name tables = .ok lines) : ∀ line ∈ lines, Whole line.toList := by
  unfold Archive.lines at written
  split at written
  · cases written
  · obtain ⟨parts, mapped, last⟩ := bind_eq_ok.mp written
    cases last
    simp only [List.forall_mem_append, List.forall_mem_cons]
    refine ⟨⟨line, Text.whole_of_noBlank (Text.isWord_toString _).noBlank, by simp⟩, ?_⟩
    intro text present
    obtain ⟨part, member, there⟩ := List.mem_flatten.mp present
    obtain ⟨table, stored, made⟩ := mem_of_mapM mapped member
    exact whole_tableLines (storable table stored) made text there

theorem fromUTF8?_toUTF8 (text : String) : String.fromUTF8? text.toUTF8 = some text :=
  dif_pos text.isValidUTF8

/-- Lines that are ended by line feeds are read as they were written. -/
theorem readText_joined {lines : List String} (whole : ∀ line ∈ lines, Whole line.toList) :
    readText (String.join (lines.map (· ++ "\n"))) = readLines lines := by
  have joined : (String.join (lines.map (· ++ "\n"))).toList =
      (lines.map String.toList).flatMap (· ++ ['\n']) := by
    rw [String.toList_join, List.flatMap_map, List.flatMap_map]
    simp
  have parts : ∀ part ∈ lines.map String.toList, Whole part := by
    intro part present
    obtain ⟨line, member, rfl⟩ := List.mem_map.mp present
    exact whole line member
  rw [readText, joined, Text.lines_joined parts, List.map_map]
  simp

/-- What is written of storable tables with different names is read back. -/
theorem read_write {name content : String} {tables : List Table} (line : Whole name.toList)
    (storable : ∀ table ∈ tables, table.Storable) (few : tables.length < Decimal.countBound)
    (apart : tables.Pairwise fun first second => first.name ≠ second.name)
    (written : write name tables = .ok content) :
    read (some content.toUTF8) = .ok (name, tables) := by
  obtain ⟨lines, listed, last⟩ := bind_eq_ok.mp written
  cases last
  rw [read, Option.bind_some, fromUTF8?_toUTF8]
  dsimp only
  rw [readText_joined (whole_lines line storable listed)]
  exact readLines_of_recovers (readStore_recovers storable few apart listed)

end TableStore.Archive
