/-
This file says what else holds of the stores that can be read from a file.
A file may hold names that no statement accepts, but each part of it is a line, a word or a field.
-/

import TableStore.Proofs.Archive.Loading
import TableStore.Proofs.Archive.Recovery
import TableStore.Proofs.Database.Regularity
import TableStore.Proofs.Schema.Resolution

namespace TableStore

open Text (IsWord)

/-- A text that is read back from a field is the field. -/
theorem DataType.text_of_literal {type : DataType} {text content : String}
    (read : type.literal? text = some (.text content)) : content = text := by
  have accepted := accepts_literal read
  cases type <;> cases accepted
  unfold literal? at read
  split at read
  · cases read
  · cases read
    rfl

namespace Column

/-- A column that is read has words for its names and machine words for its counts. -/
structure Loaded (table : String) (column : Column) : Prop where
  named : IsWord column.name.toList
  owned : column.table = table
  wide : max column.name.length leastWidth ≤ column.width
  type : column.type.Small
  reference : ∀ key ∈ column.foreignKey,
    (∀ c ∈ key.table.toList, Text.isBlank c = false) ∧ key.column < Decimal.countBound

/-- A column that only grows wider stays one that could be read. -/
theorem loaded_steady {table : String} (column wider : Column) (grows : column.Grows wider)
    (loaded : column.Loaded table) : wider.Loaded table := by
  have wide := Nat.le_trans loaded.wide grows.width
  rw [grows.same]
  exact ⟨loaded.named, loaded.owned, wide, loaded.type, loaded.reference⟩

end Column

namespace Archive

/-- A text in a field has no line feed in it and no separator of fields. -/
structure Undivided (text : List Char) : Prop where
  noFeed : '\n' ∉ text
  noSeparator : ¬ separator <:+: text

end Archive

/-- A table that is read has columns that were read and rows that were inserted. Its key was found
under some name. -/
structure Table.Loaded (table : Table) : Prop where
  name : '\n' ∉ table.name.toList
  columns : ∀ column ∈ table.schema.columns, column.Loaded table.name
  size : table.schema.size < Decimal.countBound
  key : ∀ key, table.primaryKey = some key →
    ∃ name, name ≠ Archive.nothing ∧ table.schema.indexOf? name = some key
  filled : ∀ row ∈ table.rows, row ≠ []
  cells : table.Every Column.Holds
  texts : ∀ row ∈ table.rows, ∀ text, Value.text text ∈ row → Archive.Undivided text.toList

namespace Archive

open Reader

/-- Each cell is read by its column, and the texts among them are fields of the line. -/
theorem readCells_reads {columns : List Column} {fields : List String} {row : Row}
    (size : fields.length = columns.length) (read : readCells columns fields = .ok row) :
    List.Forall₂ Column.Reads columns row ∧ ∀ text, Value.text text ∈ row → text ∈ fields := by
  induction columns generalizing fields row with
  | nil =>
      cases read
      exact ⟨.nil, by simp⟩
  | cons column rest ih =>
      cases fields with
      | nil => cases size
      | cons field others =>
          obtain ⟨value, first, remaining⟩ := bind_eq_ok.mp read
          obtain ⟨cells, later, last⟩ := bind_eq_ok.mp remaining
          cases last
          obtain ⟨reads, texts⟩ := ih (Nat.succ.inj size) later
          have literal := DataType.readLiteral_ok.mp first
          refine ⟨.cons ⟨field, literal⟩ reads, ?_⟩
          intro text present
          rcases List.mem_cons.mp present with same | there
          · rw [← same] at literal
            rw [DataType.text_of_literal literal]
            exact List.mem_cons_self
          · exact List.mem_cons_of_mem field (texts text there)

/-- The parts of a column line are words, so name and reference are, and the counts fit. -/
theorem readColumn_loaded (table : String) (position : Nat) :
    Yields (readColumn table position) (Column.Loaded table) := by
  unfold readColumn
  refine yields_next.bind fun line _ => ?_
  split
  · rename_i name place width type flag reference words
    have word : ∀ part ∈ [name, place, width, type, flag, reference], IsWord part.toList := by
      rw [← words]
      intro part present
      obtain ⟨letters, member, rfl⟩ := List.mem_map.mp present
      rw [String.toList_ofList]
      exact Text.isWord_of_words letters member
    refine yields_ite (fun _ => yields_damaged_bind) fun _ => ?_
    refine yields_accept.bind fun type typed => yields_need.bind fun notNull _ => ?_
    refine yields_need.bind fun wide _ => ?_
    have wideEnough := Nat.le_max_right wide (Column.fresh name table type notNull).width
    let fresh := Column.fresh name table type notNull
    have built : ∀ key : Option ForeignKey,
        (∀ other ∈ key, reference? reference = some other) →
          Column.Loaded table { fresh with width := max wide fresh.width, foreignKey := key } := by
      intro key referred
      refine ⟨word name (by simp), rfl, wideEnough, DataType.small_of_ofText typed, ?_⟩
      intro other present
      obtain ⟨inside, small⟩ := reference?_some (referred other present)
      exact ⟨fun c there => (word reference (by simp)).noBlank c (inside c there), small⟩
    refine yields_ite (fun _ => ?_) fun _ => ?_
    · have referred : ∀ other ∈ (none : Option ForeignKey), reference? reference = some other :=
        fun _ absent => nomatch absent
      exact (yields_pure referred).bind fun key read => yields_pure (built key read)
    · have referred : ∀ key, reference? reference = some key →
          ∀ other ∈ some key, reference? reference = some other := by
        rintro key read other ⟨⟩
        exact read
      exact (yields_need.imp referred).map.bind fun key read => yields_pure (built key read)
  · exact yields_damaged

/-- Exactly the announced number of columns is read. -/
theorem readColumns_loaded (table : String) (position count : Nat) :
    Yields (readColumns table position count) fun columns =>
      (∀ column ∈ columns, column.Loaded table) ∧ columns.length = count := by
  induction count generalizing position with
  | zero => exact yields_pure ⟨by simp, rfl⟩
  | succ count ih =>
      refine (readColumn_loaded table position).bind fun column first => ?_
      refine (ih (position + 1)).bind fun others ⟨later, size⟩ => ?_
      exact yields_pure ⟨List.forall_mem_cons.mpr ⟨first, later⟩, congrArg Nat.succ size⟩

/-- A key is found under a name, which is not the one that stands for no key. -/
theorem readKey_loaded (schema : Schema) :
    Yields (readKey schema) fun key => ∀ position, key = some position →
      ∃ name, name ≠ nothing ∧ schema.indexOf? name = some position := by
  unfold readKey
  refine yields_next.bind fun name _ => yields_ite (fun _ => ?_) fun other => ?_
  · exact yields_pure (by simp)
  · refine (yields_need.imp fun position found => ?_).map
    intro key same
    cases same
    exact ⟨name, other, found⟩

/-- A row that is read leaves a table as it must be, with one row more. -/
theorem readRow_loaded {table : Table} (loaded : table.Loaded) :
    Yields (readRow table) fun changed =>
      changed.Loaded ∧ changed.rows.length = table.rows.length + 1 := by
  unfold readRow
  refine yields_next.bind fun line whole => yields_need.bind fun fields found => ?_
  refine yields_accept.bind fun row read => yields_accept.imp fun changed stored => ?_
  obtain ⟨split, counted⟩ := Option.filter_eq_some_iff.mp found
  have size : fields.length = table.schema.columns.length := of_decide_eq_true counted
  obtain ⟨nonempty, inside⟩ := fields?_some split
  obtain ⟨reads, texts⟩ := readCells_reads size read
  have same := reads.length_eq
  have grow := Table.fit_columns_grow same
  obtain ⟨_, _, rfl⟩ := Table.insert_ok.mp stored
  have filled : row ≠ [] := by
    rintro rfl
    rw [same] at size
    exact nonempty (List.eq_nil_of_length_eq_zero size)
  have undivided : ∀ text, Value.text text ∈ row → Undivided text.toList := by
    intro text present
    obtain ⟨part, noSeparator⟩ := inside text (texts text present)
    exact ⟨fun feed => whole (part '\n' feed), noSeparator⟩
  refine ⟨?_, List.length_append⟩
  refine ⟨loaded.name, Column.forall_of_grow Column.loaded_steady grow loaded.columns, ?_, ?_, ?_,
    Table.every_extended Column.holds_steady loaded.cells (Column.holds_of_reads reads) same, ?_⟩
  · rw [Table.size_extended same]
    exact loaded.size
  · intro key keyed
    obtain ⟨name, other, there⟩ := loaded.key key keyed
    refine ⟨name, other, ?_⟩
    rw [Table.extended, Schema.indexOf?_of_grow grow]
    exact there
  · exact List.forall_mem_append.mpr ⟨loaded.filled, List.forall_mem_singleton.mpr filled⟩
  · exact List.forall_mem_append.mpr ⟨loaded.texts, List.forall_mem_singleton.mpr undivided⟩

/-- Exactly the announced number of rows is added to the table. -/
theorem readRows_loaded (count : Nat) {table : Table} (loaded : table.Loaded) :
    Yields (readRows count table) fun final =>
      final.Loaded ∧ final.rows.length = table.rows.length + count := by
  induction count generalizing table with
  | zero => exact yields_pure ⟨loaded, rfl⟩
  | succ count ih =>
      refine (readRow_loaded loaded).bind fun changed ⟨kept, longer⟩ => ?_
      refine (ih kept).imp fun final ⟨last, whole⟩ => ⟨last, ?_⟩
      rw [whole, longer]
      omega

/-- The name of a table is a line, and the number of its rows was read as a count. -/
theorem readTable_loaded : Yields readTable fun table =>
    table.Loaded ∧ table.rows.length < Decimal.countBound := by
  unfold readTable
  refine yields_next.bind fun name whole => yields_count.bind fun size small => ?_
  refine (readColumns_loaded name 0 size).bind fun columns read => ?_
  obtain ⟨loaded, same⟩ := read
  refine (readKey_loaded ⟨columns⟩).bind fun key found => ?_
  refine yields_count.bind fun count few => ?_
  have empty : Table.Loaded ⟨name, ⟨columns⟩, key, []⟩ :=
    ⟨whole, loaded, Nat.lt_of_le_of_lt (Nat.le_of_eq same) small, found, by simp,
      by simp [Table.Every], by simp⟩
  apply (readRows_loaded count empty).imp
  intro table read
  obtain ⟨last, counted⟩ := read
  have whole : table.rows.length = count := by
    rw [counted]
    exact Nat.zero_add count
  exact ⟨last, whole ▸ few⟩

/-- Tables that are read have different names. -/
def Apart (tables : List Table) : Prop :=
  tables.Pairwise fun first second => first.name ≠ second.name

/-- A table whose name is taken is refused, so the names stay different. -/
theorem readTables_loaded (count : Nat) {tables : List Table} (apart : Apart tables)
    (loaded : ∀ table ∈ tables, table.Loaded ∧ table.rows.length < Decimal.countBound) :
    Yields (readTables count tables) fun all => Apart all ∧ all.length = tables.length + count ∧
      ∀ table ∈ all, table.Loaded ∧ table.rows.length < Decimal.countBound := by
  induction count generalizing tables with
  | zero => exact yields_pure ⟨apart, rfl, loaded⟩
  | succ count ih =>
      refine readTable_loaded.bind fun table fresh => ?_
      refine yields_ite (fun _ => yields_damaged_bind) fun other => ?_
      have further : Apart (tables ++ [table]) := by
        refine List.pairwise_append.mpr ⟨apart, List.pairwise_singleton _ _, ?_⟩
        intro earlier present new member same
        rw [List.mem_singleton.mp member] at same
        exact other (List.any_eq_true.mpr ⟨earlier, present, beq_iff_eq.mpr same⟩)
      have whole := List.forall_mem_append.mpr ⟨loaded, List.forall_mem_singleton.mpr fresh⟩
      refine (ih further whole).imp fun all ⟨pairs, size, each⟩ => ⟨pairs, ?_, each⟩
      rw [size, List.length_append, List.length_singleton]
      omega

/-- A store that is read has a line for its name, and tables that were read and have different
names. All its counts are machine words. -/
structure Accepted (name : String) (tables : List Table) : Prop where
  name : '\n' ∉ name.toList
  few : tables.length < Decimal.countBound
  apart : Apart tables
  loaded : ∀ table ∈ tables, table.Loaded
  count : ∀ table ∈ tables, table.rows.length < Decimal.countBound

/-- A store that is read was read table by table, as many as announced. -/
theorem readStore_accepted : Yields readStore fun store => Accepted store.1 store.2 := by
  unfold readStore
  refine yields_next.bind fun name whole => yields_count.bind fun count few => ?_
  refine (readTables_loaded count .nil (by simp)).bind fun tables ⟨apart, size, each⟩ => ?_
  have small : tables.length < Decimal.countBound := by
    rw [size]
    exact (Nat.zero_add count).symm ▸ few
  exact yields_pure ⟨whole, small, apart, fun table present => (each table present).1,
    fun table present => (each table present).2⟩

/-- Whatever file can be read, its store is accepted. -/
theorem accepted_of_read {content : Option ByteArray} {name : String} {tables : List Table}
    (done : read content = .ok (name, tables)) : Accepted name tables :=
  holds_of_read readStore_accepted done

end Archive

end TableStore
