/-
This file says in which stores every column is found under its bare name and its qualified name.
Statements make no other tables, but a file may bring tables without columns, with repeated names
or with points in their names.
-/

import TableStore.Catalog.Lookup
import TableStore.Proofs.Archive.Accepted
import TableStore.Proofs.Table.Alignment

namespace TableStore

namespace Table

/-- An addressable table has a column, its columns have different names, and each of them is found
at its position under its bare name and under its qualified name. -/
structure Addressable (table : Table) : Prop where
  nonempty : table.schema.columns ≠ []
  apart : (table.schema.columns.map (·.name)).Nodup
  found : ∀ position (within : position < table.schema.columns.length),
    table.schema.indexOf? table.schema.columns[position].name = some position ∧
      table.schema.indexOf? table.schema.columns[position].qualifiedName = some position

instance (table : Table) : Decidable table.Addressable :=
  decidable_of_iff (table.schema.columns ≠ [] ∧ (table.schema.columns.map (·.name)).Nodup ∧
      ∀ position (within : position < table.schema.columns.length),
        table.schema.indexOf? table.schema.columns[position].name = some position ∧
          table.schema.indexOf? table.schema.columns[position].qualifiedName = some position)
    ⟨fun parts => ⟨parts.1, parts.2.1, parts.2.2⟩,
      fun whole => ⟨whole.nonempty, whole.apart, whole.found⟩⟩

/-- A well-named table has a column, its columns have different names, and there is no point in its
name or in theirs. -/
structure WellNamed (table : Table) : Prop where
  nonempty : table.schema.columns ≠ []
  apart : (table.schema.columns.map (·.name)).Nodup
  name : '.' ∉ table.name.toList
  columns : ∀ column ∈ table.schema.columns, '.' ∉ column.name.toList

/-- Where columns belong to their table, its names alone decide whether all columns are found. -/
theorem addressable_iff_wellNamed {table : Table}
    (owned : ∀ column ∈ table.schema.columns, column.table = table.name) :
    table.Addressable ↔ table.WellNamed := by
  constructor
  · intro addressable
    refine ⟨addressable.nonempty, addressable.apart, ?_, ?_⟩
    · have some := List.length_pos_iff.mpr addressable.nonempty
      rw [← owned _ (List.getElem_mem some)]
      exact Schema.noPoint_of_qualifiedName (List.getElem?_eq_getElem some)
        (addressable.found 0 some).2
    · intro column present
      obtain ⟨position, within, rfl⟩ := List.mem_iff_getElem.mp present
      exact Schema.noPoint_of_indexOf? (List.getElem?_eq_getElem within)
        (addressable.found position within).1
  · intro named
    refine ⟨named.nonempty, named.apart, fun position within => ?_⟩
    have there := List.getElem?_eq_getElem within
    have member := List.getElem_mem within
    refine ⟨Schema.indexOf?_name named.apart there (named.columns _ member), ?_⟩
    apply Schema.indexOf?_qualifiedName named.apart there
    rw [owned _ member]
    exact named.name

/-- A declared table has different names without points. -/
theorem Regular.wellNamed {table : Table} (regular : table.Regular) : table.WellNamed where
  nonempty := regular.nonempty
  apart := regular.apart
  name := regular.name.noPoint
  columns column present := (regular.columns column present).name.noPoint

/-- Names stay when columns grow. -/
theorem WellNamed.widened {table changed : Table} (named : table.WellNamed)
    (widens : table.Widens changed) : changed.WellNamed := by
  refine ⟨?_, ?_, ?_, ?_⟩
  · intro none
    have grow := widens.columns
    rw [none] at grow
    exact named.nonempty (List.forall₂_nil_right_iff.mp grow)
  · rw [Column.names_of_grow widens.columns]
    exact named.apart
  · rw [widens.name]
    exact named.name
  · apply Column.forall_of_grow _ widens.columns named.columns
    intro column wider grows plain
    rw [grows.same]
    exact plain

end Table

namespace Database

/-- Statements and typed rows keep every table well-named. -/
theorem changes_wellNamed : Changes Table.WellNamed where
  created database text declaration declared table read fresh referred :=
    (keeps_regular.created database text declaration declared table read fresh referred).wellNamed
  inserted _ _ _ _ added named := named.widened (Table.addRow_widens added)
  deleted _ _ _ _ removed named := named.widened (Table.delete_widens removed)
  updated _ _ _ _ _ assigned named := named.widened (Table.update_widens assigned)
  stored _ _ _ stored named := named.widened (Table.insert_widens stored)

/-- In a store that began empty, names alone decide whether all columns are found. -/
theorem reachable_addressable_iff (name : String) (precedences : Precedences)
    (requests : List Request) :
    ((fresh name precedences).serveAll requests).All Table.Addressable ↔
      ((fresh name precedences).serveAll requests).All Table.WellNamed := by
  have sound := serveAll_all (all_fresh name precedences) requests
  constructor
  · intro all table present
    exact (Table.addressable_iff_wellNamed (sound table present).owned).mp (all table present)
  · intro all table present
    exact (Table.addressable_iff_wellNamed (sound table present).owned).mpr (all table present)

theorem serveAll_append (database : Database) (first second : List Request) :
    database.serveAll (first ++ second) = (database.serveAll first).serveAll second :=
  List.foldl_append

/-- Loading a file that can be read leaves exactly the tables of the file. -/
theorem all_of_loaded {Good : Table → Prop} {database : Database} {content : Option ByteArray}
    (all : (database.loaded content).All Good) {name : String} {tables : List Table}
    (read : Archive.read content = .ok (name, tables)) : ∀ table ∈ tables, Good table := by
  intro table present
  have apart := (Archive.accepted_of_read read).apart
  unfold loaded load at all
  rw [read] at all
  exact all table (Catalog.mem_ofList apart present)

/-- All columns are found under both of their names, at every moment of a run, exactly when every
file that is loaded on the way and can be read has well-named tables only. Without files they always
are. -/
theorem stays_addressable_iff (name : String) (precedences : Precedences)
    (requests : List Request) :
    (∀ early, early <+: requests →
      ((fresh name precedences).serveAll early).All Table.Addressable) ↔
        ∀ request ∈ requests, request.Loads Table.WellNamed := by
  simp only [reachable_addressable_iff]
  constructor
  · intro always request present
    cases request with
    | load content =>
        obtain ⟨front, back, rfl⟩ := List.append_of_mem present
        have early : front ++ [.load content] <+: front ++ .load content :: back := ⟨back, by simp⟩
        have all := always _ early
        rw [serveAll_append] at all
        exact fun other tables read => all_of_loaded all read
    | _ => trivial
  · rintro loads early ⟨late, rfl⟩
    apply changes_wellNamed.serveAll (all_fresh name precedences)
    exact fun request present => loads request (List.mem_append_left late present)

/-- Files that can be read with repeated names of columns, with no column at all, and with a point
in the name of a column or of a table. -/
theorem loaded_unaddressable :
    let reached (text : String) := (fresh "D" .standard).serveAll [.load (some text.toUTF8)]
    let column (name table : String) : Column := ⟨name, table, .int, false, 4, none⟩
    ((reached "D\n1\nt\n2\na 0 4 INT 0 -\na 1 4 INT 0 -\na\n0\n").catalog.tables =
        [⟨"t", ⟨[column "a" "t", column "a" "t"]⟩, some 0, []⟩] ∧
      ¬ (reached "D\n1\nt\n2\na 0 4 INT 0 -\na 1 4 INT 0 -\na\n0\n").All Table.Addressable) ∧
    ((reached "D\n1\nt\n0\n-\n0\n").catalog.tables = [⟨"t", ⟨[]⟩, none, []⟩] ∧
      ¬ (reached "D\n1\nt\n0\n-\n0\n").All Table.Addressable) ∧
    ((reached "D\n1\nt\n1\nx.y 0 4 INT 0 -\n-\n0\n").catalog.tables =
        [⟨"t", ⟨[column "x.y" "t"]⟩, none, []⟩] ∧
      ¬ (reached "D\n1\nt\n1\nx.y 0 4 INT 0 -\n-\n0\n").All Table.Addressable) ∧
    (reached "D\n1\nu.t\n1\na 0 4 INT 0 -\n-\n0\n").catalog.tables =
        [⟨"u.t", ⟨[column "a" "u.t"]⟩, none, []⟩] ∧
      ¬ (reached "D\n1\nu.t\n1\na 0 4 INT 0 -\n-\n0\n").All Table.Addressable := by
  intro reached column
  refine ⟨?_, ?_, ?_, ?_⟩
  · exact ⟨by decide +kernel, by decide +kernel⟩
  · exact ⟨by decide +kernel, by decide +kernel⟩
  · exact ⟨by decide +kernel, by decide +kernel⟩
  · exact ⟨by decide +kernel, by decide +kernel⟩

end Database

end TableStore
