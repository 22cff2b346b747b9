/-
This file carries properties of tables through statements and scripts.
A property that every change of a table keeps holds of all tables after any statements.
-/

import TableStore.Database
import TableStore.Proofs.Success

namespace TableStore

/-- The table with a foreign key on one of its columns. -/
def Table.referring (table : Table) (position : Nat) (key : ForeignKey) : Table :=
  { table with
    schema := table.schema.modify position fun column => { column with foreignKey := some key } }

namespace Database

theorem table_ok {database : Database} {name : String} {table : Table} :
    database.table name = .ok table ↔ database.catalog.find? name = some table := by
  unfold Database.table
  cases database.catalog.find? name <;> simp

/-- A change that succeeds is stored in place of its table. -/
theorem changeTable_ok {α : Type} {database next : Database} {name : String} {result : α}
    {change : Table → Except Fault (α × Table)} :
    database.changeTable name change = .ok (result, next) ↔
      ∃ table changed, database.catalog.find? name = some table ∧
        change table = .ok (result, changed) ∧ next = database.putTable changed := by
  constructor
  · intro done
    obtain ⟨table, found, changing⟩ := bind_eq_ok.mp done
    obtain ⟨⟨outcome, changed⟩, success, last⟩ := bind_eq_ok.mp changing
    cases last
    exact ⟨table, changed, table_ok.mp found, success, rfl⟩
  · rintro ⟨table, changed, found, success, rfl⟩
    rw [changeTable, table_ok.mpr found, ok_bind, success]
    rfl

/-- What a statement that succeeds makes of the store. -/
inductive Step (database : Database) : Statement → Database → Prop where
  | create {declaration : TableDeclaration} {declared table : Table} :
      database.catalog.find? declaration.name = none →
      Table.declare declaration.name declaration.columns = .ok declared →
      declaration.references.foldlM database.addReference declared = .ok table →
      Step database (.create declaration) (database.putTable table)
  | drop (name : String) :
      Step database (.drop name) { database with catalog := database.catalog.erase name }
  | insert {insertion : Insertion} {table changed : Table} :
      database.catalog.find? insertion.table = some table →
      table.addRow insertion.values insertion.columns = .ok changed →
      Step database (.insert insertion) (database.putTable changed)
  | select (query : Query) : Step database (.select query) database
  | delete {deletion : Deletion} {table changed : Table} {count : Nat} :
      database.catalog.find? deletion.table = some table →
      table.delete deletion.condition = .ok (count, changed) →
      Step database (.delete deletion) (database.putTable changed)
  | update {change : Change} {table changed : Table} {count : Nat} :
      database.catalog.find? change.table = some table →
      table.update change.assignments change.condition = .ok (count, changed) →
      Step database (.update change) (database.putTable changed)

/-- All that later proofs need to know about a statement that succeeds. -/
theorem run_ok {database next : Database} {statement : Statement} {outcome : Outcome}
    (done : database.run statement = .ok (outcome, next)) : database.Step statement next := by
  cases statement with
  | create declaration =>
      change database.create declaration = _ at done
      unfold create at done
      split at done
      · cases done
      · rename_i unused
        obtain ⟨declared, fresh, referring⟩ := bind_eq_ok.mp done
        obtain ⟨table, referred, last⟩ := bind_eq_ok.mp referring
        cases last
        exact .create (Option.not_isSome_iff_eq_none.mp unused) fresh referred
  | drop name =>
      change database.drop name = _ at done
      unfold drop at done
      split at done
      · cases done
      · cases done
        exact .drop name
  | insert insertion =>
      obtain ⟨table, changed, found, success, rfl⟩ := changeTable_ok.mp done
      obtain ⟨other, added, last⟩ := bind_eq_ok.mp success
      cases last
      exact .insert found added
  | select query =>
      obtain ⟨result, _, last⟩ := bind_eq_ok.mp done
      cases last
      exact .select query
  | delete deletion =>
      obtain ⟨table, changed, found, success, rfl⟩ := changeTable_ok.mp done
      obtain ⟨⟨count, other⟩, removed, last⟩ := bind_eq_ok.mp success
      cases last
      exact .delete found removed
  | update change =>
      obtain ⟨table, changed, found, success, rfl⟩ := changeTable_ok.mp done
      obtain ⟨⟨count, other⟩, assigned, last⟩ := bind_eq_ok.mp success
      cases last
      exact .update found assigned

/-- A text that fails leaves the store, and a text that succeeds takes the step of its statement. -/
theorem attempt_cases (database : Database) (text : String) :
    (database.attempt text).2 = database ∨
      ∃ statement, database.parse text = .ok statement ∧
        database.Step statement (database.attempt text).2 := by
  unfold attempt
  split
  · rename_i outcome changed success
    obtain ⟨statement, read, done⟩ := bind_eq_ok.mp success
    exact .inr ⟨statement, read, run_ok done⟩
  · exact .inl rfl

/-- A reference that is accepted leads to a column of a stored table. -/
theorem addReference_ok {database : Database} {table changed : Table} {reference : Reference}
    (done : database.addReference table reference = .ok changed) :
    ∃ position target referenced, database.catalog.find? reference.table = some referenced ∧
      target < referenced.schema.size ∧
      changed = table.referring position ⟨reference.table, target⟩ := by
  unfold addReference at done
  split at done
  · cases done
  · rename_i position found
    obtain ⟨referenced, stored, rest⟩ := bind_eq_ok.mp done
    obtain ⟨target, resolved, last⟩ := bind_eq_ok.mp rest
    have within := Schema.resolve_lt resolved
    have own := Schema.indexOf?_lt found
    refine ⟨position, target, referenced, table_ok.mp stored, within, ?_⟩
    rw [List.getElem?_eq_getElem own, List.getElem?_eq_getElem within] at last
    by_cases same : (table.schema.columns[position].type.sameKind
        referenced.schema.columns[target].type) = true
    · simp only [same] at last
      cases last
      rfl
    · simp only [same] at last
      cases last

/-- What a foreign key keeps while there are no rows, a new table has with all of its references. -/
theorem references_keep {Good : Table → Prop} {database : Database} {references : List Reference}
    {declared table : Table}
    (kept : ∀ table : Table, table.rows = [] → Good table → ∀ reference ∈ references,
      ∀ position target, Good (table.referring position ⟨reference.table, target⟩))
    (done : references.foldlM database.addReference declared = .ok table)
    (empty : declared.rows = []) (good : Good declared) : Good table := by
  have keeps : ∀ table : Table, ∀ reference ∈ references, ∀ next,
      database.addReference table reference = .ok next →
      Good table ∧ table.rows = [] → Good next ∧ next.rows = [] := by
    rintro table reference member next added ⟨good, empty⟩
    obtain ⟨position, target, referenced, _, _, rfl⟩ := addReference_ok added
    exact ⟨kept table empty good reference member position target, empty⟩
  exact (foldlM_keeps keeps done ⟨good, empty⟩).1

/-- A foreign key changes nothing else about its column. -/
theorem forall_referring {Good : Column → Prop} {key : ForeignKey}
    (kept : ∀ column : Column, Good column → Good { column with foreignKey := some key })
    {table : Table} (good : ∀ column ∈ table.schema.columns, Good column) (position : Nat) :
    ∀ column ∈ (table.referring position key).schema.columns, Good column := by
  intro column present
  obtain ⟨index, within, rfl⟩ := List.mem_iff_getElem.mp present
  have inside : index < table.schema.columns.length := by
    rwa [Table.referring, Schema.modify, List.length_modify] at within
  have old := good table.schema.columns[index] (List.getElem_mem inside)
  simp only [Table.referring, Schema.modify, List.getElem_modify]
  split
  · exact kept _ old
  · exact old

/-- A reference leaves the names of the columns. -/
theorem names_referring (table : Table) (position : Nat) (key : ForeignKey) :
    (table.referring position key).schema.columns.map (·.name) =
      table.schema.columns.map (·.name) := by
  apply List.ext_getElem
  · simp [Table.referring, Schema.modify]
  · intro index within inside
    simp only [Table.referring, Schema.modify, List.getElem_map, List.getElem_modify]
    split
    · rfl
    · rfl

/-- All tables of the store have the given property. -/
def All (database : Database) (Good : Table → Prop) : Prop :=
  ∀ table ∈ database.catalog.tables, Good table

instance (database : Database) (Good : Table → Prop) [∀ table, Decidable (Good table)] :
    Decidable (database.All Good) :=
  inferInstanceAs (Decidable (∀ table ∈ database.catalog.tables, Good table))

/-- A property of tables outlasts statements when new tables have it and changes keep it. -/
structure Keeps (Good : Table → Prop) : Prop where
  created : ∀ (database : Database) text declaration declared table,
    database.parse text = .ok (.create declaration) →
    Table.declare declaration.name declaration.columns = .ok declared →
    declaration.references.foldlM database.addReference declared = .ok table → Good table
  inserted : ∀ (table changed : Table) values names,
    table.addRow values names = .ok changed → Good table → Good changed
  deleted : ∀ (table changed : Table) condition count,
    table.delete condition = .ok (count, changed) → Good table → Good changed
  updated : ∀ (table changed : Table) assignments condition count,
    table.update assignments condition = .ok (count, changed) → Good table → Good changed

variable {Good : Table → Prop}

theorem all_fresh (name : String) (precedences : Precedences) :
    (fresh name precedences).All Good := by
  intro table present
  cases present

/-- Putting a good table keeps all tables good. -/
theorem all_putTable {database : Database} (all : database.All Good) {table : Table}
    (good : Good table) : (database.putTable table).All Good := by
  intro other present
  rcases Catalog.mem_putIn present with rfl | stored
  · exact good
  · exact all other stored

/-- Removing a table keeps the others good. -/
theorem all_erase {database : Database} (all : database.All Good) (name : String) :
    ({ database with catalog := database.catalog.erase name } : Database).All Good :=
  fun table present => all table (List.mem_of_mem_filter present)

theorem All.find {database : Database} (all : database.All Good) {name : String} {table : Table}
    (found : database.catalog.find? name = some table) : Good table :=
  all table (Catalog.mem_of_find? found)

/-- One statement keeps the property. -/
theorem Keeps.step (keeps : Keeps Good) {database next : Database} {text : String}
    {statement : Statement} (read : database.parse text = .ok statement)
    (step : database.Step statement next) (all : database.All Good) : next.All Good := by
  cases step with
  | create _ fresh referred =>
      exact all_putTable all (keeps.created database text _ _ _ read fresh referred)
  | drop name => exact all_erase all name
  | insert found added => exact all_putTable all (keeps.inserted _ _ _ _ added (all.find found))
  | select => exact all
  | delete found removed => exact all_putTable all (keeps.deleted _ _ _ _ removed (all.find found))
  | update found assigned =>
      exact all_putTable all (keeps.updated _ _ _ _ _ assigned (all.find found))

/-- The text of one statement keeps the property, whether it succeeds or fails. -/
theorem Keeps.attempt (keeps : Keeps Good) {database : Database} (text : String)
    (all : database.All Good) : (database.attempt text).2.All Good := by
  rcases database.attempt_cases text with same | ⟨statement, read, step⟩
  · rwa [same]
  · exact keeps.step read step all

/-- A list of statements keeps the property. -/
theorem Keeps.runAll (keeps : Keeps Good) {database : Database} (texts : List String)
    (all : database.All Good) : (database.runAll texts).2.All Good := by
  induction texts generalizing database with
  | nil => exact all
  | cons text rest ih => exact ih (keeps.attempt text all)

end Database

end TableStore
