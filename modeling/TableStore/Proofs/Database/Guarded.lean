/-
This file reads and runs statements with guarded positions.
In every store that requests can lead to, no name, condition or key gives a position outside of a
row, so no text ever makes a statement give up.
-/

import TableStore.Proofs.Database.Soundness
import TableStore.Proofs.Statement.Guarded
import TableStore.Proofs.Table.GuardedJoin

namespace TableStore

open Guarded

namespace Table

/-- Every position that a name, an assignment, a condition or the key of a covered table gives lies
in each of its rows. -/
structure Covered (table : Table) : Prop where
  named : ∀ row ∈ table.rows, ∀ name position,
    table.schema.indexOf? name = some position → position < row.length
  resolved : ∀ row ∈ table.rows, ∀ name position,
    table.schema.resolve name = .ok position → position < row.length
  projected : ∀ row ∈ table.rows, ∀ names positions, table.schema.positions names = .ok positions →
    ∀ position ∈ positions, position < row.length
  assigned : ∀ row ∈ table.rows, ∀ (assignments : List (String × String)) targets,
    assignments.foldlM (addTarget table.schema) [] = .ok targets →
    ∀ target ∈ targets, target.1 < row.length
  bound : ∀ row ∈ table.rows, ∀ (condition : Condition) bound,
    condition.bind table.schema = .ok bound →
    ∀ check, .check check ∈ bound.terms → check.Within row.length
  keyed : ∀ row ∈ table.rows, ∀ key, table.primaryKey = some key → key < row.length

/-- Positions are found among the columns, and a shaped table has a value for each of them. -/
theorem Shaped.covered {table : Table} (shaped : table.Shaped) : table.Covered where
  named row present _ _ found := shaped.rows row present ▸ Schema.indexOf?_lt found
  resolved row present _ _ found := shaped.rows row present ▸ Schema.resolve_lt found
  projected row present _ _ placed position chosen :=
    shaped.rows row present ▸ positions_within placed position chosen
  assigned row present _ _ valid target chosen :=
    shaped.rows row present ▸ (targets_of_assignments valid).within target chosen
  bound row present _ _ binds _ member :=
    shaped.rows row present ▸ Condition.bind_within binds member
  keyed row present key keyed := shaped.rows row present ▸ shaped.keyed key keyed

end Table

namespace Database

/-- Queries read stored tables and joins of two of them. -/
inductive Reads (database : Database) : Table → Prop where
  | stored {table : Table} : table ∈ database.catalog.tables → Reads database table
  | joined {kind : JoinKind} {left right table : Table} {leftName rightName : String} :
      left ∈ database.catalog.tables → right ∈ database.catalog.tables →
      Table.join kind left right leftName rightName = .ok table → Reads database table

def changeTableGuarded {α : Type} (database : Database) (name : String)
    (change : Table → Guarded Fault (α × Table)) : Guarded Fault (α × Database) := do
  let (result, changed) ← change (← sure (database.table name))
  return (result, database.putTable changed)

def addReferenceGuarded (database : Database) (table : Table) (reference : Reference) :
    Guarded Fault Table :=
  match table.schema.indexOf? reference.column with
  | none => throw (.logic (.undeclaredReference reference.column))
  | some position => do
      let referenced ← sure (database.table reference.table)
      let target ← sure (referenced.schema.resolve reference.target)
      let own ← look table.schema.columns position
      let other ← look referenced.schema.columns target
      if !own.type.sameKind other.type then
        throw (.logic (.referenceKind reference own.type other.type))
      let columns ← change table.schema.columns position fun column =>
        { column with foreignKey := some ⟨reference.table, target⟩ }
      return { table with schema := ⟨columns⟩ }

def createGuarded (database : Database) (declaration : TableDeclaration) :
    Guarded Fault (Outcome × Database) := do
  if (database.catalog.find? declaration.name).isSome then
    throw (.logic (.tableExists declaration.name))
  let table ← sure (Table.declare declaration.name declaration.columns)
  let table ← declaration.references.foldlM database.addReferenceGuarded table
  return (.created declaration.name, database.putTable table)

def sourceGuarded (database : Database) (query : Query) : Guarded Fault Table := do
  let base ← sure (database.table query.table)
  match query.join with
  | none => return base
  | some clause => do
      let other ← sure (database.table clause.table)
      let (leftName, rightName) ← sure (joinColumns clause base other)
      Table.joinGuarded clause.kind base other leftName rightName

def selectGuarded (database : Database) (query : Query) : Guarded Fault ResultSet := do
  let table ← database.sourceGuarded query
  let names := match query.columns with
    | .all => none
    | .only names => some names
  table.selectGuarded names query.condition

def runGuarded (database : Database) : Statement → Guarded Fault (Outcome × Database)
  | .create declaration => database.createGuarded declaration
  | .drop table => sure (database.drop table)
  | .insert insertion => database.changeTableGuarded insertion.table fun table => do
      return (.inserted 1, ← table.addRowGuarded insertion.values insertion.columns)
  | .select query => do return (.rows (← database.selectGuarded query), database)
  | .delete deletion => database.changeTableGuarded deletion.table fun table => do
      let (count, table) ← table.deleteGuarded deletion.condition
      return (.deleted count, table)
  | .update change => database.changeTableGuarded change.table fun table => do
      let (count, table) ← table.updateGuarded change.assignments change.condition
      return (.updated count, table)

def parseGuarded (database : Database) (text : String) : Guarded Fault Statement :=
  (Statement.ofTextGuarded database.precedences text).adapt .grammar

/-- The text of one statement is read and run with guarded positions. -/
def executeGuarded (database : Database) (text : String) :
    Guarded Fault (Outcome × Database) := do
  database.runGuarded (← database.parseGuarded text)

variable {database : Database}

/-- Every text is parsed without looking at a token that is not there. -/
theorem parseGuarded_eq (database : Database) (text : String) :
    database.parseGuarded text = sure (database.parse text) := by
  rw [parseGuarded, Statement.ofTextGuarded_eq]
  rfl

/-- A change that stays inside on shaped tables stays inside on the stored one. -/
theorem changeTableGuarded_eq {α : Type} (all : database.All Table.Shaped) (name : String)
    {guarded : Table → Guarded Fault (α × Table)} {plain : Table → Except Fault (α × Table)}
    (each : ∀ table : Table, table.Shaped → guarded table = sure (plain table)) :
    database.changeTableGuarded name guarded = sure (database.changeTable name plain) := by
  apply bind_sure
  intro table found
  rw [each table (all.find (table_ok.mp found))]
  apply bind_sure
  intro result _
  rfl

/-- Both columns of a reference were found, so they are where they are looked up. -/
theorem addReferenceGuarded_eq (database : Database) (table : Table) (reference : Reference) :
    database.addReferenceGuarded table reference =
      sure (database.addReference table reference) := by
  unfold addReferenceGuarded addReference
  cases named : table.schema.indexOf? reference.column with
  | none => rfl
  | some position =>
      apply bind_sure
      intro referenced _
      apply bind_sure
      intro target resolved
      have within : position < table.schema.columns.length := Schema.indexOf?_lt named
      have own := List.getElem?_eq_getElem within
      have other := List.getElem?_eq_getElem (Schema.resolve_lt resolved)
      rw [look_of_getElem? own, look_of_getElem? other, own, other]
      simp only [pure_bind, change_of_lt within]
      split
      · rfl
      · rfl

/-- A table is created without a position outside of its columns. -/
theorem createGuarded_eq (database : Database) (declaration : TableDeclaration) :
    database.createGuarded declaration = sure (database.create declaration) := by
  unfold createGuarded create
  split
  · rfl
  · apply bind_sure
    intro table _
    have referred : declaration.references.foldlM database.addReferenceGuarded table =
        sure (declaration.references.foldlM database.addReference table) :=
      foldlM_each (fun table reference _ => addReferenceGuarded_eq database table reference) table
    rw [referred]
    apply bind_sure
    intro table _
    rfl

/-- The table that a query reads is put together without giving up. -/
theorem sourceGuarded_eq (all : database.All Table.Shaped) (query : Query) :
    database.sourceGuarded query = sure (database.source query) := by
  apply bind_sure
  intro base found
  cases query.join with
  | none => rfl
  | some clause =>
      apply bind_sure
      intro other stored
      apply bind_sure
      intro names _
      exact Table.joinGuarded_eq (all.find (table_ok.mp found)) (all.find (table_ok.mp stored))
        clause.kind names.1 names.2

/-- A query reads a stored table or a join of two stored tables. -/
theorem reads_source {query : Query} {table : Table} (done : database.source query = .ok table) :
    database.Reads table := by
  obtain ⟨base, found, joining⟩ := bind_eq_ok.mp done
  have first := Catalog.mem_of_find? (table_ok.mp found)
  cases clause : query.join with
  | none =>
      rw [clause] at joining
      cases joining
      exact .stored first
  | some other =>
      rw [clause] at joining
      obtain ⟨other, stored, naming⟩ := bind_eq_ok.mp joining
      obtain ⟨names, _, joined⟩ := bind_eq_ok.mp naming
      exact .joined first (Catalog.mem_of_find? (table_ok.mp stored)) joined

/-- Whatever a query reads is shaped, a join of two tables included. -/
theorem shaped_reads (all : database.All Table.Shaped) {table : Table}
    (reads : database.Reads table) : table.Shaped := by
  cases reads with
  | stored present => exact all table present
  | joined left right done => exact Table.shaped_join (all _ left) (all _ right) done

/-- A query on shaped tables looks at no value that is not there. -/
theorem selectGuarded_eq (all : database.All Table.Shaped) (query : Query) :
    database.selectGuarded query = sure (database.select query) := by
  rw [selectGuarded, sourceGuarded_eq all]
  apply bind_sure
  intro table done
  exact Table.selectGuarded_eq (shaped_reads all (reads_source done)) _ _

/-- A statement on shaped tables does not give up. -/
theorem runGuarded_eq (all : database.All Table.Shaped) (statement : Statement) :
    database.runGuarded statement = sure (database.run statement) := by
  cases statement with
  | create declaration => exact createGuarded_eq database declaration
  | drop table => rfl
  | insert insertion =>
      apply changeTableGuarded_eq all
      intro table shaped
      rw [Table.addRowGuarded_eq shaped]
      apply bind_sure
      intro changed _
      rfl
  | select query =>
      rw [runGuarded, selectGuarded_eq all]
      apply bind_sure
      intro result _
      rfl
  | delete deletion =>
      apply changeTableGuarded_eq all
      intro table shaped
      rw [Table.deleteGuarded_eq shaped]
      apply bind_sure
      intro changed _
      rfl
  | update change =>
      apply changeTableGuarded_eq all
      intro table shaped
      rw [Table.updateGuarded_eq shaped]
      apply bind_sure
      intro changed _
      rfl

/-- In a store that began empty, every position that is found for a table that queries read lies in
all of its rows. No text makes the lexer, the parser or a statement reach for a position that is not
there. -/
theorem stays_inside (name : String) (precedences : Precedences) (requests : List Request)
    (text : String) :
    let database := (fresh name precedences).serveAll requests
    (∀ table, database.Reads table → table.Covered) ∧
      database.executeGuarded text = sure (database.execute text) := by
  intro database
  have all : database.All Table.Shaped := fun table present =>
    (serveAll_all (all_fresh name precedences) requests table present).shaped
  refine ⟨fun table reads => (shaped_reads all reads).covered, ?_⟩
  rw [executeGuarded, parseGuarded_eq]
  apply bind_sure
  intro statement _
  exact runGuarded_eq all statement

end Database

end TableStore
