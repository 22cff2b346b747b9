/-
This file runs statements on a store of tables.
-/

import TableStore.Archive.Reader
import TableStore.Catalog
import TableStore.Join
import TableStore.Outcome
import TableStore.Script
import TableStore.Statement.Grammar
import TableStore.Table.Change

namespace TableStore

/-- A store has a name, the precedences of its conditions, and its tables. -/
structure Database where
  name : String
  precedences : Precedences
  catalog : Catalog

namespace Database

def standardName : String := "DataBase"

def fresh (name : String) (precedences : Precedences) : Database :=
  ⟨name, precedences, .empty⟩

/-- A table that must exist. -/
def table (database : Database) (name : String) : Except Fault Table :=
  match database.catalog.find? name with
  | some table => .ok table
  | none => .error (.logic (.unknownTable name))

def putTable (database : Database) (table : Table) : Database :=
  { database with catalog := database.catalog.put table }

/-- A table that must exist is replaced by its changed version. -/
def changeTable {α : Type} (database : Database) (name : String)
    (change : Table → Except Fault (α × Table)) : Except Fault (α × Database) := do
  let (result, changed) ← change (← database.table name)
  return (result, database.putTable changed)

/-- A reference gives its column a foreign key to a column of the same kind. -/
def addReference (database : Database) (table : Table) (reference : Reference) :
    Except Fault Table := do
  match table.schema.indexOf? reference.column with
  | none => throw (.logic (.undeclaredReference reference.column))
  | some position =>
      let referenced ← database.table reference.table
      let target ← referenced.schema.resolve reference.target
      match table.schema.columns[position]?, referenced.schema.columns[target]? with
      | some own, some other =>
          if !own.type.sameKind other.type then
            throw (.logic (.referenceKind reference own.type other.type))
          let key : ForeignKey := ⟨reference.table, target⟩
          return { table with
            schema := table.schema.modify position fun column =>
              { column with foreignKey := some key } }
      | _, _ => return table

def create (database : Database) (declaration : TableDeclaration) :
    Except Fault (Outcome × Database) := do
  if (database.catalog.find? declaration.name).isSome then
    throw (.logic (.tableExists declaration.name))
  let table ← Table.declare declaration.name declaration.columns
  let table ← declaration.references.foldlM database.addReference table
  return (.created declaration.name, database.putTable table)

def drop (database : Database) (name : String) : Except Fault (Outcome × Database) :=
  if (database.catalog.find? name).isNone then .error (.logic (.unknownDrop name))
  else
    let catalog := database.catalog.erase name
    .ok (.dropped name catalog.names, { database with catalog := catalog })

def insert (database : Database) (insertion : Insertion) : Except Fault (Outcome × Database) :=
  database.changeTable insertion.table fun table => do
    return (.inserted 1, ← table.addRow insertion.values insertion.columns)

def delete (database : Database) (deletion : Deletion) : Except Fault (Outcome × Database) :=
  database.changeTable deletion.table fun table => do
    let (count, table) ← table.delete deletion.condition
    return (.deleted count, table)

def update (database : Database) (change : Change) : Except Fault (Outcome × Database) :=
  database.changeTable change.table fun table => do
    let (count, table) ← table.update change.assignments change.condition
    return (.updated count, table)

/-- The join clause must name one column of each table, in either order. -/
def joinColumns (clause : JoinClause) (left right : Table) : Except Fault (String × String) :=
  if clause.first.table = left.name ∧ clause.second.table = right.name then
    .ok (clause.first.column, clause.second.column)
  else if clause.second.table = left.name ∧ clause.first.table = right.name then
    .ok (clause.second.column, clause.first.column)
  else .error (.logic (.foreignJoinColumns left.name right.name))

/-- The table that a query reads, joined if it asks for that. -/
def source (database : Database) (query : Query) : Except Fault Table := do
  let base ← database.table query.table
  match query.join with
  | none => return base
  | some clause =>
      let other ← database.table clause.table
      let (leftName, rightName) ← joinColumns clause base other
      base.join clause.kind other leftName rightName

def select (database : Database) (query : Query) : Except Fault ResultSet := do
  let table ← database.source query
  let names := match query.columns with
    | .all => none
    | .only names => some names
  table.select names query.condition

/-- A statement gives its outcome and the changed store. -/
def run (database : Database) : Statement → Except Fault (Outcome × Database)
  | .create declaration => database.create declaration
  | .drop table => database.drop table
  | .insert insertion => database.insert insertion
  | .select query => do return (.rows (← database.select query), database)
  | .delete deletion => database.delete deletion
  | .update change => database.update change

/-- A statement is read from its text. -/
def parse (database : Database) (text : String) : Except Fault Statement :=
  (Statement.ofText database.precedences text).mapError .grammar

/-- The text of one statement is run. -/
def execute (database : Database) (text : String) : Except Fault (Outcome × Database) := do
  database.run (← database.parse text)

/-- The text of one query is run, and the store stays. -/
def query (database : Database) (text : String) : Except Fault ResultSet := do
  match ← database.parse text with
  | .select query => database.select query
  | other => throw (.logic (.notQuery other))

/-- A failed statement leaves the store as it was. -/
def attempt (database : Database) (text : String) : Except Fault Outcome × Database :=
  match database.execute text with
  | .ok (outcome, changed) => (.ok outcome, changed)
  | .error cause => (.error cause, database)

/-- Statements run one after the other, also after a failure. -/
def runAll (database : Database) : List String → List (Except Fault Outcome) × Database
  | [] => ([], database)
  | text :: rest =>
      let (result, changed) := database.attempt text
      let (results, final) := changed.runAll rest
      (result :: results, final)

def runScript (database : Database) (script : String) :
    List (Except Fault Outcome) × Database :=
  database.runAll (Script.statements script)

/-- The file that stores the tables in the order of their names. -/
def save (database : Database) : Except Fault String :=
  Archive.write database.name database.catalog.tables

/-- A file replaces the name and all tables. -/
def load (database : Database) (content : Option ByteArray) : Except FileFault Database := do
  let (name, tables) ← Archive.read content
  return { database with name := name, catalog := .ofList tables }

end Database

end TableStore
