/-
This file proves the data model of the store over whole runs.
Statements, scripts, files and direct changes of tables keep every table sound, in any order and
whether they succeed or fail.
-/

import TableStore.Proofs.Archive.Loading
import TableStore.Proofs.Database.Run
import TableStore.Proofs.Table.Change
import TableStore.Proofs.Table.Declaration

namespace TableStore

/-- A request to the store. Statements and scripts are texts, a file is its content if it exists,
and the other requests change one of the tables directly. -/
inductive Request where
  | statement (text : String)
  | script (text : String)
  | load (content : Option ByteArray)
  | addRow (table : String) (values : List String) (names : Option (List String))
  | insert (table : String) (row : Row)
  | delete (table : String) (condition : Condition)
  | update (table : String) (assignments : List (String × String)) (condition : Condition)

/-- The file that a request loads holds tables with the property only, if it can be read at all. -/
def Request.Loads (Good : Table → Prop) : Request → Prop
  | .load content => ∀ name tables, Archive.read content = .ok (name, tables) →
      ∀ table ∈ tables, Good table
  | _ => True

namespace Database

/-- The store after a change of one table. A failed change leaves the store as it was. -/
def changed {α : Type} (database : Database) (name : String)
    (change : Table → Except Fault (α × Table)) : Database :=
  match database.changeTable name change with
  | .ok (_, next) => next
  | .error _ => database

/-- The store after a file is loaded. A file that cannot be read leaves the store as it was. -/
def loaded (database : Database) (content : Option ByteArray) : Database :=
  match database.load content with
  | .ok next => next
  | .error _ => database

/-- The store after one request. -/
def serve (database : Database) : Request → Database
  | .statement text => (database.attempt text).2
  | .script text => (database.runScript text).2
  | .load content => database.loaded content
  | .addRow table values names => database.changed table fun stored => do
      return ((), ← stored.addRow values names)
  | .insert table row => database.changed table fun stored => do
      return ((), ← stored.insert row)
  | .delete table condition => database.changed table (·.delete condition)
  | .update table assignments condition => database.changed table (·.update assignments condition)

/-- The store after a list of requests. -/
def serveAll (database : Database) (requests : List Request) : Database :=
  requests.foldl serve database

/-- Every table is stored under its own name and is sound. -/
def Sound (database : Database) : Prop :=
  ∀ name table, database.catalog.find? name = some table → table.name = name ∧ table.Sound

/-- A table is stored under its own name, so sound tables make a sound store. -/
theorem sound_of_all {database : Database} (all : database.All Table.Sound) : database.Sound :=
  fun _ table found => ⟨Catalog.name_of_find? found, all table (Catalog.mem_of_find? found)⟩

/-- A reference in an empty table keeps it sound. -/
theorem referring_sound {table : Table} (sound : table.Sound) (empty : table.rows = [])
    (position : Nat) (key : ForeignKey) : (table.referring position key).Sound := by
  have owned := @forall_referring _ key (fun _ owned => owned) table sound.owned position
  refine Table.Sound.of_empty owned ?_ empty
  intro other keyed
  exact Nat.lt_of_lt_of_eq (sound.keyed other keyed) (Schema.size_modify _ _ _).symm

/-- Statements keep every table sound. -/
theorem keeps_sound : Keeps Table.Sound where
  created database text declaration declared table read fresh referred := by
    refine references_keep ?_ referred (Table.rows_of_declare fresh) (Table.declare_sound fresh)
    intro other empty sound reference _ position target
    exact referring_sound sound empty position _
  inserted table changed values names added sound := by
    obtain ⟨row, _, stored⟩ := Table.addRow_ok added
    exact Table.insert_sound sound stored
  deleted table changed condition count removed sound := Table.delete_sound sound removed
  updated table changed assignments condition count assigned sound :=
    Table.update_sound sound assigned

/-- A change that fails keeps all tables, and one that succeeds keeps them good. -/
theorem all_changed {Good : Table → Prop} {α : Type} {database : Database} {name : String}
    {change : Table → Except Fault (α × Table)} (all : database.All Good)
    (kept : ∀ table result changed, change table = .ok (result, changed) → Good table →
      Good changed) : (database.changed name change).All Good := by
  unfold changed
  split
  · rename_i result next done
    obtain ⟨table, changed, found, success, rfl⟩ := changeTable_ok.mp done
    exact all_putTable all (kept table result changed success (all.find found))
  · exact all

/-- Good tables stay good whatever they replace. -/
theorem all_ofList {Good : Table → Prop} {tables : List Table} {catalog : Catalog}
    (good : ∀ table ∈ tables, Good table) (stored : ∀ table ∈ catalog.tables, Good table) :
    ∀ table ∈ (tables.foldl Catalog.put catalog).tables, Good table := by
  induction tables generalizing catalog with
  | nil => exact stored
  | cons first rest ih =>
      rw [List.forall_mem_cons] at good
      apply ih good.2
      intro table present
      rcases Catalog.mem_putIn present with rfl | old
      · exact good.1
      · exact stored table old

/-- A property of tables outlasts changes when statements and typed rows keep it. -/
structure Changes (Good : Table → Prop) : Prop extends Keeps Good where
  stored : ∀ (table changed : Table) row,
    table.insert row = .ok changed → Good table → Good changed

/-- A file that is loaded replaces all tables, and brings nothing but its own. -/
theorem all_loaded {Good : Table → Prop} {database : Database} (all : database.All Good)
    {content : Option ByteArray}
    (loads : ∀ name tables, Archive.read content = .ok (name, tables) →
      ∀ table ∈ tables, Good table) : (database.loaded content).All Good := by
  unfold loaded
  split
  · rename_i next done
    obtain ⟨⟨name, tables⟩, read, last⟩ := bind_eq_ok.mp done
    cases last
    exact all_ofList (loads name tables read) (by simp [Catalog.empty])
  · exact all

/-- One request keeps the property when it loads no table without it. -/
theorem Changes.serve {Good : Table → Prop} (changes : Changes Good) {database : Database}
    (all : database.All Good) {request : Request} (loads : request.Loads Good) :
    (database.serve request).All Good := by
  cases request with
  | statement text => exact changes.attempt text all
  | script text => exact changes.runAll _ all
  | load content => exact all_loaded all loads
  | addRow name values names =>
      apply all_changed all
      intro table result changed success good
      obtain ⟨other, added, last⟩ := bind_eq_ok.mp success
      cases last
      exact changes.inserted table changed values names added good
  | insert name row =>
      apply all_changed all
      intro table result changed success good
      obtain ⟨other, stored, last⟩ := bind_eq_ok.mp success
      cases last
      exact changes.stored table changed row stored good
  | delete name condition =>
      apply all_changed all
      intro table count changed removed good
      exact changes.deleted table changed condition count removed good
  | update name assignments condition =>
      apply all_changed all
      intro table count changed assigned good
      exact changes.updated table changed assignments condition count assigned good

/-- Requests in any order keep the property when none of them loads a table without it. -/
theorem Changes.serveAll {Good : Table → Prop} (changes : Changes Good) {database : Database}
    (all : database.All Good) {requests : List Request}
    (loads : ∀ request ∈ requests, request.Loads Good) :
    (database.serveAll requests).All Good := by
  induction requests generalizing database with
  | nil => exact all
  | cons request rest ih =>
      rw [List.forall_mem_cons] at loads
      exact ih (changes.serve all loads.1) loads.2

/-- A property of tables outlasts requests when changes keep it and every table of a file has
it. -/
structure Serves (Good : Table → Prop) : Prop extends Changes Good where
  read : ∀ content name tables,
    Archive.read content = .ok (name, tables) → ∀ table ∈ tables, Good table

/-- A property that every file brings is brought by any request. -/
theorem Serves.loads {Good : Table → Prop} (serves : Serves Good) (request : Request) :
    request.Loads Good := by
  cases request with
  | load content => exact serves.read content
  | _ => trivial

/-- Any requests in any order keep the property. -/
theorem Serves.serveAll {Good : Table → Prop} (serves : Serves Good) {database : Database}
    (all : database.All Good) (requests : List Request) :
    (database.serveAll requests).All Good :=
  serves.toChanges.serveAll all fun request _ => serves.loads request

/-- Requests keep every table sound. -/
theorem serves_sound : Serves Table.Sound where
  toKeeps := keeps_sound
  stored _ _ _ stored sound := Table.insert_sound sound stored
  read _ _ _ done := Archive.read_sound done

theorem serveAll_all {database : Database} (all : database.All Table.Sound)
    (requests : List Request) : (database.serveAll requests).All Table.Sound :=
  serves_sound.serveAll all requests

/-- A store that begins empty is sound after any requests in any order. -/
theorem reachable_sound (name : String) (precedences : Precedences) (requests : List Request) :
    ((fresh name precedences).serveAll requests).Sound :=
  sound_of_all (serveAll_all (all_fresh name precedences) requests)

end Database

end TableStore
