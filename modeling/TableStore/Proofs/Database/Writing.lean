/-
This file runs statements on the store in place, and compares whole scripts with their statements
that succeed and change something. Statements that fail and queries leave no trace.
-/

import TableStore.Catalog.Lookup
import TableStore.Proofs.Database.Run
import TableStore.Proofs.Table.Writing

namespace TableStore

namespace Database

variable {α : Type}

/-- A table is changed where it is stored, also when the change fails. -/
def onTable (name : String) (change : Writing Fault Table α) : Writing Fault Database α := do
  let table ← Writing.check ((← get).table name)
  let (result, changed) := change.perform table
  modify (·.putTable changed)
  Writing.check result

/-- A new table is put together completely before it is stored. -/
def writeCreate (declaration : TableDeclaration) : Writing Fault Database Outcome := do
  let database ← get
  if (database.catalog.find? declaration.name).isSome then
    throw (.logic (.tableExists declaration.name))
  let table ← Writing.check (Table.declare declaration.name declaration.columns)
  let table ← Writing.check (declaration.references.foldlM database.addReference table)
  modify (·.putTable table)
  return .created declaration.name

/-- The table is removed first, and then it is known whether it was there. -/
def writeDrop (name : String) : Writing Fault Database Outcome := do
  let database ← get
  modify fun database => { database with catalog := database.catalog.erase name }
  if (database.catalog.find? name).isNone then
    throw (.logic (.unknownDrop name))
  return .dropped name (← get).catalog.names

def writeInsert (insertion : Insertion) : Writing Fault Database Outcome :=
  onTable insertion.table do
    Table.writeLiterals insertion.values insertion.columns
    return .inserted 1

/-- A statement is run in place. -/
def write : Statement → Writing Fault Database Outcome
  | .create declaration => writeCreate declaration
  | .drop name => writeDrop name
  | .insert insertion => writeInsert insertion
  | .select query => do return .rows (← Writing.check ((← get).select query))
  | .delete deletion => onTable deletion.table do
      return .deleted (← Table.writeDelete deletion.condition)
  | .update change => onTable change.table do
      return .updated (← Table.writeUpdate change.assignments change.condition)

/-- The text of one statement is run in place. -/
def writeText (text : String) : Writing Fault Database Outcome := do
  write (← Writing.check ((← get).parse text))

/-- Statements are run in place one after the other, also after a failure. -/
def writeAll (texts : List String) : StateM Database (List (Except Fault Outcome)) :=
  texts.mapM fun text => (writeText text).run

/-- The content of a file is read completely before the name and the tables are replaced. -/
def writeLoad (content : Option ByteArray) : Writing FileFault Database Unit := do
  let (name, tables) ← Writing.check (Archive.read content)
  modify fun database => { database with name := name }
  modify fun database => { database with catalog := .ofList tables }

/-- A change that fails leaves its table, and so the store, as it was. -/
theorem perform_onTable {change : Writing Fault Table α} {result : Table → Except Fault (α × Table)}
    (settled : ∀ table, change.perform table = Writing.settle table (result table))
    (name : String) (database : Database) :
    (onTable name change).perform database =
      Writing.settle database (database.changeTable name result) := by
  unfold onTable changeTable
  rw [Writing.perform_get_bind]
  apply Writing.settle_check
  intro table found
  have stored : database.putTable table = database := by
    rw [putTable, Catalog.put_self (table_ok.mp found)]
  rw [settled]
  cases result table with
  | ok changed => rfl
  | error cause =>
      -- The table is stored again as it was read.
      rw [Writing.perform_modify_bind]
      simp only [Writing.settle, Writing.perform_check, stored]
      rfl

/-- Creating a table in place is creating it, with the store left alone on failure. -/
theorem perform_writeCreate (declaration : TableDeclaration) (database : Database) :
    (writeCreate declaration).perform database =
      Writing.settle database (database.create declaration) := by
  unfold writeCreate create
  rw [Writing.perform_get_bind]
  by_cases taken : (database.catalog.find? declaration.name).isSome = true
  · rw [if_pos taken, if_pos taken]
    rfl
  · rw [if_neg taken, if_neg taken]
    apply Writing.settle_check
    intro declared _
    apply Writing.settle_check
    intro table _
    rfl

/-- Dropping a table in place is dropping it, since there was nothing to remove on failure. -/
theorem perform_writeDrop (name : String) (database : Database) :
    (writeDrop name).perform database = Writing.settle database (database.drop name) := by
  unfold writeDrop drop
  rw [Writing.perform_get_bind, Writing.perform_modify_bind]
  by_cases missing : (database.catalog.find? name).isNone = true
  -- The table is removed before the failure, which changes nothing only because it is not there.
  · have same := Catalog.erase_of_none (Option.isNone_iff_eq_none.mp missing)
    rw [if_pos missing, if_pos missing, same]
    rfl
  · rw [if_neg missing, if_neg missing]
    rfl

/-- An insertion in place that fails leaves the table as it was. -/
theorem perform_writeInsert (insertion : Insertion) (database : Database) :
    (writeInsert insertion).perform database =
      Writing.settle database (database.insert insertion) := by
  apply perform_onTable
  intro table
  rw [Writing.perform_bind, Table.perform_writeLiterals]
  cases table.addRow insertion.values insertion.columns with
  | ok changed => rfl
  | error cause => rfl

/-- Every statement changes the store only after all of its checks. -/
theorem perform_write (statement : Statement) (database : Database) :
    (write statement).perform database = Writing.settle database (database.run statement) := by
  cases statement with
  | create declaration => exact perform_writeCreate declaration database
  | drop name => exact perform_writeDrop name database
  | insert insertion =>
      exact perform_writeInsert insertion database
  | select query =>
      change (get >>= _ : Writing Fault Database Outcome).perform database = _
      rw [Writing.perform_get_bind]
      apply Writing.settle_check
      intro result _
      rfl
  | delete deletion =>
      exact perform_onTable (fun table =>
        Writing.settle_map (Table.perform_writeDelete _ table) Outcome.deleted) _ database
  | update change =>
      exact perform_onTable (fun table =>
        Writing.settle_map (Table.perform_writeUpdate _ _ table) Outcome.updated) _ database

/-- Running a text in place is attempting it on the store. -/
theorem perform_writeText (text : String) (database : Database) :
    (writeText text).perform database = database.attempt text := by
  have settled : (writeText text).perform database =
      Writing.settle database (database.execute text) := by
    unfold writeText execute
    rw [Writing.perform_get_bind]
    apply Writing.settle_check
    intro statement _
    exact perform_write statement database
  rw [settled, attempt]
  cases database.execute text with
  | ok changed => rfl
  | error cause => rfl

/-- Running a list of statements in place gives the same results and the same store. -/
theorem run_writeAll (texts : List String) (database : Database) :
    (writeAll texts).run database = database.runAll texts := by
  induction texts generalizing database with
  | nil => rfl
  | cons text rest ih =>
      have first : (writeText text).run.run database = database.attempt text :=
        perform_writeText text database
      rw [writeAll, List.mapM_cons, StateT.run_bind, first, runAll]
      rcases database.attempt text with ⟨result, changed⟩
      show StateT.run (do return result :: (← writeAll rest)) changed = _
      rw [StateT.run_bind, ih]
      rfl

/-- Loading in place is loading, since the file is read before anything is replaced. -/
theorem perform_writeLoad (content : Option ByteArray) (database : Database) :
    (writeLoad content).perform database =
      Writing.settle database (do return ((), ← database.load content)) := by
  unfold writeLoad load
  simp only [bind_assoc]
  apply Writing.settle_check
  intro store _
  rfl

/-- The text asks a question. -/
def isQuery (database : Database) (text : String) : Bool :=
  match database.parse text with
  | .ok (.select _) => true
  | _ => false

/-- The texts of a run that succeed and are no queries, with their results. -/
def effective (database : Database) (texts : List String) :
    List (String × Except Fault Outcome) :=
  (texts.zip (database.runAll texts).1).filter fun entry =>
    entry.2.isOk && !database.isQuery entry.1

/-- No statement changes the precedences. -/
theorem precedences_step {database next : Database} {statement : Statement}
    (step : database.Step statement next) : next.precedences = database.precedences := by
  cases step with
  | create => rfl
  | drop => rfl
  | insert => rfl
  | select => rfl
  | delete => rfl
  | update => rfl

/-- The same texts ask questions after a statement. -/
theorem isQuery_attempt (database : Database) (text other : String) :
    (database.attempt text).2.isQuery other = database.isQuery other := by
  have same : (database.attempt text).2.precedences = database.precedences := by
    rcases database.attempt_cases text with same | ⟨statement, _, step⟩
    · rw [same]
    · exact precedences_step step
  unfold isQuery parse
  rw [same]

/-- A text that fails or asks a question leaves the store as it was. -/
theorem attempt_idle {database : Database} {text : String}
    (idle : ¬ ((database.attempt text).1.isOk && !database.isQuery text) = true) :
    (database.attempt text).2 = database := by
  unfold attempt at idle ⊢
  split
  · rename_i outcome changed success
    obtain ⟨statement, read, done⟩ := bind_eq_ok.mp success
    have asks : database.isQuery text = true := by
      simpa [success, Except.isOk, Except.toBool] using idle
    unfold isQuery at asks
    rw [read] at asks
    cases run_ok done with
    | select => rfl
    | _ => cases asks
  · rfl

/-- The other statements run on the store that the first one leaves. -/
theorem runAll_cons (database : Database) (text : String) (rest : List String) :
    database.runAll (text :: rest) =
      ((database.attempt text).1 :: ((database.attempt text).2.runAll rest).1,
        ((database.attempt text).2.runAll rest).2) := rfl

/-- The texts that succeed and change something have the same effect as all texts together. -/
theorem runAll_effective (database : Database) (texts : List String) :
    database.runAll ((database.effective texts).map Prod.fst) =
      ((database.effective texts).map Prod.snd, (database.runAll texts).2) := by
  induction texts generalizing database with
  | nil => rfl
  | cons text rest ih =>
      have later := ih (database.attempt text).2
      have whole : database.effective (text :: rest) =
          if (database.attempt text).1.isOk && !database.isQuery text then
            (text, (database.attempt text).1) :: (database.attempt text).2.effective rest
          else (database.attempt text).2.effective rest := by
        simp only [effective, isQuery_attempt, runAll_cons, List.zip_cons_cons, List.filter_cons]
      rw [whole, runAll_cons]
      split
      · rw [List.map_cons, runAll_cons, later]
        rfl
      · rename_i idle
        rw [attempt_idle idle] at later ⊢
        exact later

/-- Statements that fail and queries leave no trace, and a file that cannot be loaded leaves none.
Nothing that is written in place has to be taken back for it. -/
theorem failures_leave_no_trace (database : Database) (script : String)
    (content : Option ByteArray) :
    let texts := Script.statements script
    (writeAll texts).run database = database.runScript script ∧
      (writeAll ((database.effective texts).map Prod.fst)).run database =
        ((database.effective texts).map Prod.snd, (database.runScript script).2) ∧
      ∀ cause, ((writeLoad content).perform database).1 = .error cause →
        ((writeLoad content).perform database).2 = database := by
  refine ⟨run_writeAll _ _, ?_, ?_⟩
  · rw [run_writeAll]
    exact runAll_effective database _
  · intro cause
    rw [perform_writeLoad]
    cases database.load content with
    | ok loaded => intro failed; cases failed
    | error other => intro _; rfl

end Database

end TableStore
