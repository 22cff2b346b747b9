/-
This file says that qualified names change nothing.
A statement on one table does the same when the name of the table stands in front of any of the
columns that it names.
-/

import TableStore.Proofs.Database.Addressing
import TableStore.Proofs.Database.Independence
import TableStore.Proofs.Table.Qualifying

namespace TableStore

/-- A name of a table without a point cannot be cut when a column follows it. -/
def Table.PlainName (table : Table) : Prop := '.' ∉ table.name.toList

/-- Changes keep the name of a table. -/
theorem Table.PlainName.widened {table changed : Table} (plain : table.PlainName)
    (widens : table.Widens changed) : changed.PlainName := by
  rw [PlainName, widens.name]
  exact plain

/-- Any of the projected names may be qualified. -/
inductive Projection.Qualified (table : String) : Projection → Projection → Prop where
  | all : Qualified table .all .all
  | only {names others : List String} :
      List.Forall₂ (TableStore.Qualified table) names others →
      Qualified table (.only names) (.only others)

/-- Any columns may be qualified that a statement on one table names. Where the table does not
exist, nothing is known of what the statement names. -/
inductive Statement.Qualifies (database : Database) (name : String) : Statement → Statement → Prop
    where
  | select {columns others : Projection} {condition other : Condition} :
      columns.Qualified name others →
      (∀ table, database.catalog.find? name = some table → condition.Qualifies table other) →
      Qualifies database name (.select ⟨columns, name, none, condition⟩)
        (.select ⟨others, name, none, other⟩)
  | delete {condition other : Condition} :
      (∀ table, database.catalog.find? name = some table → condition.Qualifies table other) →
      Qualifies database name (.delete ⟨name, condition⟩) (.delete ⟨name, other⟩)
  | update {assignments others : List (String × String)} {condition other : Condition} :
      List.Forall₂ (AssignmentQualified name) assignments others →
      (∀ table, database.catalog.find? name = some table → condition.Qualifies table other) →
      Qualifies database name (.update ⟨name, assignments, condition⟩)
        (.update ⟨name, others, other⟩)

namespace Database

/-- Statements and typed rows bring no name with a point. -/
theorem changes_plainName : Changes Table.PlainName where
  created database text declaration declared table read fresh referred :=
    (keeps_regular.created database text declaration declared table read fresh referred).name.noPoint
  inserted _ _ _ _ added plain := plain.widened (Table.addRow_widens added)
  deleted _ _ _ _ removed plain := plain.widened (Table.delete_widens removed)
  updated _ _ _ _ _ assigned plain := plain.widened (Table.update_widens assigned)
  stored _ _ _ stored plain := plain.widened (Table.insert_widens stored)

/-- All tables own their columns when the files that are loaded bring plain names only. -/
theorem owns_of_served {name : String} {precedences : Precedences} {requests : List Request}
    (plain : ∀ request ∈ requests, request.Loads Table.PlainName) :
    ((fresh name precedences).serveAll requests).All Table.Owns := by
  intro table present
  refine ⟨?_, ?_⟩
  · exact (serveAll_all (all_fresh name precedences) requests table present).owned
  · exact changes_plainName.serveAll (all_fresh name precedences) plain table present

/-- A change answers as another one if it does so on the table that the name finds. -/
theorem changeTable_answers {α : Type} {database : Database} {name : String}
    {change other : Table → Except Fault (α × Table)}
    (answers : ∀ table, database.catalog.find? name = some table →
      Answers name (change table) (other table)) :
    Answers name (database.changeTable name change) (database.changeTable name other) := by
  rw [changeTable, changeTable, table]
  cases found : database.catalog.find? name with
  | none => exact .refl _
  | some table => exact (answers table found).bind fun changed => .refl _

/-- Statements that differ in qualified names have the same result or fail alike. -/
theorem run_answers {database : Database} (owns : database.All Table.Owns) {name : String}
    {statement other : Statement} (qualifies : statement.Qualifies database name other) :
    Answers name (database.run statement) (database.run other) := by
  cases qualifies with
  | select projected conditions =>
      rw [run_select rfl, run_select rfl]
      refine changeTable_answers fun table found => ?_
      obtain rfl := Catalog.name_of_find? found
      have condition := conditions table found
      cases projected with
      | all => exact ((owns.find found).select_answers .none condition).bind fun result => .refl _
      | only each =>
          exact ((owns.find found).select_answers (.some each) condition).bind
            fun result => .refl _
  | delete conditions =>
      refine changeTable_answers fun table found => ?_
      rw [(owns.find found).delete_qualifies (conditions table found)]
      exact .refl _
  | update assigned conditions =>
      refine changeTable_answers fun table found => ?_
      obtain rfl := Catalog.name_of_find? found
      exact ((owns.find found).update_answers assigned (conditions table found)).bind
        fun result => .refl _

/-- Texts of such statements have the same outcome and leave the same store. -/
theorem attempt_answers {database : Database} {name text otherText : String}
    {statement other : Statement} (read : database.parse text = .ok statement)
    (readOther : database.parse otherText = .ok other)
    (answers : Answers name (database.run statement) (database.run other)) :
    Answers name (database.attempt text).1 (database.attempt otherText).1 ∧
      (database.attempt otherText).2 = (database.attempt text).2 := by
  rw [attempt, attempt, execute, execute, read, readOther, ok_bind, ok_bind]
  generalize database.run statement = first at answers
  generalize database.run other = second at answers
  cases answers with
  | ok result => exact ⟨.refl _, rfl⟩
  | error qualified => exact ⟨.error qualified, rfl⟩

/-- In a store that began empty, a statement on one table gives the same result and the same final
store, or fails with an error of the same kind and leaves the store, when any of the columns that
it names are qualified. Only a file may bring a table to the store that has a point in its name. -/
theorem qualified_answers (name : String) (precedences : Precedences) {requests : List Request}
    (plain : ∀ request ∈ requests, request.Loads Table.PlainName) {table : String}
    {statement other : Statement}
    (qualifies : statement.Qualifies ((fresh name precedences).serveAll requests) table other) :
    let database := (fresh name precedences).serveAll requests
    Answers table (database.run statement) (database.run other) ∧
      ∀ text otherText, database.parse text = .ok statement →
        database.parse otherText = .ok other →
        Answers table (database.attempt text).1 (database.attempt otherText).1 ∧
          (database.attempt otherText).2 = (database.attempt text).2 := by
  intro database
  have answers := run_answers (owns_of_served plain) qualifies
  exact ⟨answers, fun text otherText read readOther => attempt_answers read readOther answers⟩

/-- The assigned column and the column of the condition are qualified. -/
theorem qualified_answers_update :
    let requests : List Request := [.statement "CREATE TABLE t (a INT, b INT);",
      .statement "INSERT INTO t VALUES (1, 2);"]
    let database := (fresh "D" .standard).serveAll requests
    let text := "UPDATE t SET b = 3 WHERE a = 1;"
    let qualified := "UPDATE t SET t.b = 3 WHERE t.a = 1;"
    (∀ request ∈ requests, request.Loads Table.PlainName) ∧
      (database.attempt text).1 = .ok (.updated 1) ∧
      (database.attempt qualified).1 = .ok (.updated 1) ∧
      (database.attempt qualified).2 = (database.attempt text).2 := by
  intro requests database text qualified
  let condition (name : String) : Condition :=
    ⟨[.leaf (.compare ⟨name, false⟩ .equal ⟨"1", false⟩)], rfl⟩
  let column (name : String) : Column := ⟨name, "t", .int, false, 4, none⟩
  have plain : ∀ request ∈ requests, request.Loads Table.PlainName := by
    simp [requests, Request.Loads]
  have stored : database.catalog.find? "t" =
      some ⟨"t", ⟨[column "a", column "b"]⟩, some 0, [[.int 1, .int 2]]⟩ := by decide +kernel
  have read : database.parse text = .ok (.update ⟨"t", [("b", "3")], condition "a"⟩) := by
    decide +kernel
  have readOther : database.parse qualified =
      .ok (.update ⟨"t", [("t.b", "3")], condition "t.a"⟩) := by decide +kernel
  have qualifies : Statement.Qualifies database "t" (.update ⟨"t", [("b", "3")], condition "a"⟩)
      (.update ⟨"t", [("t.b", "3")], condition "t.a"⟩) := by
    refine .update (.cons ⟨.inr ⟨by decide, rfl⟩, rfl⟩ .nil) fun table found => ?_
    obtain rfl := Option.some.inj (found.symm.trans stored)
    refine .cons (.leaf (.compare .equal ⟨rfl, .inr ⟨by decide, rfl⟩, ?_⟩ ?_)) .nil
    · decide +kernel
    · exact ⟨rfl, .inl rfl, fun _ => rfl⟩
  have changed : (database.attempt text).1 = .ok (.updated 1) := by decide +kernel
  obtain ⟨answers, same⟩ :=
    (qualified_answers "D" .standard plain qualifies).2 text qualified read readOther
  change Answers "t" (database.attempt text).1 (database.attempt qualified).1 at answers
  rw [changed] at answers
  exact ⟨plain, changed, answers.eq_of_ok, same⟩

end Database

end TableStore
