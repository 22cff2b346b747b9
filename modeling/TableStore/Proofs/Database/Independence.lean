/-
This file says that statements on different tables do not interfere.
What such a statement gives and stores is known from its own table, so two of them may change
places.
-/

import TableStore.Catalog.Lookup
import TableStore.Proofs.Database.Run
import TableStore.Proofs.Table.Alignment

namespace TableStore

/-- The table of a statement that reads and changes no other table. -/
def Statement.sole? : Statement → Option String
  | .insert insertion => some insertion.table
  | .delete deletion => some deletion.table
  | .update change => some change.table
  | .select query => if query.join.isNone then some query.table else none
  | .create _ => none
  | .drop _ => none

namespace Database

/-- A store after one of its tables may have been replaced. -/
def store (database : Database) (replacement : Option Table) : Database :=
  replacement.elim database database.putTable

/-- What a change gives for the table that a name finds, and the table that takes its place. -/
def effect {α : Type} (name : String) (change : Table → Except Fault (α × Table)) :
    Option Table → Except Fault α × Option Table
  | none => (.error (.logic (.unknownTable name)), none)
  | some table =>
      match change table with
      | .ok (result, changed) => (.ok result, some changed)
      | .error cause => (.error cause, none)

/-- A statement changes one table at most, and leaves it its name. -/
structure Local (name : String) (statement : Statement)
    (change : Table → Except Fault (Outcome × Table)) : Prop where
  run : ∀ database : Database, database.run statement = database.changeTable name change
  name : ∀ table outcome changed, change table = .ok (outcome, changed) → changed.name = table.name

/-- A query stores its table again as it is. -/
theorem run_select {query : Query} (alone : query.join = none) (database : Database) :
    database.run (.select query) = database.changeTable query.table fun table => do
      let names := match query.columns with
        | .all => none
        | .only names => some names
      return (.rows (← table.select names query.condition), table) := by
  obtain ⟨columns, name, join, condition⟩ := query
  obtain rfl : join = none := alone
  unfold changeTable run select source
  simp only [bind_assoc, pure_eq_ok, ok_bind]
  cases found : database.table name with
  | error cause => rfl
  | ok table =>
      have stored : database.putTable table = database := by
        rw [putTable, Catalog.put_self (table_ok.mp found)]
      cases columns with
      | all => simp only [ok_bind, stored]
      | only names => simp only [ok_bind, stored]

/-- Every statement on one table is a change of that table. -/
theorem local_of_sole {statement : Statement} {name : String}
    (sole : statement.sole? = some name) : ∃ change, Local name statement change := by
  cases statement with
  | create | drop => cases sole
  | insert insertion =>
      cases sole
      refine ⟨_, fun database => rfl, ?_⟩
      intro table outcome changed done
      obtain ⟨other, added, last⟩ := bind_eq_ok.mp done
      cases last
      exact (Table.addRow_widens added).name
  | delete deletion =>
      cases sole
      refine ⟨_, fun database => rfl, ?_⟩
      intro table outcome changed done
      obtain ⟨⟨count, other⟩, removed, last⟩ := bind_eq_ok.mp done
      cases last
      exact (Table.delete_widens removed).name
  | update change =>
      cases sole
      refine ⟨_, fun database => rfl, ?_⟩
      intro table outcome changed done
      obtain ⟨⟨count, other⟩, assigned, last⟩ := bind_eq_ok.mp done
      cases last
      exact (Table.update_widens assigned).name
  | select query =>
      simp only [Statement.sole?, Option.ite_none_right_eq_some, Option.isNone_iff_eq_none,
        Option.some.injEq] at sole
      obtain ⟨alone, rfl⟩ := sole
      refine ⟨_, run_select alone, ?_⟩
      intro table outcome changed done
      obtain ⟨result, _, last⟩ := bind_eq_ok.mp done
      cases last
      rfl

/-- The text of a statement on one table gives and stores what follows from that table alone. -/
theorem Local.attempt {name : String} {statement : Statement}
    {change : Table → Except Fault (Outcome × Table)} (only : Local name statement change)
    {database : Database} {text : String} (read : database.parse text = .ok statement) :
    database.attempt text =
      ((effect name change (database.catalog.find? name)).1,
        database.store (effect name change (database.catalog.find? name)).2) := by
  have executed : database.execute text = database.changeTable name change := by
    rw [execute, read, ok_bind, only.run]
  rw [Database.attempt, executed, changeTable, table]
  cases database.catalog.find? name with
  | none => rfl
  | some table =>
      simp only [ok_bind, effect]
      cases change table with
      | ok changed => rfl
      | error cause => rfl

/-- The table that takes the place of another one has its name. -/
theorem Local.named {name : String} {statement : Statement}
    {change : Table → Except Fault (Outcome × Table)} (only : Local name statement change)
    (catalog : Catalog) :
    ∀ changed ∈ (effect name change (catalog.find? name)).2, changed.name = name := by
  intro changed replaced
  cases found : catalog.find? name with
  | none => simp [found, effect] at replaced
  | some table =>
      cases done : change table with
      | error cause => simp [found, effect, done] at replaced
      | ok success =>
          obtain ⟨outcome, other⟩ := success
          obtain rfl : other = changed := by simpa [found, effect, done] using replaced
          rw [only.name table outcome other done, Catalog.name_of_find? found]

/-- Names of other tables find what they found before. -/
theorem find?_store {database : Database} {replacement : Option Table} {name other : String}
    (named : ∀ changed ∈ replacement, changed.name = name) (apart : other ≠ name) :
    (database.store replacement).catalog.find? other = database.catalog.find? other := by
  cases replacement with
  | none => rfl
  | some changed =>
      have different : other ≠ changed.name := by rwa [named changed rfl]
      exact Catalog.find?_put_of_ne _ different

@[simp] theorem name_store (database : Database) (replacement : Option Table) :
    (database.store replacement).name = database.name := by
  cases replacement with
  | none => rfl
  | some changed => rfl

/-- A text is read in the same way whatever tables there are. -/
@[simp] theorem parse_store (database : Database) (replacement : Option Table) (text : String) :
    (database.store replacement).parse text = database.parse text := by
  cases replacement with
  | none => rfl
  | some changed => rfl

/-- Tables with different names may be replaced in either order. -/
theorem store_comm (database : Database) {first second : Option Table}
    (apart : ∀ left ∈ first, ∀ right ∈ second, left.name ≠ right.name) :
    (database.store first).store second = (database.store second).store first := by
  cases first with
  | none => rfl
  | some left =>
      cases second with
      | none => rfl
      | some right =>
          have either := Catalog.put_comm database.catalog (apart left rfl right rfl)
          simp only [store, Option.elim_some, putTable, either]

/-- A statement on one table leaves all other tables and the name of the store as they were. -/
theorem attempt_frame {database : Database} {text : String} {statement : Statement} {name : String}
    (read : database.parse text = .ok statement) (sole : statement.sole? = some name) :
    (∀ other, other ≠ name →
      (database.attempt text).2.catalog.find? other = database.catalog.find? other) ∧
      (database.attempt text).2.name = database.name := by
  obtain ⟨change, only⟩ := local_of_sole sole
  rw [only.attempt read]
  exact ⟨fun other apart => find?_store (only.named _) apart, name_store _ _⟩

/-- After a statement on another table a statement gives the same result, and both together leave
the same store in either order. -/
theorem attempt_comm {database : Database} {first second : String} {early late : Statement}
    {left right : String} (readFirst : database.parse first = .ok early)
    (readSecond : database.parse second = .ok late) (soleFirst : early.sole? = some left)
    (soleSecond : late.sole? = some right) (apart : left ≠ right) :
    ((database.attempt first).2.attempt second).1 = (database.attempt second).1 ∧
      ((database.attempt first).2.attempt second).2 =
        ((database.attempt second).2.attempt first).2 := by
  obtain ⟨change, only⟩ := local_of_sole soleFirst
  obtain ⟨other, alone⟩ := local_of_sole soleSecond
  have readLater {replacement : Option Table} {text : String} {statement : Statement}
      (read : database.parse text = .ok statement) :
      (database.store replacement).parse text = .ok statement := by rwa [parse_store]
  rw [only.attempt readFirst, alone.attempt readSecond, alone.attempt (readLater readSecond),
    only.attempt (readLater readFirst), find?_store (only.named _) apart.symm,
    find?_store (alone.named _) apart]
  refine ⟨rfl, store_comm database ?_⟩
  intro replaced member replacing chosen
  rw [only.named _ replaced member, alone.named _ replacing chosen]
  exact apart

/-- Two statements on different tables do not interfere. Each of them leaves the other tables and
the name of the store as they were. In either order both give what they give alone and leave the
same store, so that it is saved as the same file, in whatever order its tables were made. -/
theorem independent_of_apart {database : Database} {first second : String} {early late : Statement}
    {left right : String} (readFirst : database.parse first = .ok early)
    (readSecond : database.parse second = .ok late) (soleFirst : early.sole? = some left)
    (soleSecond : late.sole? = some right) (apart : left ≠ right) {tables : List Table}
    (reordered : tables.Perm database.catalog.tables) :
    let twin : Database := { database with catalog := .ofList tables }
    (∀ other, other ≠ left →
      (database.attempt first).2.catalog.find? other = database.catalog.find? other) ∧
    (database.attempt first).2.name = database.name ∧
    (database.runAll [first, second]).1 = [(database.attempt first).1, (database.attempt second).1] ∧
    (twin.runAll [second, first]).1 = [(database.attempt second).1, (database.attempt first).1] ∧
    (database.runAll [first, second]).2 = (twin.runAll [second, first]).2 ∧
    (database.runAll [first, second]).2.save = (twin.runAll [second, first]).2.save := by
  intro twin
  have same : twin = database := by
    simp only [twin, Catalog.ofList_eq_of_perm reordered]
  obtain ⟨others, named⟩ := attempt_frame readFirst soleFirst
  obtain ⟨resultSecond, final⟩ := attempt_comm readFirst readSecond soleFirst soleSecond apart
  obtain ⟨resultFirst, _⟩ := attempt_comm readSecond readFirst soleSecond soleFirst apart.symm
  rw [same]
  refine ⟨others, named, ?_⟩
  simp only [runAll, resultFirst, resultSecond, final, and_self]

/-- A row with a key that is taken and a change of another table. -/
theorem independent_of_apart_taken_key :
    let column (table : String) : Column := ⟨"a", table, .int, false, 4, none⟩
    let low : Table := ⟨"t", ⟨[column "t"]⟩, some 0, [[.int 1]]⟩
    let high : Table := ⟨"u", ⟨[column "u"]⟩, some 0, [[.int 1], [.int 2]]⟩
    let database : Database := ⟨"D", .standard, .ofList [low, high]⟩
    let twin : Database := ⟨"D", .standard, .ofList [high, low]⟩
    let first := "INSERT INTO t VALUES (1);"
    let second := "UPDATE u SET a = 3 WHERE a = 2;"
    (database.attempt first).1 = .error (.logic (.repeatedKey (.int 1))) ∧
      (database.attempt second).1 = .ok (.updated 1) ∧
      (database.attempt first).2.catalog.find? "u" = some high ∧
      (database.runAll [first, second]).1 =
        [.error (.logic (.repeatedKey (.int 1))), .ok (.updated 1)] ∧
      (twin.runAll [second, first]).1 =
        [.ok (.updated 1), .error (.logic (.repeatedKey (.int 1)))] ∧
      (database.runAll [first, second]).2.save = (twin.runAll [second, first]).2.save := by
  intro column low high database twin first second
  have readFirst : database.parse first = .ok (.insert ⟨"t", none, ["1"]⟩) := by decide +kernel
  have readSecond : database.parse second = .ok (.update ⟨"u", [("a", "3")],
      ⟨[.leaf (.compare ⟨"a", false⟩ .equal ⟨"2", false⟩)], rfl⟩⟩) := by decide +kernel
  have reordered : [high, low].Perm database.catalog.tables := by decide +kernel
  have stored : database.catalog.find? "u" = some high := by decide +kernel
  have refused : (database.attempt first).1 = .error (.logic (.repeatedKey (.int 1))) := by
    decide +kernel
  have changed : (database.attempt second).1 = .ok (.updated 1) := by decide +kernel
  obtain ⟨others, _, forth, back, _, saved⟩ :=
    independent_of_apart readFirst readSecond rfl rfl (by decide) reordered
  rw [refused, changed] at forth back
  exact ⟨refused, changed, (others "u" (by decide)).trans stored, forth, back, saved⟩

end Database

end TableStore
