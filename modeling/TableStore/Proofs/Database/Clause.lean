/-
This file compares a statement that deletes rows with its clause alone.
The condition can also be compiled from its own text and given to the table directly.
-/

import TableStore.Proofs.Database.Writing
import TableStore.Proofs.Statement.Clause

namespace TableStore.Database

/-- The statement that deletes the rows of a table that a clause selects. -/
def deletion (name clause : String) : String := "DELETE FROM " ++ name ++ " WHERE " ++ clause ++ ";"

variable {database : Database} {name : String} {table : Table}

/-- A deletion is read when its clause compiles alone, and has the condition of the clause. -/
theorem parse_deletion (named : (Token.name name).AloneIn name) (clause : String)
    {statement : Statement} :
    database.parse (deletion name clause) = .ok statement ↔
      ∃ condition, Condition.ofText database.precedences clause = .ok condition ∧
        statement = .delete ⟨name, condition⟩ := by
  have begun : Token.Lexed ("DELETE FROM " ++ name).toList
      [.keyword .delete, .keyword .from_, .name name] := by
    have own : Token.Lexed name.toList [.name name] := Token.lexed_iff.mpr named
    simpa [Keyword.text] using (own.keyword .from_).keyword .delete
  rw [parse, mapError_eq_ok]
  exact Statement.ofText_clause (Phrase.opens_delete _ name) begun clause

/-- A deletion succeeds exactly when the table is changed, and puts the table back. -/
theorem delete_ok (found : database.catalog.find? name = some table) {condition : Condition}
    {outcome : Outcome} {final : Database} :
    database.delete ⟨name, condition⟩ = .ok (outcome, final) ↔
      ∃ count changed, table.delete condition = .ok (count, changed) ∧ outcome = .deleted count ∧
        final = database.putTable changed := by
  rw [Database.delete, changeTable_ok]
  constructor
  · rintro ⟨other, changed, stored, success, rfl⟩
    obtain rfl : other = table := Option.some.inj (stored.symm.trans found)
    obtain ⟨⟨count, rest⟩, removed, last⟩ := bind_eq_ok.mp success
    cases last
    exact ⟨count, changed, removed, rfl, rfl⟩
  · rintro ⟨count, changed, removed, rfl, rfl⟩
    refine ⟨table, changed, found, ?_, rfl⟩
    rw [removed]
    rfl

/-- The table that is left is stored under the name of the old one. -/
theorem find?_putTable_delete (found : database.catalog.find? name = some table)
    {condition : Condition} {count : Nat} {changed : Table}
    (removed : table.delete condition = .ok (count, changed)) :
    (database.putTable changed).catalog.find? name = some changed := by
  obtain ⟨rows, _, rfl⟩ := Table.delete_ok removed
  obtain rfl := Catalog.name_of_find? found
  exact Catalog.find?_put_self _ _

/-- A clause in a statement means what its text means alone. The statement succeeds exactly when the
text compiles under the precedences of the store and the table can be searched with the condition.
It then counts the same rows and stores the same table. When it fails, neither way changes what is
stored, although both write in place. -/
theorem clause_stands_alone (found : database.catalog.find? name = some table)
    (named : (Token.name name).AloneIn name) (clause : String) :
    (∀ outcome final, database.execute (deletion name clause) = .ok (outcome, final) ↔
      ∃ condition count changed, Condition.ofText database.precedences clause = .ok condition ∧
        table.delete condition = .ok (count, changed) ∧ outcome = .deleted count ∧
        final = database.putTable changed ∧ final.catalog.find? name = some changed) ∧
      ∀ cause, database.execute (deletion name clause) = .error cause →
        (writeText (deletion name clause)).perform database = (.error cause, database) ∧
          ∀ condition, Condition.ofText database.precedences clause = .ok condition →
            ∃ other, (Table.writeDelete condition).perform table = (.error other, table) := by
  have succeeds (outcome : Outcome) (final : Database) :
      database.execute (deletion name clause) = .ok (outcome, final) ↔
        ∃ condition count changed, Condition.ofText database.precedences clause = .ok condition ∧
          table.delete condition = .ok (count, changed) ∧ outcome = .deleted count ∧
          final = database.putTable changed ∧ final.catalog.find? name = some changed := by
    rw [execute, bind_eq_ok]
    constructor
    · rintro ⟨statement, read, done⟩
      obtain ⟨condition, compiled, rfl⟩ := (parse_deletion named clause).mp read
      obtain ⟨count, changed, removed, rfl, rfl⟩ := (delete_ok found).mp done
      exact ⟨condition, count, changed, compiled, removed, rfl, rfl,
        find?_putTable_delete found removed⟩
    · rintro ⟨condition, count, changed, compiled, removed, rfl, rfl, _⟩
      exact ⟨_, (parse_deletion named clause).mpr ⟨condition, compiled, rfl⟩,
        (delete_ok found).mpr ⟨count, changed, removed, rfl, rfl⟩⟩
  refine ⟨succeeds, ?_⟩
  intro cause failed
  constructor
  · rw [perform_writeText, attempt, failed]
  · intro condition compiled
    rw [Table.perform_writeDelete]
    cases removed : table.delete condition with
    | error other => exact ⟨other, rfl⟩
    | ok result =>
        have stored := find?_putTable_delete found removed
        have done := (succeeds _ _).mpr
          ⟨condition, result.1, result.2, compiled, removed, rfl, rfl, stored⟩
        rw [failed] at done
        cases done

/-- A semicolon in quotes belongs to the clause, and a semicolon behind the condition breaks it. -/
theorem clause_stands_alone_semicolons :
    let table : Table := ⟨"t", ⟨[.fresh "a" "t" (.varchar 9) false]⟩, none,
      [[.text "x;y"], [.text "z"]]⟩
    let database : Database := ⟨"D", .standard, .ofList [table]⟩
    let left : Table := { table with rows := [[.text "z"]] }
    database.catalog.find? "t" = some table ∧ (Token.name "t").AloneIn "t" ∧
      (∃ final, database.execute (deletion "t" "a = 'x;y'") = .ok (.deleted 1, final) ∧
        final.catalog.find? "t" = some left) ∧
      ∃ cause, (writeText (deletion "t" "a = 'z';")).perform database = (.error cause, database) := by
  intro table database left
  have found : database.catalog.find? "t" = some table := by decide +kernel
  have named : (Token.name "t").AloneIn "t" := by
    unfold Token.AloneIn
    decide +kernel
  let condition : Condition := ⟨[.leaf (.compare ⟨"a", false⟩ .equal ⟨"x;y", true⟩)], rfl⟩
  have compiled : Condition.ofText database.precedences "a = 'x;y'" = .ok condition := by
    decide +kernel
  have removed : table.delete condition = .ok (1, left) := by decide +kernel
  have stored := find?_putTable_delete found removed
  have done := ((clause_stands_alone found named "a = 'x;y'").1 _ _).mpr
    ⟨condition, 1, left, compiled, removed, rfl, rfl, stored⟩
  refine ⟨found, named, ⟨_, done, stored⟩, ?_⟩
  cases failed : database.execute (deletion "t" "a = 'z';") with
  | error cause => exact ⟨cause, ((clause_stands_alone found named "a = 'z';").2 cause failed).1⟩
  | ok result =>
      obtain ⟨other, _, _, read, _⟩ := ((clause_stands_alone found named "a = 'z';").1 _ _).mp failed
      have broken : Condition.ofText database.precedences "a = 'z';" =
          .error (.unexpectedOperand (.mark .semicolon)) := by decide +kernel
      rw [broken] at read
      cases read

end TableStore.Database
