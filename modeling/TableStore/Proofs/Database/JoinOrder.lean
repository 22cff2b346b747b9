/-
This file writes joins the other way round.
A right join is a left join from the other table, the two sides of a join clause may be swapped, and
inner joins from both tables have the same rows in some order.
-/

import TableStore.Proofs.Database.Soundness
import TableStore.Proofs.Table.Guarded
import TableStore.Proofs.Table.Turned

namespace TableStore

namespace Database

/-- A query on two tables that are joined on one column of each. -/
def joining (kind : JoinKind) (columns : Projection) (table other : String)
    (first second : QualifiedName) (condition : Condition) : Query :=
  ⟨columns, table, some ⟨kind, other, first, second⟩, condition⟩

/-- The names that a projection asks for. -/
def projected : Projection → Option (List String)
  | .all => none
  | .only names => some names

variable {left right : Table}

/-- The sides of a clause may be swapped when the tables have different names. -/
theorem joinColumns_swap (different : left.name ≠ right.name) (kind : JoinKind) (table : String)
    (first second : QualifiedName) :
    joinColumns ⟨kind, table, first, second⟩ left right =
      joinColumns ⟨kind, table, second, first⟩ left right := by
  unfold joinColumns
  dsimp only
  by_cases straight : first.table = left.name ∧ second.table = right.name
  · have crossed : ¬ (second.table = left.name ∧ first.table = right.name) :=
      fun both => different (both.1.symm.trans straight.2)
    rw [if_pos straight, if_neg crossed, if_pos straight]
  · rw [if_neg straight]
    split
    · rfl
    · rfl

theorem joinColumns_straight (kind : JoinKind) (table x y : String) :
    joinColumns ⟨kind, table, ⟨left.name, x⟩, ⟨right.name, y⟩⟩ left right = .ok (x, y) :=
  if_pos ⟨rfl, rfl⟩

variable {database : Database} {a b : String}

/-- A query on two stored tables selects from their join. -/
theorem select_joining (leftStored : database.catalog.find? a = some left)
    (rightStored : database.catalog.find? b = some right) (kind : JoinKind) (columns : Projection)
    (first second : QualifiedName) (condition : Condition) :
    database.select (joining kind columns a b first second condition) =
      joinColumns ⟨kind, b, first, second⟩ left right >>= fun names =>
        left.join kind right names.1 names.2 >>= (·.select (projected columns) condition) := by
  unfold select source joining
  simp only [table_ok.mpr leftStored, table_ok.mpr rightStored, ok_bind]
  cases joinColumns ⟨kind, b, first, second⟩ left right with
  | error cause => rfl
  | ok names =>
      simp only [ok_bind]
      cases left.join kind right names.1 names.2 with
      | error cause => rfl
      | ok joined => cases columns <;> rfl

/-- A right join reads the same table as the left join from the other side. -/
theorem select_right_eq_left (apart : a ≠ b) (leftStored : database.catalog.find? a = some left)
    (rightStored : database.catalog.find? b = some right) (columns : Projection) (x y : String)
    (condition : Condition) :
    database.select (joining .right columns a b ⟨a, x⟩ ⟨b, y⟩ condition) =
      database.select (joining .left columns b a ⟨a, x⟩ ⟨b, y⟩ condition) := by
  rw [select_joining leftStored rightStored, select_joining rightStored leftStored]
  obtain rfl := Catalog.name_of_find? leftStored
  obtain rfl := Catalog.name_of_find? rightStored
  rw [joinColumns_straight, joinColumns_swap apart.symm, joinColumns_straight]
  rfl

/-- The sides of a join clause may be swapped. -/
theorem select_swap (apart : a ≠ b) (leftStored : database.catalog.find? a = some left)
    (rightStored : database.catalog.find? b = some right) (kind : JoinKind) (columns : Projection)
    (first second : QualifiedName) (condition : Condition) :
    database.select (joining kind columns a b first second condition) =
      database.select (joining kind columns a b second first condition) := by
  rw [select_joining leftStored rightStored, select_joining leftStored rightStored]
  obtain rfl := Catalog.name_of_find? leftStored
  obtain rfl := Catalog.name_of_find? rightStored
  rw [joinColumns_swap apart]

/-- Inner joins of sound tables give the same results from both sides. -/
theorem select_inner_turned (all : database.All Table.Sound) (apart : a ≠ b)
    (leftStored : database.catalog.find? a = some left)
    (rightStored : database.catalog.find? b = some right) (x y : String) {names : List String}
    {condition : Condition}
    (plain : ∀ name ∈ names ++ condition.references, '.' ∈ name.toList ∨
      left.schema.indexOf? name = none ∨ right.schema.indexOf? name = none) :
    let first := database.select (joining .inner (.only names) a b ⟨a, x⟩ ⟨b, y⟩ condition)
    let second := database.select (joining .inner (.only names) b a ⟨a, x⟩ ⟨b, y⟩ condition)
    Reordered first second ∨ first = .error (.logic (.unknownColumn x)) ∧
      second = .error (.logic (.unknownColumn y)) := by
  have leftSound := all left (Catalog.mem_of_find? leftStored)
  have rightSound := all right (Catalog.mem_of_find? rightStored)
  rw [select_joining leftStored rightStored, select_joining rightStored leftStored]
  obtain rfl := Catalog.name_of_find? leftStored
  obtain rfl := Catalog.name_of_find? rightStored
  rw [joinColumns_straight, joinColumns_swap apart.symm, joinColumns_straight]
  apply Table.select_innerJoin_turned leftSound.shaped.rows rightSound.shaped.rows
  intro name named
  rcases plain name named with point | single
  · exact Schema.indexOf?_of_owned leftSound.owned rightSound.owned apart point
  · exact single

/-- Joins may be written either way round. After any requests in any order, let two tables with
different names be stored. A query on their right join has the result, or the fault, of the same
query on the left join from the other table. The two sides of the join clause may be swapped in
every kind of join. A query on the inner join that names its columns, where each name that it looks
up is qualified or a column of one table at most, has the same columns and widths from both sides
and the same rows up to their order, or the same fault. Only where both sides of the clause lack
their columns, each query names the column of its own first table. The texts of queries give these
results, and so do their runs as statements. -/
theorem joins_either_way (name : String) (precedences : Precedences) (requests : List Request)
    {a b : String} (apart : a ≠ b) {left right : Table}
    (leftStored : ((fresh name precedences).serveAll requests).catalog.find? a = some left)
    (rightStored : ((fresh name precedences).serveAll requests).catalog.find? b = some right)
    (condition : Condition) :
    let database := (fresh name precedences).serveAll requests
    (∀ columns x y, database.select (joining .right columns a b ⟨a, x⟩ ⟨b, y⟩ condition) =
        database.select (joining .left columns b a ⟨a, x⟩ ⟨b, y⟩ condition)) ∧
      (∀ kind columns first second,
        database.select (joining kind columns a b first second condition) =
          database.select (joining kind columns a b second first condition)) ∧
      (∀ names x y, (∀ reference ∈ names ++ condition.references, '.' ∈ reference.toList ∨
          left.schema.indexOf? reference = none ∨ right.schema.indexOf? reference = none) →
        let first := database.select (joining .inner (.only names) a b ⟨a, x⟩ ⟨b, y⟩ condition)
        let second := database.select (joining .inner (.only names) b a ⟨a, x⟩ ⟨b, y⟩ condition)
        Reordered first second ∨ first = .error (.logic (.unknownColumn x)) ∧
          second = .error (.logic (.unknownColumn y))) ∧
      ∀ text query, database.parse text = .ok (.select query) →
        database.query text = database.select query ∧
          (database.attempt text).1 = (database.select query).map Outcome.rows := by
  intro database
  refine ⟨fun columns x y =>
      select_right_eq_left apart leftStored rightStored columns x y condition,
    fun kind columns first second =>
      select_swap apart leftStored rightStored kind columns first second condition,
    fun names x y plain => select_inner_turned (serveAll_all (all_fresh name precedences) requests)
      apart leftStored rightStored x y plain, ?_⟩
  intro text query read
  refine ⟨?_, ?_⟩
  · rw [Database.query, read, ok_bind]
  · rw [attempt, execute, read, ok_bind, run]
    cases database.select query <;> rfl

/-- Two rows of each table match, and both orders of the four rows are different. -/
theorem joins_either_way_twice :
    let requests : List Request := [.statement "CREATE TABLE t (id INT, k INT);",
      .statement "CREATE TABLE u (code INT, k INT);", .insert "t" [.int 1, .int 7],
      .insert "t" [.int 2, .int 7], .insert "u" [.int 10, .int 7], .insert "u" [.int 20, .int 7]]
    let database := (fresh "D" .standard).serveAll requests
    let condition : Condition :=
      ⟨[.leaf (.compare ⟨"t.k", false⟩ .equal ⟨"7", false⟩)], rfl⟩
    let pairs : Projection := .only ["id", "code"]
    let first := database.select (joining .inner pairs "t" "u" ⟨"t", "k"⟩ ⟨"u", "k"⟩ condition)
    let second := database.select (joining .inner pairs "u" "t" ⟨"t", "k"⟩ ⟨"u", "k"⟩ condition)
    "t" ≠ "u" ∧
      (∃ left right, database.catalog.find? "t" = some left ∧
        database.catalog.find? "u" = some right ∧
        ∀ reference ∈ ["id", "code"] ++ condition.references, '.' ∈ reference.toList ∨
          left.schema.indexOf? reference = none ∨ right.schema.indexOf? reference = none) ∧
      Reordered first second ∧ first ≠ second := by
  intro requests database condition pairs first second
  let column (name table : String) : Column := ⟨name, table, .int, false, 4, none⟩
  let left : Table := ⟨"t", ⟨[column "id" "t", column "k" "t"]⟩, some 0,
    [[.int 1, .int 7], [.int 2, .int 7]]⟩
  let right : Table := ⟨"u", ⟨[column "code" "u", column "k" "u"]⟩, some 0,
    [[.int 10, .int 7], [.int 20, .int 7]]⟩
  have apart : "t" ≠ "u" := by decide
  have leftStored : database.catalog.find? "t" = some left := by decide +kernel
  have rightStored : database.catalog.find? "u" = some right := by decide +kernel
  have plain : ∀ reference ∈ ["id", "code"] ++ condition.references, '.' ∈ reference.toList ∨
      left.schema.indexOf? reference = none ∨ right.schema.indexOf? reference = none := by
    decide +kernel
  have found : first ≠ .error (.logic (.unknownColumn "k")) := by decide +kernel
  have different : first ≠ second := by decide +kernel
  obtain ⟨_, _, inner, _⟩ :=
    joins_either_way "D" .standard requests apart leftStored rightStored condition
  exact ⟨apart, ⟨left, right, leftStored, rightStored, plain⟩,
    (inner _ "k" "k" plain).resolve_right fun both => found both.1, different⟩

end Database

end TableStore
