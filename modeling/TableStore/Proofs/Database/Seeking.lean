/-
This file says which rows a condition finds by a literal for one of their columns.
A condition reads the literal by the type of the column, as insertions and updates do, so it finds
what they have stored.
-/

import TableStore.Proofs.Database.Addressing
import TableStore.Proofs.Table.Recheck

namespace TableStore

namespace Column

/-- A column answers to its bare name and to its name with the table in front. -/
def Answers (column : Column) (name : String) : Prop :=
  name = column.name ∨ name = column.qualifiedName

instance (column : Column) (name : String) : Decidable (column.Answers name) :=
  inferInstanceAs (Decidable (_ ∨ _))

/-- A wider column answers to the same names. -/
theorem Grows.answers {column wider : Column} (grows : column.Grows wider) (name : String) :
    wider.Answers name ↔ column.Answers name := by
  rw [grows.same]
  rfl

end Column

namespace Predicate

/-- A leaf seeks a text in a column when it compares one of the names of the column with the quoted
text. Either of them may stand on the left. -/
inductive Seeks (column : Column) (text : String) : Predicate → Prop where
  | onRight {operand : Operand} (named : column.Answers operand.text) :
      Seeks column text (.compare operand .equal ⟨text, true⟩)
  | onLeft {operand : Operand} (named : column.Answers operand.text) :
      Seeks column text (.compare ⟨text, true⟩ .equal operand)

/-- A comparison that seeks in a column seeks in a wider one. -/
theorem Seeks.widened {column wider : Column} {text : String} {predicate : Predicate}
    (seeks : predicate.Seeks column text) (grows : column.Grows wider) :
    predicate.Seeks wider text := by
  cases seeks with
  | onRight named => exact .onRight ((grows.answers _).mpr named)
  | onLeft named => exact .onLeft ((grows.answers _).mpr named)

end Predicate

namespace Schema

/-- A name that is that of no column finds none. -/
theorem indexOf?_eq_none {schema : Schema} {name : String}
    (free : ∀ column ∈ schema.columns, ¬ column.Answers name) : schema.indexOf? name = none := by
  unfold indexOf?
  split
  · rename_i point
    obtain ⟨table, bare, cut⟩ := qualifier?_of_point point
    refine List.findIdx?_eq_none_iff.mpr fun column present => Bool.eq_false_iff.mpr fun named => ?_
    rw [Column.isNamed, cut, Bool.and_eq_true, beq_iff_eq, beq_iff_eq] at named
    refine free column present (.inr ?_)
    rw [(qualifier?_some cut).1, named.1, named.2]
    rfl
  · refine List.findIdx?_eq_none_iff.mpr fun column present => Bool.eq_false_iff.mpr fun named => ?_
    exact free column present (.inl (beq_iff_eq.mp named).symm)

end Schema

namespace Operand

variable {schema : Schema} {operand : Operand} {position : Nat}

/-- An operand that the schema finds names that column, also where it could be a literal. -/
theorem column?_found (found : schema.indexOf? operand.text = some position) :
    operand.column? schema = .ok (some position) := by
  unfold column?
  rw [found]

/-- A quoted text that finds no column is a literal, also when it looks like a qualified name. -/
theorem column?_quoted {text : String} (free : schema.indexOf? text = none) :
    (⟨text, true⟩ : Operand).column? schema = .ok none := by
  unfold column?
  rw [free]
  rfl

/-- A literal that faces a column is read by the type of the column if it can be. -/
theorem literal_facing {column : Column} {value : Value}
    (there : schema.columns[position]? = some column)
    (read : column.type.literal? operand.text = some value) :
    operand.literal schema (some position) = value := by
  simp [literal, there, read]

end Operand

namespace Table

variable {table changed : Table} {position : Nat} {column : Column} {text : String} {value : Value}
  {predicate : Predicate}

/-- The condition is bound to the columns of the table, and accepts exactly those of its rows that
hold the value at the position. -/
def Finds (table : Table) (condition : Condition) (position : Nat) (value : Value) : Prop :=
  ∃ bound, condition.bind table.schema = .ok bound ∧
    ∀ row ∈ table.rows, bound.evaluate row = .ok ((row.at position).same value)

/-- The text is a literal of the column at the position, and no column answers to it. -/
structure LiteralAt (table : Table) (position : Nat) (column : Column) (text : String)
    (value : Value) : Prop where
  there : table.schema.columns[position]? = some column
  read : column.type.literal? text = some value
  free : ∀ other ∈ table.schema.columns, ¬ other.Answers text

/-- What is known of a stored literal outlasts changes of the table. -/
theorem LiteralAt.widened (literal : table.LiteralAt position column text value)
    (widens : table.Widens changed) :
    ∃ wider, column.Grows wider ∧ changed.LiteralAt position wider text value := by
  obtain ⟨within, _⟩ := List.getElem?_eq_some_iff.mp literal.there
  have there := List.getElem?_eq_getElem (widens.columns.length_eq ▸ within)
  obtain ⟨early, here, grows⟩ := grows_at widens.columns there
  obtain rfl := Option.some.inj (literal.there.symm.trans here)
  refine ⟨_, grows, there, ?_, ?_⟩
  · rw [grows.same]
    exact literal.read
  · apply Column.forall_of_grow _ widens.columns literal.free
    intro other wide grown free
    rwa [grown.answers]

/-- In a regular table a literal is found where it is equal to the value of its column. -/
theorem LiteralAt.finds (literal : table.LiteralAt position column text value)
    (regular : table.Regular) (seeks : predicate.Seeks column text) :
    table.Finds predicate.condition position value := by
  obtain ⟨within, same⟩ := List.getElem?_eq_some_iff.mp literal.there
  have found {operand : Operand} (named : column.Answers operand.text) :
      operand.column? table.schema = .ok (some position) := by
    have addressable := (addressable_iff_wellNamed regular.sound.owned).mpr regular.wellNamed
    have both := addressable.found position within
    rw [same] at both
    apply Operand.column?_found
    rcases named with bare | qualified
    · exact bare ▸ both.1
    · exact qualified ▸ both.2
  have quoted := Operand.column?_quoted (Schema.indexOf?_eq_none literal.free)
  have facing := @Operand.literal_facing _ ⟨text, true⟩ _ _ _ literal.there literal.read
  -- The cell and the literal are of one type, where equality and sameness of keys agree.
  have cell (row : Row) (present : row ∈ table.rows) :
      (row.at position).equals value = (row.at position).same value :=
    Value.equals_eq_same
      (Row.at_of_cells (regular.sound.admitted row present) literal.there).accepted
      (DataType.accepts_literal literal.read)
  cases seeks with
  | onRight named =>
      refine ⟨_, Predicate.condition_bind (Predicate.bind_compare (found named) quoted _), ?_⟩
      intro row present
      rw [← cell row present, Operand.side, Operand.side, facing]
      rfl
  | onLeft named =>
      refine ⟨_, Predicate.condition_bind (Predicate.bind_compare quoted (found named) _), ?_⟩
      intro row present
      rw [← cell row present, Value.equals_comm, Operand.side, Operand.side, facing]
      rfl

/-- A table that has changed still finds the literal in all of its rows that hold the value. -/
theorem LiteralAt.accepts (literal : table.LiteralAt position column text value)
    (widens : table.Widens changed) (regular : changed.Regular)
    (seeks : predicate.Seeks column text) :
    ∃ bound, predicate.condition.bind changed.schema = .ok bound ∧
      ∀ row ∈ changed.rows, row.at position = value → bound.evaluate row = .ok true := by
  obtain ⟨wider, grows, again⟩ := literal.widened widens
  obtain ⟨bound, binds, found⟩ := again.finds regular (seeks.widened grows)
  refine ⟨bound, binds, fun row present holds => ?_⟩
  rw [found row present, holds, Value.same_self_of_literal literal.read]

/-- A row that was inserted with the literal is found by it. -/
theorem LiteralAt.finds_inserted (literal : table.LiteralAt position column text value)
    (regular : table.Regular) (seeks : predicate.Seeks column text) {values : List String}
    {names : Option (List String)} {positions : List Nat}
    (placed : table.schema.positions names = .ok positions)
    (given : (position, text) ∈ positions.zip values)
    (added : table.addRow values names = .ok changed) :
    ∃ row bound, changed.rows = table.rows ++ [row] ∧ row.at position = value ∧
      predicate.condition.bind changed.schema = .ok bound ∧ bound.evaluate row = .ok true := by
  obtain ⟨bound, binds, accepts⟩ :=
    literal.accepts (addRow_widens added) (regular_addRow regular added) seeks
  obtain ⟨row, rfl, holds⟩ := addRow_at added placed given literal.there literal.read
  exact ⟨row, bound, rfl, holds, binds, accepts row (List.mem_append_right _ (.head _)) holds⟩

/-- The rows to which an update assigns the literal are found by it. -/
theorem LiteralAt.finds_updated (literal : table.LiteralAt position column text value)
    (regular : table.Regular) (seeks : predicate.Seeks column text)
    {assignments : List (String × String)} {condition : Condition} {count : Nat} {key : String}
    (given : (key, text) ∈ assignments) (named : table.schema.indexOf? key = some position)
    (assigned : table.update assignments condition = .ok (count, changed)) :
    ∃ accepted bound, condition.bind table.schema = .ok accepted ∧
      predicate.condition.bind changed.schema = .ok bound ∧
      changed.rows.length = table.rows.length ∧
      ∀ (index : Nat) old new, table.rows[index]? = some old → changed.rows[index]? = some new →
        accepted.evaluate old = .ok true →
          new.at position = value ∧ bound.evaluate new = .ok true := by
  obtain ⟨bound, binds, accepts⟩ :=
    literal.accepts (update_widens assigned) (regular_update regular assigned) seeks
  obtain ⟨targets, accepted, assigns, bindsToo, rfl⟩ := rewritten_of_update assigned
  refine ⟨accepted, bound, bindsToo, binds, List.length_map _, ?_⟩
  intro index old new here there chosen
  rw [Condition.evaluate_eq_accepts bindsToo, Except.ok.injEq] at chosen
  have present := List.mem_of_getElem? there
  rw [rewritten, List.getElem?_map, here, Option.map_some, Option.some.injEq, if_pos chosen]
    at there
  have size := (regular.sound.admitted old (List.mem_of_getElem? here)).length_eq
  have within : position < old.length :=
    size ▸ (List.getElem?_eq_some_iff.mp literal.there).1
  have holds := overwritten_at assigns given named literal.there literal.read within
  rw [there] at holds
  exact ⟨holds, accepts new present holds⟩

end Table

namespace Database

/-- A quoted literal means the same to conditions as to insertions and updates. In every table that
statements have made, comparing a column with a literal of its type, from either side, accepts
exactly the rows that hold the value of the literal. A row inserted with the literal is accepted,
and so is every row to which an update has assigned it. -/
theorem literals_find_what_they_stored (name : String) (precedences : Precedences)
    (texts : List String) {table : Table}
    (stored : table ∈ ((fresh name precedences).runAll texts).2.catalog.tables)
    {position : Nat} {column : Column} {text : String} {value : Value}
    (literal : table.LiteralAt position column text value) {predicate : Predicate}
    (seeks : predicate.Seeks column text) :
    table.Finds predicate.condition position value ∧
      (∀ values names positions changed, table.schema.positions names = .ok positions →
        (position, text) ∈ positions.zip values → table.addRow values names = .ok changed →
          ∃ row bound, changed.rows = table.rows ++ [row] ∧ row.at position = value ∧
            predicate.condition.bind changed.schema = .ok bound ∧
            bound.evaluate row = .ok true) ∧
      ∀ assignments condition count changed key, (key, text) ∈ assignments →
        table.schema.indexOf? key = some position →
        table.update assignments condition = .ok (count, changed) →
          ∃ accepted bound, condition.bind table.schema = .ok accepted ∧
            predicate.condition.bind changed.schema = .ok bound ∧
            changed.rows.length = table.rows.length ∧
            ∀ (index : Nat) old new, table.rows[index]? = some old →
              changed.rows[index]? = some new → accepted.evaluate old = .ok true →
                new.at position = value ∧ bound.evaluate new = .ok true := by
  have regular := regular_runAll name precedences texts table stored
  refine ⟨literal.finds regular seeks, ?_, ?_⟩
  · intro values names positions changed placed given added
    exact literal.finds_inserted regular seeks placed given added
  · intro assignments condition count changed key given named assigned
    exact literal.finds_updated regular seeks given named assigned

/-- One tenth is another number in the narrow width than in the wide one, and the condition reads it
in the width of the column. -/
theorem literals_find_what_they_stored_tenth :
    let texts := ["CREATE TABLE t (id INT, x FLOAT);", "INSERT INTO t VALUES (1, 0.1);",
      "INSERT INTO t VALUES (2, null);"]
    let column : Column := ⟨"x", "t", .float, false, 4, none⟩
    let tenth : Value := .float (.round .single false 1 10)
    let rows : List Row := [[.int 1, tenth], [.int 2, .null]]
    let table : Table := ⟨"t", ⟨[⟨"id", "t", .int, false, 4, none⟩, column]⟩, some 0, rows⟩
    let predicate : Predicate := .compare ⟨"0.1", true⟩ .equal ⟨"t.x", false⟩
    let second : Condition := (Predicate.compare ⟨"id", false⟩ .equal ⟨"2", false⟩).condition
    table ∈ ((fresh "D" .standard).runAll texts).2.catalog.tables ∧
      table.LiteralAt 1 column "0.1" tenth ∧ table.Finds predicate.condition 1 tenth ∧
      ∃ inserted updated insertedBound updatedBound,
        table.addRow ["3", "0.1"] none = .ok inserted ∧
        predicate.condition.bind inserted.schema = .ok insertedBound ∧
        insertedBound.evaluate [.int 3, tenth] = .ok true ∧
        table.update [("t.x", "0.1")] second = .ok (1, updated) ∧
        predicate.condition.bind updated.schema = .ok updatedBound ∧
        updatedBound.evaluate [.int 2, tenth] = .ok true := by
  intro texts column tenth rows table predicate second
  have stored : table ∈ ((fresh "D" .standard).runAll texts).2.catalog.tables := by decide +kernel
  have literal : table.LiteralAt 1 column "0.1" tenth :=
    ⟨rfl, by decide +kernel, by decide +kernel⟩
  have seeks : predicate.Seeks column "0.1" := .onLeft (.inr rfl)
  let inserted : Table := { table with rows := rows ++ [[.int 3, tenth]] }
  let updated : Table := { table with rows := [[.int 1, tenth], [.int 2, tenth]] }
  have added : table.addRow ["3", "0.1"] none = .ok inserted := by decide +kernel
  have assigned : table.update [("t.x", "0.1")] second = .ok (1, updated) := by decide +kernel
  have bound : second.bind table.schema =
      .ok ⟨[.check (.compare (.column 0) .equal (.literal (.int 2)))]⟩ := by decide +kernel
  obtain ⟨finds, insertion, change⟩ :=
    literals_find_what_they_stored "D" .standard texts stored literal seeks
  obtain ⟨row, insertedBound, last, _, binds, accepts⟩ :=
    insertion ["3", "0.1"] none [0, 1] inserted rfl (by simp) added
  obtain rfl : [.int 3, tenth] = row := List.singleton_inj.mp (List.append_cancel_left last)
  obtain ⟨accepted, updatedBound, bindsSecond, bindsToo, _, each⟩ :=
    change _ second 1 updated "t.x" (.head _) (by decide +kernel) assigned
  obtain rfl := Except.ok.inj (bound.symm.trans bindsSecond)
  exact ⟨stored, literal, finds, inserted, updated, insertedBound, updatedBound, added, binds,
    accepts, assigned, bindsToo, (each 1 _ _ rfl rfl rfl).2⟩

end Database

end TableStore
