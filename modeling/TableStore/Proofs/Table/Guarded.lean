/-
This file reads and changes tables with guarded positions.
Where every row has one value per column, no position is missing.
-/

import TableStore.Proofs.Condition.Guarded
import TableStore.Proofs.Table.Alignment
import TableStore.Proofs.Table.Writing

namespace TableStore.Table

open Guarded

/-- The rows of a shaped table have one value per column, and its key is one of the columns. -/
structure Shaped (table : Table) : Prop where
  rows : ∀ row ∈ table.rows, row.length = table.schema.size
  keyed : ∀ key, table.primaryKey = some key → key < table.schema.size

/-- A sound table has one value per column, and its key among them. -/
theorem Sound.shaped {table : Table} (sound : table.Sound) : table.Shaped :=
  ⟨fun row present => (sound.admitted row present).length_eq.symm, sound.keyed⟩

/-- The result of the condition on a row is noted in the place of the row. -/
def noteGuarded (bound : BoundCondition) (marks : List Bool) (entry : Row × Nat) :
    Guarded Fault (List Bool) := do
  if ← bound.evaluateGuarded entry.1 then put marks entry.2 true else return marks

def marksGuarded (table : Table) (condition : Condition) : Guarded Fault (List Bool) := do
  let bound ← condition.bindGuarded table.schema
  table.rows.zipIdx.foldlM (noteGuarded bound) (List.replicate table.rows.length false)

/-- Each row with the mark in its place. -/
def pairedGuarded (rows : List Row) (marks : List Bool) : Guarded Fault (List (Row × Bool)) :=
  rows.zipIdx.mapM fun entry => return (entry.1, ← look marks entry.2)

def selectGuarded (table : Table) (names : Option (List String)) (condition : Condition) :
    Guarded Fault ResultSet := do
  let positions ← sure (table.schema.positions names)
  let bound ← condition.bindGuarded table.schema
  let marks ← table.rows.mapM bound.evaluateGuarded
  let rows ← (marked table.rows marks true).mapM fun row => positions.mapM (look row)
  let columns ← positions.mapM (look table.schema.columns)
  return ⟨columns.map (·.name), columns.map (·.width), rows⟩

def deleteGuarded (table : Table) (condition : Condition) : Guarded Fault (Nat × Table) := do
  let marks ← table.marksGuarded condition
  let entries ← pairedGuarded table.rows marks
  return (marks.count true, { table with rows := (entries.filter (·.2 == false)).map (·.1) })

def fillSlotGuarded (schema : Schema) (slots : List (Option Value)) (entry : Nat × String) :
    Guarded Fault (List (Option Value)) := do
  let slot ← look slots entry.1
  let column ← look schema.columns entry.1
  if slot.isSome then throw (.logic (.columnGivenTwice column.name))
  let value ← sure (column.type.readLiteral entry.2)
  put slots entry.1 (some value)

def checkKeyGuarded (table : Table) (row : Row) : Guarded Fault Unit :=
  match table.primaryKey with
  | none => return ()
  | some position => do
      let key ← look row position
      let taken ← table.rows.anyM fun other => return (← look other position).same key
      if !key.isNull && taken then throw (.logic (.repeatedKey key))

def insertGuarded (table : Table) (row : Row) : Guarded Fault Table := do
  if row.length ≠ table.schema.size then
    throw (.logic (.rowSize row.length table.schema.size))
  sure ((table.schema.columns.zip row).forM fun cell => checkCell cell.1 cell.2)
  table.checkKeyGuarded row
  let columns ← row.zipIdx.foldlM
    (fun columns (entry : Value × Nat) => change columns entry.2 (·.fit entry.1))
    table.schema.columns
  return { table with schema := ⟨columns⟩, rows := table.rows ++ [row] }

def addRowGuarded (table : Table) (values : List String) (names : Option (List String)) :
    Guarded Fault Table := do
  let positions ← sure (table.schema.positions names)
  if values.length ≠ positions.length then
    throw (.logic (.valueCount values.length positions.length))
  let slots ← (positions.zip values).foldlM (fillSlotGuarded table.schema)
    (List.replicate table.schema.size none)
  table.insertGuarded (slots.map (·.getD .null))

def addTargetGuarded (schema : Schema) (targets : List (Nat × Value))
    (assignment : String × String) : Guarded Fault (List (Nat × Value)) := do
  let position ← sure (schema.resolve assignment.1)
  if targets.any (·.1 == position) then throw (.logic (.assignedTwice assignment.1))
  let column ← look schema.columns position
  let value ← sure (column.type.readLiteral assignment.2)
  if column.notNull && value.isNull then throw (.logic (.nullInColumn column.name))
  return targets ++ [(position, value)]

def checkChangeGuarded (table : Table) (targets : List (Nat × Value)) (marks : List Bool) :
    Guarded Fault Unit :=
  match table.newKey? targets with
  | none => return ()
  | some (position, key) => do
      let count := marks.count true
      let entries ← pairedGuarded table.rows marks
      let taken ← (entries.filter (·.2 == false)).anyM fun entry =>
        return (← look entry.1 position).same key
      if count > 1 || (count == 1 && taken) then throw (.logic (.repeatedKey key))

def assignGuarded (targets : List (Nat × Value)) (row : Row) : Guarded Fault Row :=
  targets.foldlM (fun row target => put row target.1 target.2) row

def rewriteGuarded (targets : List (Nat × Value)) (rows : List Row) (index : Nat) :
    Guarded Fault (List Row) := do
  put rows index (← assignGuarded targets (← look rows index))

def widenGuarded (targets : List (Nat × Value)) (schema : Schema) : Guarded Fault Schema :=
  targets.foldlM (fun schema target => return ⟨← change schema.columns target.1 (·.fit target.2)⟩)
    schema

def updateGuarded (table : Table) (assignments : List (String × String)) (condition : Condition) :
    Guarded Fault (Nat × Table) := do
  let targets ← assignments.foldlM (addTargetGuarded table.schema) []
  let marks ← table.marksGuarded condition
  table.checkChangeGuarded targets marks
  let rows ← (accepted marks).foldlM (rewriteGuarded targets) table.rows
  let schema ← if marks.count true > 0 then widenGuarded targets table.schema
    else pure table.schema
  return (marks.count true, { table with schema := schema, rows := rows })

/-- Results that are noted in the places of their rows are the results of the rows in order. -/
theorem foldlM_noteGuarded {bound : BoundCondition} {rows : List Row}
    (each : ∀ row ∈ rows, bound.evaluateGuarded row = pure (bound.accepts row))
    (front : List Bool) :
    (rows.zipIdx front.length).foldlM (noteGuarded bound)
        (front ++ List.replicate rows.length false) =
      pure (front ++ rows.map bound.accepts) := by
  induction rows generalizing front with
  | nil => rfl
  | cons row rest ih =>
      rw [List.forall_mem_cons] at each
      have noted : noteGuarded bound (front ++ List.replicate (row :: rest).length false)
          (row, front.length) =
            pure (front ++ [bound.accepts row] ++ List.replicate rest.length false) := by
        rw [noteGuarded, each.1, pure_bind]
        cases bound.accepts row with
        | true =>
            have within : front.length <
                (front ++ List.replicate (row :: rest).length false).length := by simp
            rw [if_pos rfl, put_of_lt within]
            simp [List.replicate_succ]
        | false => simp [List.replicate_succ]
      have later := ih each.2 (front ++ [bound.accepts row])
      rw [List.length_append, List.length_singleton] at later
      rw [List.zipIdx_cons, List.foldlM_cons, noted, pure_bind, later]
      simp

/-- A bound condition finds all its values in every row of a shaped table. -/
theorem evaluateGuarded_rows {table : Table} (shaped : table.Shaped) {condition : Condition}
    {bound : BoundCondition} (binds : condition.bind table.schema = .ok bound) :
    ∀ row ∈ table.rows, bound.evaluateGuarded row = pure (bound.accepts row) :=
  fun row present => Condition.evaluateGuarded_eq binds (shaped.rows row present)

/-- The marks have a place for each row. -/
theorem marksGuarded_eq {table : Table} (shaped : table.Shaped) (condition : Condition) :
    table.marksGuarded condition = sure (table.marks condition) := by
  rw [marksGuarded, Condition.bindGuarded_eq]
  apply bind_sure
  intro bound binds
  rw [Condition.mapM_evaluate binds]
  exact foldlM_noteGuarded (evaluateGuarded_rows shaped binds) []

/-- As many marks as rows can be looked up by the positions of the rows. -/
theorem pairedGuarded_eq {rows : List Row} {marks : List Bool}
    (size : marks.length = rows.length) : pairedGuarded rows marks = pure (rows.zip marks) := by
  have each : ∀ entry ∈ rows.zipIdx, (do return (entry.1, ← look marks entry.2) :
      Guarded Fault (Row × Bool)) = pure (entry.1, marks.getD entry.2 false) := by
    intro entry present
    have within : entry.2 < marks.length := size ▸ snd_lt_of_mem_zipIdx present
    have found := List.getElem?_eq_getElem within
    rw [look_of_getElem? found, pure_bind, List.getD_eq_getElem?_getD, found, Option.getD_some]
  rw [pairedGuarded, mapM_pure each]
  congr 1
  apply List.ext_getElem
  · simp [size]
  · intro index within inside
    simp at within
    simp [size, within]

/-- A selection from a shaped table does not give up. -/
theorem selectGuarded_eq {table : Table} (shaped : table.Shaped) (names : Option (List String))
    (condition : Condition) :
    table.selectGuarded names condition = sure (table.select names condition) := by
  apply bind_sure
  intro positions placed
  have within := positions_within placed
  have marking : table.marks condition = condition.bind table.schema >>= fun bound =>
      table.rows.mapM bound.evaluate := rfl
  rw [Condition.bindGuarded_eq, marking, bind_assoc]
  apply bind_sure
  intro bound binds
  have rows : ∀ marks, (marked table.rows marks true).mapM (fun row => positions.mapM (look row)) =
      (pure ((marked table.rows marks true).map fun row => positions.map row.at) :
        Guarded Fault (List Row)) := by
    intro marks
    apply mapM_pure
    intro row accepted
    obtain ⟨⟨stored, mark⟩, member, rfl⟩ := List.mem_map.mp accepted
    have size := shaped.rows stored (List.of_mem_zip (List.mem_of_mem_filter member)).1
    apply mapM_pure
    intro position chosen
    exact Row.look_of_lt (size ▸ within position chosen)
  rw [mapM_pure (evaluateGuarded_rows shaped binds), Condition.mapM_evaluate binds, pure_bind,
    rows, pure_bind, mapM_look within]
  rfl

/-- A row that lacks a value makes a selection give up. -/
example : (selectGuarded ⟨"t", ⟨[.fresh "a" "t" .int false, .fresh "b" "t" .int false]⟩, none,
    [[.int 1]]⟩ none .always).run = none := by decide +kernel

/-- A deletion looks at no value and no mark that is not there. -/
theorem deleteGuarded_eq {table : Table} (shaped : table.Shaped) (condition : Condition) :
    table.deleteGuarded condition = sure (table.delete condition) := by
  rw [deleteGuarded, marksGuarded_eq shaped]
  apply bind_sure
  intro marks marked
  rw [pairedGuarded_eq (marks_length marked)]
  rfl

/-- A slot within the schema is read, and filled in its place. -/
theorem fillSlotGuarded_eq {schema : Schema} {slots : List (Option Value)}
    (size : slots.length = schema.size) {entry : Nat × String} (within : entry.1 < schema.size) :
    fillSlotGuarded schema slots entry = sure (fillSlot schema slots entry) := by
  have column := List.getElem?_eq_getElem within
  have slot := List.getElem?_eq_getElem (size ▸ within : entry.1 < slots.length)
  rw [fillSlotGuarded, look_of_getElem? slot, look_of_getElem? column, fillSlot, column, slot]
  simp only [pure_bind, Option.getD_some]
  by_cases given : slots[entry.1].isSome = true
  · rw [if_pos given, if_pos given]
    rfl
  · rw [if_neg given, if_neg given]
    apply bind_sure
    intro value _
    exact put_of_lt (size ▸ within) _

/-- The key is a position of the new row and of all stored ones. -/
theorem checkKeyGuarded_eq {table : Table} (shaped : table.Shaped) {row : Row}
    (size : row.length = table.schema.size) :
    table.checkKeyGuarded row = sure (table.checkKey row) := by
  unfold checkKeyGuarded checkKey
  cases keyed : table.primaryKey with
  | none => rfl
  | some position =>
      have within := shaped.keyed position keyed
      have taken : table.rows.anyM (fun other => (do
          return (← look other position).same (row.at position) : Guarded Fault Bool)) =
          pure (table.rows.any fun other => (other.at position).same (row.at position)) := by
        apply anyM_pure
        intro other present
        rw [Row.look_of_lt (shaped.rows other present ▸ within)]
        rfl
      simp only [Row.look_of_lt (size ▸ within), pure_bind, taken]
      split
      · rfl
      · rfl

/-- Widening the columns one by one finds each of them in its place. -/
theorem fitGuarded_eq {columns : List Column} {row : Row} (size : row.length = columns.length) :
    row.zipIdx.foldlM (fun columns entry => change columns entry.2 (·.fit entry.1)) columns =
      (pure (List.zipWith Column.fit columns row) : Guarded Fault (List Column)) := by
  have widened := foldl_modify_zipIdx [] columns size
  simp only [List.nil_append, List.length_nil] at widened
  rw [← widened]
  refine foldlM_pure (·.length = columns.length) ?_ ?_ rfl
  · intro wider same entry present
    exact change_of_lt (same ▸ size ▸ snd_lt_of_mem_zipIdx present) _
  · intro wider same entry _
    exact (List.length_modify _ _ _).trans same

/-- An insertion into a shaped table does not give up. -/
theorem insertGuarded_eq {table : Table} (shaped : table.Shaped) (row : Row) :
    table.insertGuarded row = sure (table.insert row) := by
  unfold insertGuarded insert
  by_cases size : row.length = table.schema.size
  · rw [if_neg (not_not.mpr size), if_neg (not_not.mpr size)]
    apply bind_sure
    intro _ _
    rw [checkKeyGuarded_eq shaped size]
    apply bind_sure
    intro _ _
    rw [fitGuarded_eq size]
    rfl
  · rw [if_pos size, if_pos size]
    rfl

/-- A row of literals is put together in a shaped table without giving up. -/
theorem addRowGuarded_eq {table : Table} (shaped : table.Shaped) (values : List String)
    (names : Option (List String)) :
    table.addRowGuarded values names = sure (table.addRow values names) := by
  apply bind_sure
  intro positions placed
  by_cases count : values.length = positions.length
  · rw [if_neg (not_not.mpr count), if_neg (not_not.mpr count)]
    have filled : (positions.zip values).foldlM (fillSlotGuarded table.schema)
        (List.replicate table.schema.size none) =
          sure ((positions.zip values).foldlM (fillSlot table.schema)
            (List.replicate table.schema.size none)) := by
      refine foldlM_sure (·.length = table.schema.size) ?_ ?_ List.length_replicate
      · intro slots size entry present
        exact fillSlotGuarded_eq size
          (positions_within placed entry.1 (List.of_mem_zip present).1)
      · intro slots size entry _ next done
        exact (fillSlot_length done).trans size
    simp only [filled]
    apply bind_sure
    intro slots _
    exact insertGuarded_eq shaped _
  · rw [if_pos count, if_pos count]
    rfl

/-- An assignment looks at the column that its name was found at. -/
theorem addTargetGuarded_eq (schema : Schema) (targets : List (Nat × Value))
    (assignment : String × String) :
    addTargetGuarded schema targets assignment = sure (addTarget schema targets assignment) := by
  apply bind_sure
  intro position resolved
  have column := List.getElem?_eq_getElem (Schema.resolve_lt resolved)
  rw [look_of_getElem? column, column]
  by_cases repeated : targets.any (·.1 == position) = true
  · rw [if_pos repeated, if_pos repeated]
    rfl
  · rw [if_neg repeated, if_neg repeated]
    simp only [pure_bind]
    apply bind_sure
    intro value _
    split
    · rfl
    · rfl

/-- The rows that keep their values have a key to compare with the new one. -/
theorem checkChangeGuarded_eq {table : Table} (shaped : table.Shaped)
    {targets : List (Nat × Value)} {marks : List Bool} (size : marks.length = table.rows.length) :
    table.checkChangeGuarded targets marks = sure (table.checkChange targets marks) := by
  unfold checkChangeGuarded checkChange
  cases new : table.newKey? targets with
  | none => rfl
  | some target =>
      obtain ⟨position, key⟩ := target
      have within := shaped.keyed position (newKey?_eq_some new).1
      have taken : ((table.rows.zip marks).filter (·.2 == false)).anyM (fun entry => (do
          return (← look entry.1 position).same key : Guarded Fault Bool)) =
          pure ((marked table.rows marks false).any fun other => (other.at position).same key) := by
        rw [marked, List.any_map]
        apply anyM_pure
        intro entry present
        have stored := (List.of_mem_zip (List.mem_of_mem_filter present)).1
        rw [Row.look_of_lt (shaped.rows entry.1 stored ▸ within)]
        rfl
      simp only [pairedGuarded_eq size, pure_bind, taken]
      split
      · rfl
      · rfl

/-- Targets replace values and add none. -/
theorem length_assign (targets : List (Nat × Value)) (row : Row) :
    (assign targets row).length = row.length := by
  induction targets generalizing row with
  | nil => rfl
  | cons target rest ih => exact (ih _).trans List.length_set

/-- Targets within the row are written in their places. -/
theorem assignGuarded_eq {targets : List (Nat × Value)} {row : Row}
    (within : ∀ target ∈ targets, target.1 < row.length) :
    assignGuarded targets row = pure (assign targets row) := by
  refine foldlM_pure (·.length = row.length) ?_ ?_ rfl
  · exact fun changed same target present => put_of_lt (same ▸ within target present) _
  · exact fun changed same target _ => List.length_set.trans same

/-- Targets within the schema make room in their columns. -/
theorem widenGuarded_eq {targets : List (Nat × Value)} {schema : Schema}
    (within : ∀ target ∈ targets, target.1 < schema.size) :
    widenGuarded targets schema = pure (widened targets schema) := by
  refine foldlM_pure (·.size = schema.size) ?_ ?_ rfl
  · intro wider same target present
    have inside : target.1 < wider.size := same ▸ within target present
    rw [change_of_lt inside]
    rfl
  · exact fun wider same target _ => (wider.size_modify _ _).trans same

/-- The accepted rows are there, and so are the cells that are assigned in them. -/
theorem rewriteGuarded_eq {targets : List (Nat × Value)} {rows : List Row} {marks : List Bool}
    (size : marks.length = rows.length)
    (within : ∀ row ∈ rows, ∀ target ∈ targets, target.1 < row.length) :
    (accepted marks).foldlM (rewriteGuarded targets) rows =
      pure (List.zipWith (fun row mark => if mark then assign targets row else row) rows marks) := by
  rw [← foldl_accepted size]
  refine foldlM_pure (fun changed => changed.length = rows.length ∧
    ∀ row ∈ changed, ∀ target ∈ targets, target.1 < row.length) ?_ ?_ ⟨rfl, within⟩
  · rintro changed ⟨same, cells⟩ index chosen
    have inside : index < changed.length := by
      have found := List.getElem?_eq_some_iff.mp (mem_accepted.mp chosen)
      exact same ▸ size ▸ found.1
    have stored := List.getElem_mem inside
    rw [rewriteGuarded, look_of_getElem? (List.getElem?_eq_getElem inside), pure_bind,
      assignGuarded_eq (cells _ stored), pure_bind, put_of_lt inside]
    congr 1
    rw [List.modify_eq_set_getElem?]
    simp [inside]
  · rintro changed ⟨same, cells⟩ index chosen
    refine ⟨(List.length_modify _ _ _).trans same, ?_⟩
    intro row present target assigned
    obtain ⟨position, inside, rfl⟩ := List.mem_iff_getElem.mp present
    rw [List.length_modify] at inside
    have old := cells _ (List.getElem_mem inside) target assigned
    rw [List.getElem_modify]
    split
    · exact (length_assign targets _).symm ▸ old
    · exact old

/-- An update of a shaped table does not give up. -/
theorem updateGuarded_eq {table : Table} (shaped : table.Shaped)
    (assignments : List (String × String)) (condition : Condition) :
    table.updateGuarded assignments condition = sure (table.update assignments condition) := by
  have read : assignments.foldlM (addTargetGuarded table.schema) [] =
      sure (assignments.foldlM (addTarget table.schema) []) :=
    foldlM_each (fun targets assignment _ => addTargetGuarded_eq table.schema targets assignment) []
  rw [updateGuarded, read]
  apply bind_sure
  intro targets valid
  rw [marksGuarded_eq shaped]
  apply bind_sure
  intro marks marked
  have size := marks_length marked
  have within := (targets_of_assignments valid).within
  rw [checkChangeGuarded_eq shaped size]
  apply bind_sure
  intro _ _
  have cells : ∀ row ∈ table.rows, ∀ target ∈ targets, target.1 < row.length :=
    fun row present target assigned => (shaped.rows row present).symm ▸ within target assigned
  rw [rewriteGuarded_eq size cells, widenGuarded_eq within]
  simp only [pure_bind]
  split
  · rfl
  · rfl

end TableStore.Table
