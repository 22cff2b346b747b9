/-
This file writes to a table in place, one step after the other.
Nothing takes a step back when a later step fails, and still a failure leaves the table as it was.
-/

import TableStore.Proofs.Table.Change
import TableStore.Table.Insertion

namespace TableStore

/-- A computation that changes what is stored as it goes on. A failure takes no change back. -/
abbrev Writing (ε σ α : Type) := ExceptT ε (StateM σ) α

namespace Writing

variable {ε σ α β ι : Type}

/-- What a computation gives, and what is stored after it. -/
def perform (writing : Writing ε σ α) (stored : σ) : Except ε α × σ := writing.run.run stored

/-- A computation that stores nothing. -/
def check (result : Except ε α) : Writing ε σ α := ExceptT.mk (pure result)

@[simp] theorem perform_check (result : Except ε α) (stored : σ) :
    (check result : Writing ε σ α).perform stored = (result, stored) := rfl

/-- The second part starts from what the first part has stored. -/
theorem perform_bind (first : Writing ε σ α) (next : α → Writing ε σ β) (stored : σ) :
    (first >>= next).perform stored =
      match first.perform stored with
      | (.ok value, changed) => (next value).perform changed
      | (.error cause, changed) => (.error cause, changed) := by
  rcases performed : first.perform stored with ⟨result, changed⟩
  have run : StateT.run (ExceptT.run first) stored = (result, changed) := performed
  rw [perform, ExceptT.run_bind, StateT.run_bind, run]
  cases result with
  | ok value => rfl
  | error cause => rfl

/-- A change that succeeds is stored, and a change that fails is not. -/
def settle (stored : σ) : Except ε (α × σ) → Except ε α × σ
  | .ok (value, changed) => (.ok value, changed)
  | .error cause => (.error cause, stored)

@[simp] theorem perform_get_bind (next : σ → Writing ε σ β) (stored : σ) :
    (get >>= next).perform stored = (next stored).perform stored := by
  rw [perform_bind]
  rfl

@[simp] theorem perform_modify_bind (change : σ → σ) (next : PUnit → Writing ε σ β) (stored : σ) :
    (modify change >>= next).perform stored = (next ⟨⟩).perform (change stored) := by
  rw [perform_bind]
  rfl

/-- A check comes before all changes on both sides. -/
theorem settle_check {result : Except ε β} {next : β → Writing ε σ α}
    {change : β → Except ε (α × σ)} {stored : σ}
    (later : ∀ value, result = .ok value →
      (next value).perform stored = settle stored (change value)) :
    (check result >>= next).perform stored = settle stored (result >>= change) := by
  rw [perform_bind, perform_check]
  cases result with
  | ok value => exact later value rfl
  | error cause => rfl

/-- What is made of the value at the end changes nothing that is stored. -/
theorem settle_map {writing : Writing ε σ α} {change : Except ε (α × σ)} {stored : σ}
    (settled : writing.perform stored = settle stored change) (result : α → β) :
    (do return result (← writing) : Writing ε σ β).perform stored =
      settle stored (do let (value, changed) ← change; return (result value, changed)) := by
  rw [perform_bind, settled]
  cases change with
  | ok _ => rfl
  | error cause => rfl

/-- Steps that never fail are taken one after the other. -/
theorem perform_forM {step : ι → Writing ε σ PUnit} {change : σ → ι → σ}
    (each : ∀ item stored, (step item).perform stored = (.ok ⟨⟩, change stored item))
    (items : List ι) (stored : σ) :
    (items.forM step).perform stored = (.ok ⟨⟩, items.foldl change stored) := by
  induction items generalizing stored with
  | nil => rfl
  | cons item rest ih =>
      have parts : (item :: rest).forM step = step item >>= fun _ => rest.forM step := rfl
      rw [parts, perform_bind, each]
      exact ih (change stored item)

end Writing

namespace Table

/-- One column becomes wide enough for a value. -/
def widen (table : Table) (position : Nat) (value : Value) : Table :=
  { table with schema := table.schema.modify position (·.fit value) }

/-- One cell gets a new value. -/
def setCell (table : Table) (index position : Nat) (value : Value) : Table :=
  { table with rows := table.rows.modify index (·.set position value) }

/-- Each column becomes wide enough for its value in the row. -/
def widenAll (row : Row) : Writing Fault Table Unit :=
  row.zipIdx.forM fun entry => modify (·.widen entry.2 entry.1)

/-- A row is checked before the columns are widened and the row is stored. -/
def writeRow (row : Row) : Writing Fault Table Unit := do
  let table ← get
  if row.length ≠ table.schema.size then
    throw (.logic (.rowSize row.length table.schema.size))
  Writing.check ((table.schema.columns.zip row).forM fun cell => checkCell cell.1 cell.2)
  Writing.check (table.checkKey row)
  widenAll row
  modify fun table => { table with rows := table.rows ++ [row] }

/-- A row of literals is put together before anything is stored. -/
def writeLiterals (values : List String) (names : Option (List String)) :
    Writing Fault Table Unit := do
  let table ← get
  let positions ← Writing.check (table.schema.positions names)
  if values.length ≠ positions.length then
    throw (.logic (.valueCount values.length positions.length))
  let slots ← Writing.check ((positions.zip values).foldlM (fillSlot table.schema)
    (List.replicate table.schema.size none))
  writeRow (slots.map (·.getD .null))

/-- All rows are marked before any of them is removed. -/
def writeDelete (condition : Condition) : Writing Fault Table Nat := do
  let table ← get
  let marks ← Writing.check (table.marks condition)
  modify fun table => { table with rows := marked table.rows marks false }
  return marks.count true

/-- The positions of the rows that are marked. -/
def accepted (marks : List Bool) : List Nat :=
  (List.range marks.length).filter fun index => marks[index]?.getD false

/-- The targets are written to each accepted row, cell by cell. -/
def assignAll (targets : List (Nat × Value)) (marks : List Bool) : Writing Fault Table Unit :=
  (accepted marks).forM fun index =>
    targets.forM fun target => modify (·.setCell index target.1 target.2)

/-- The assigned columns become wide enough for their targets. -/
def widenTargets (targets : List (Nat × Value)) : Writing Fault Table Unit :=
  targets.forM fun target => modify (·.widen target.1 target.2)

/-- All checks of an update come before the first cell is written. -/
def writeUpdate (assignments : List (String × String)) (condition : Condition) :
    Writing Fault Table Nat := do
  let table ← get
  let targets ← Writing.check (assignments.foldlM (addTarget table.schema) [])
  let marks ← Writing.check (table.marks condition)
  Writing.check (table.checkChange targets marks)
  assignAll targets marks
  if marks.count true > 0 then
    widenTargets targets
  return marks.count true

/-- A change at the length of the front reaches the first item behind it. -/
theorem modify_append_cons (front others : List Column) (column : Column)
    (change : Column → Column) :
    (front ++ column :: others).modify front.length change = front ++ change column :: others := by
  induction front with
  | nil => rfl
  | cons first rest ih => simp [ih]

/-- Widening the columns one by one is widening them side by side. -/
theorem foldl_modify_zipIdx (front columns : List Column) {row : Row}
    (size : row.length = columns.length) :
    (row.zipIdx front.length).foldl
        (fun columns (entry : Value × Nat) => columns.modify entry.2 (·.fit entry.1))
        (front ++ columns) =
      front ++ List.zipWith Column.fit columns row := by
  induction row generalizing front columns with
  | nil =>
      cases columns with
      | nil => rfl
      | cons column others => cases size
  | cons value rest ih =>
      cases columns with
      | nil => cases size
      | cons column others =>
          have later := ih (front ++ [column.fit value]) others (by simpa using size)
          simpa [modify_append_cons] using later

/-- Widening column by column leaves the rows alone. -/
theorem foldl_widen (entries : List (Value × Nat)) (table : Table) :
    entries.foldl (fun table entry => table.widen entry.2 entry.1) table =
      { table with
        schema := ⟨entries.foldl (fun columns entry => columns.modify entry.2 (·.fit entry.1))
          table.schema.columns⟩ } := by
  induction entries generalizing table with
  | nil => rfl
  | cons entry rest ih => exact ih _

/-- A row with one value per column makes room in every column at once. -/
theorem perform_widenAll {table : Table} {row : Row} (size : row.length = table.schema.size) :
    (widenAll row).perform table =
      (.ok (), { table with schema := ⟨List.zipWith Column.fit table.schema.columns row⟩ }) := by
  have steps : (widenAll row).perform table =
      (.ok (), row.zipIdx.foldl (fun table entry => table.widen entry.2 entry.1) table) :=
    Writing.perform_forM (fun _ _ => rfl) row.zipIdx table
  have widened := foldl_modify_zipIdx [] table.schema.columns size
  simp only [List.nil_append, List.length_nil] at widened
  rw [steps, foldl_widen, widened]

/-- A row that is refused at any check changes neither widths nor rows. -/
theorem perform_writeRow (row : Row) (table : Table) :
    (writeRow row).perform table =
      Writing.settle table (do return ((), ← table.insert row)) := by
  unfold writeRow insert
  rw [Writing.perform_get_bind]
  by_cases size : row.length = table.schema.size
  · rw [if_neg (not_not.mpr size), if_neg (not_not.mpr size)]
    simp only [bind_assoc]
    apply Writing.settle_check
    intro _ _
    apply Writing.settle_check
    intro _ _
    rw [Writing.perform_bind, perform_widenAll size]
    rfl
  · rw [if_pos size, if_pos size]
    rfl

/-- A literal that cannot be read changes nothing, wherever it stands in the row. -/
theorem perform_writeLiterals (values : List String) (names : Option (List String))
    (table : Table) :
    (writeLiterals values names).perform table =
      Writing.settle table (do return ((), ← table.addRow values names)) := by
  unfold writeLiterals addRow
  rw [Writing.perform_get_bind]
  simp only [bind_assoc]
  apply Writing.settle_check
  intro positions _
  by_cases count : values.length = positions.length
  · rw [if_neg (not_not.mpr count), if_neg (not_not.mpr count)]
    simp only [bind_assoc]
    apply Writing.settle_check
    intro slots _
    exact perform_writeRow _ table
  · rw [if_pos count, if_pos count]
    rfl

/-- Marking all rows first makes a deletion that fails leave the table as it was. -/
theorem perform_writeDelete (condition : Condition) (table : Table) :
    (writeDelete condition).perform table = Writing.settle table (table.delete condition) := by
  unfold writeDelete delete
  rw [Writing.perform_get_bind]
  apply Writing.settle_check
  intro marks _
  rfl

/-- Writing the targets cell by cell changes one row and nothing else. -/
theorem foldl_setCell (index : Nat) (targets : List (Nat × Value)) (table : Table) :
    targets.foldl (fun table target => table.setCell index target.1 target.2) table =
      { table with rows := table.rows.modify index (assign targets) } := by
  induction targets generalizing table with
  | nil =>
      have same : assign [] = id := rfl
      rw [same, List.modify_id]
      rfl
  | cons target rest ih =>
      rw [List.foldl_cons, ih, setCell, List.modify_modify_eq]
      rfl

/-- Writing all targets row by row changes the accepted rows and nothing else. -/
theorem foldl_assign (indices : List Nat) (targets : List (Nat × Value)) (table : Table) :
    indices.foldl (fun table index =>
        targets.foldl (fun table target => table.setCell index target.1 target.2) table) table =
      { table with
        rows :=
          indices.foldl (fun rows index => rows.modify index (assign targets)) table.rows } := by
  induction indices generalizing table with
  | nil => rfl
  | cons index rest ih => rw [List.foldl_cons, foldl_setCell, ih, List.foldl_cons]

/-- Rows at different positions are changed once each, and the others not at all. -/
theorem getElem?_foldl_modify {indices : List Nat} (apart : indices.Nodup) (change : Row → Row)
    (rows : List Row) (index : Nat) :
    (indices.foldl (fun rows index => rows.modify index change) rows)[index]? =
      if index ∈ indices then rows[index]?.map change else rows[index]? := by
  induction indices generalizing rows with
  | nil => simp
  | cons first rest ih =>
      obtain ⟨fresh, later⟩ := List.nodup_cons.mp apart
      rw [List.foldl_cons, ih later, List.getElem?_modify]
      by_cases same : first = index
      · subst same
        simp [fresh]
      · simp [same, Ne.symm same]

/-- The accepted positions are those with a mark. -/
theorem mem_accepted {marks : List Bool} {index : Nat} :
    index ∈ accepted marks ↔ marks[index]? = some true := by
  rw [accepted, List.mem_filter, List.mem_range]
  cases found : marks[index]? with
  | none => simp
  | some mark =>
      obtain ⟨within, _⟩ := List.getElem?_eq_some_iff.mp found
      simp [within]

/-- Writing the accepted rows one by one is changing all rows side by side. -/
theorem foldl_accepted {rows : List Row} {marks : List Bool} (size : marks.length = rows.length)
    (change : Row → Row) :
    (accepted marks).foldl (fun rows index => rows.modify index change) rows =
      List.zipWith (fun row mark => if mark then change row else row) rows marks := by
  -- Both sides agree at every position, because no position is accepted twice.
  apply List.ext_getElem?
  intro index
  have apart : (accepted marks).Nodup := List.nodup_range.filter _
  rw [getElem?_foldl_modify apart, List.getElem?_zipWith]
  by_cases within : index < rows.length
  · have marked : index < marks.length := size ▸ within
    simp [mem_accepted, within, marked]
    split
    · rfl
    · rfl
  · simp [mem_accepted, within]

/-- Writing in place gives every marked row its targets and leaves the other rows alone. -/
theorem perform_assignAll (targets : List (Nat × Value)) {marks : List Bool} {table : Table}
    (size : marks.length = table.rows.length) :
    (assignAll targets marks).perform table =
      (.ok (), { table with
        rows := List.zipWith (fun row mark => if mark then assign targets row else row) table.rows
          marks }) := by
  have each : ∀ index (stored : Table),
      (targets.forM fun target => (modify (·.setCell index target.1 target.2) :
        Writing Fault Table Unit)).perform stored =
      (.ok (), targets.foldl (fun table target => table.setCell index target.1 target.2) stored) :=
    fun index stored => Writing.perform_forM (fun _ _ => rfl) targets stored
  rw [assignAll, Writing.perform_forM each, foldl_assign, foldl_accepted size]

/-- Widening in place makes room for all targets and leaves the rows alone. -/
theorem perform_widenTargets (targets : List (Nat × Value)) (table : Table) :
    (widenTargets targets).perform table =
      (.ok (), { table with schema := widened targets table.schema }) := by
  have steps : (widenTargets targets).perform table =
      (.ok (), targets.foldl (fun table target => table.widen target.1 target.2) table) :=
    Writing.perform_forM (fun _ _ => rfl) targets table
  rw [steps]
  clear steps
  induction targets generalizing table with
  | nil => rfl
  | cons target rest ih => exact ih (table.widen target.1 target.2)

/-- An update that is refused at any check writes no cell. -/
theorem perform_writeUpdate (assignments : List (String × String)) (condition : Condition)
    (table : Table) :
    (writeUpdate assignments condition).perform table =
      Writing.settle table (table.update assignments condition) := by
  unfold writeUpdate update
  rw [Writing.perform_get_bind]
  apply Writing.settle_check
  intro targets _
  apply Writing.settle_check
  intro marks marked
  apply Writing.settle_check
  intro _ _
  rw [Writing.perform_bind, perform_assignAll targets (marks_length marked)]
  by_cases some : marks.count true > 0
  · simp only [if_pos some]
    rw [Writing.perform_bind, perform_widenTargets]
    rfl
  · simp only [if_neg some]
    rfl

end Table

end TableStore
