/-
This file says which rows a table takes, and what it then holds.
An inserted row is admitted by the columns and brings a new key.
-/

import TableStore.Proofs.Table.Soundness
import TableStore.Table.Insertion

namespace TableStore.Table

/-- The key of the row is null or stands in no row of the table. -/
def TakesKey (table : Table) (row : Row) : Prop :=
  ∀ key, table.primaryKey = some key → ∀ other ∈ table.rows, ¬ Row.SharesKey key row other

/-- The table with one more row and columns that are wide enough for it. -/
def extended (table : Table) (row : Row) : Table :=
  { table with
    schema := ⟨List.zipWith Column.fit table.schema.columns row⟩
    rows := table.rows ++ [row] }

/-- A cell passes its check exactly when the column admits it. -/
theorem checkCell_ok {column : Column} {value : Value} :
    checkCell column value = .ok () ↔ column.Admits value := by
  unfold checkCell
  split
  · rename_i refused
    simp only [reduceCtorEq, false_iff]
    intro admits
    simp [admits.accepted] at refused
  · rename_i accepted
    split
    · rename_i missing
      rw [Bool.and_eq_true, Value.isNull_iff] at missing
      simp only [reduceCtorEq, false_iff]
      intro admits
      exact admits.present missing.1 missing.2
    · rename_i present
      rw [Bool.and_eq_true, Value.isNull_iff] at present
      simp only [true_iff]
      exact ⟨by simpa using accepted, fun needed empty => present ⟨needed, empty⟩⟩

/-- A row passes the key check exactly when its key is free. -/
theorem checkKey_ok {table : Table} {row : Row} :
    table.checkKey row = .ok () ↔ table.TakesKey row := by
  unfold checkKey TakesKey
  cases table.primaryKey with
  | none => simp
  | some key =>
      simp only [Option.some.injEq, forall_eq']
      split
      · rename_i repeated
        rw [Bool.and_eq_true, List.any_eq_true, Bool.not_eq_true', Value.isNull_eq_false]
          at repeated
        obtain ⟨present, other, member, same⟩ := repeated
        simp only [reduceCtorEq, false_iff]
        intro new
        exact new other member ⟨present, Value.same_comm _ _ ▸ same⟩
      · rename_i fresh
        rw [Bool.and_eq_true, List.any_eq_true, Bool.not_eq_true', Value.isNull_eq_false] at fresh
        simp only [true_iff]
        intro other member shared
        exact fresh ⟨shared.1, other, member, Value.same_comm _ _ ▸ shared.2⟩

/-- A row is inserted exactly when the columns admit it and its key is new. -/
theorem insert_ok {table changed : Table} {row : Row} :
    table.insert row = .ok changed ↔
      List.Forall₂ Column.Admits table.schema.columns row ∧ table.TakesKey row ∧
        changed = table.extended row := by
  have cells : ((table.schema.columns.zip row).forM fun cell => checkCell cell.1 cell.2) = .ok () ↔
      ∀ {column value}, (column, value) ∈ table.schema.columns.zip row → column.Admits value := by
    simp only [forM_eq_ok, checkCell_ok, Prod.forall]
  unfold insert
  rw [List.forall₂_iff_zip]
  split
  · rename_i size
    simp only [reduceCtorEq, false_iff]
    exact fun stored => size stored.1.1.symm
  · rename_i size
    constructor
    · intro done
      obtain ⟨_, admitted, remaining⟩ := bind_eq_ok.mp done
      obtain ⟨_, taken, last⟩ := bind_eq_ok.mp remaining
      cases last
      exact ⟨⟨(not_not.mp size).symm, cells.mp admitted⟩, checkKey_ok.mp taken, rfl⟩
    · rintro ⟨⟨_, admitted⟩, taken, rfl⟩
      rw [cells.mpr admitted, ok_bind, checkKey_ok.mpr taken]
      rfl

/-- Making room for a row only grows the columns. -/
theorem fit_columns_grow {columns : List Column} {row : Row}
    (size : columns.length = row.length) :
    List.Forall₂ Column.Grows columns (List.zipWith Column.fit columns row) := by
  induction columns generalizing row with
  | nil => exact .nil
  | cons column others ih =>
      cases row with
      | nil => cases size
      | cons value rest => exact .cons (column.fit_grows value) (ih (Nat.succ.inj size))

/-- A property of cells that width does not harm goes from the stored rows and the new one to all
rows. -/
theorem every_extended {Cell : Column → Value → Prop} {table : Table} {row : Row}
    (steady : Column.Steady Cell) (every : table.Every Cell)
    (added : List.Forall₂ Cell (List.zipWith Column.fit table.schema.columns row) row)
    (size : table.schema.columns.length = row.length) : (table.extended row).Every Cell := by
  intro other present
  rcases List.mem_append.mp present with stored | new
  · exact steady.cells (fit_columns_grow size) (every other stored)
  · rw [List.mem_singleton.mp new]
    exact added

theorem size_extended {table : Table} {row : Row}
    (size : table.schema.columns.length = row.length) :
    (table.extended row).schema.size = table.schema.size := by
  simp [extended, Schema.size, size]

theorem literal_null (type : DataType) : type.literal? "NULL" = some .null := by
  unfold DataType.literal?
  rw [if_pos (by decide)]

/-- A slot is filled with a value that its column reads. -/
theorem fillSlot_reads {schema : Schema} {slots filled : List (Option Value)}
    {entry : Nat × String} (done : fillSlot schema slots entry = .ok filled)
    (reads : List.Forall₂ (fun column slot => ∀ value ∈ slot, Column.Reads column value)
      schema.columns slots) :
    List.Forall₂ (fun column slot => ∀ value ∈ slot, Column.Reads column value)
      schema.columns filled := by
  unfold fillSlot at done
  split at done
  · cases done
    exact reads
  · rename_i column found
    split at done
    · cases done
    · obtain ⟨value, read, last⟩ := bind_eq_ok.mp done
      cases last
      apply Column.cells_set reads
      intro other same stored present
      rw [found] at same
      cases same
      cases present
      exact ⟨entry.2, DataType.readLiteral_ok.mp read⟩

theorem fillSlot_length {schema : Schema} {slots filled : List (Option Value)}
    {entry : Nat × String} (done : fillSlot schema slots entry = .ok filled) :
    filled.length = slots.length := by
  unfold fillSlot at done
  split at done
  · cases done
    rfl
  · split at done
    · cases done
    · obtain ⟨value, _, last⟩ := bind_eq_ok.mp done
      cases last
      exact List.length_set

/-- A slot that is filled is not filled again. -/
theorem fillSlot_keeps {schema : Schema} {slots filled : List (Option Value)}
    {entry : Nat × String} {position : Nat} {value : Value}
    (done : fillSlot schema slots entry = .ok filled)
    (here : slots[position]? = some (some value)) : filled[position]? = some (some value) := by
  unfold fillSlot at done
  split at done
  · cases done
    exact here
  · split at done
    · cases done
    · rename_i free
      obtain ⟨other, _, last⟩ := bind_eq_ok.mp done
      cases last
      have apart : entry.1 ≠ position := by
        rintro rfl
        rw [here] at free
        exact free rfl
      rw [List.getElem?_set_ne apart]
      exact here

/-- The filled slot has the value that its column reads from the text. -/
theorem fillSlot_at {schema : Schema} {slots filled : List (Option Value)} {position : Nat}
    {text : String} {column : Column} {value : Value}
    (done : fillSlot schema slots (position, text) = .ok filled)
    (there : schema.columns[position]? = some column)
    (read : column.type.literal? text = some value) (within : position < slots.length) :
    filled[position]? = some (some value) := by
  unfold fillSlot at done
  simp only [there, DataType.readLiteral_ok.mpr read, ok_bind] at done
  split at done
  · cases done
  · cases done
    exact List.getElem?_set_self within

/-- Every slot that is named holds its literal in the end. -/
theorem fillSlots_at {schema : Schema} {slots filled : List (Option Value)}
    {entries : List (Nat × String)} {position : Nat} {text : String} {column : Column}
    {value : Value} (done : entries.foldlM (fillSlot schema) slots = .ok filled)
    (given : (position, text) ∈ entries) (there : schema.columns[position]? = some column)
    (read : column.type.literal? text = some value) (within : position < slots.length) :
    filled[position]? = some (some value) := by
  obtain ⟨front, back, rfl⟩ := List.append_of_mem given
  -- The slot is filled when its entry comes, and none of the later entries changes it.
  rw [List.foldlM_append] at done
  obtain ⟨before, early, rest⟩ := bind_eq_ok.mp done
  rw [List.foldlM_cons] at rest
  obtain ⟨after, set, late⟩ := bind_eq_ok.mp rest
  have size : before.length = slots.length :=
    foldlM_keeps
      (fun _ _ _ _ stepped same => (fillSlot_length stepped).trans same) early rfl
  have here := fillSlot_at set there read (size ▸ within)
  exact foldlM_keeps (fun _ _ _ _ stepped kept => fillSlot_keeps stepped kept) late here

/-- A row of literals is inserted from slots, and an empty slot is null. -/
theorem addRow_slots {table changed : Table} {values : List String}
    {names : Option (List String)} (done : table.addRow values names = .ok changed) :
    ∃ positions slots, table.schema.positions names = .ok positions ∧
      (positions.zip values).foldlM (fillSlot table.schema)
        (List.replicate table.schema.size none) = .ok slots ∧
      table.insert (slots.map (·.getD .null)) = .ok changed := by
  unfold addRow at done
  obtain ⟨positions, placed, counted⟩ := bind_eq_ok.mp done
  split at counted
  · cases counted
  · obtain ⟨slots, filled, stored⟩ := bind_eq_ok.mp counted
    exact ⟨positions, slots, placed, filled, stored⟩

/-- A row of literals holds a literal of its type in every column. -/
theorem addRow_ok {table changed : Table} {values : List String} {names : Option (List String)}
    (done : table.addRow values names = .ok changed) :
    ∃ row, List.Forall₂ Column.Reads table.schema.columns row ∧ table.insert row = .ok changed := by
  obtain ⟨positions, slots, _, filled, stored⟩ := addRow_slots done
  refine ⟨slots.map (·.getD .null), ?_, stored⟩
  have empty : List.Forall₂ (fun column slot => ∀ value ∈ slot, Column.Reads column value)
      table.schema.columns (List.replicate table.schema.size none) := by
    rw [List.forall₂_iff_zip]
    refine ⟨List.length_replicate.symm, ?_⟩
    intro column slot member value present
    rw [List.eq_of_mem_replicate (List.of_mem_zip member).2] at present
    cases present
  have reads := foldlM_keeps (fun _ _ _ _ => fillSlot_reads) filled empty
  rw [List.forall₂_map_right_iff]
  refine reads.imp ?_
  intro column slot read
  cases slot with
  | none => exact ⟨"NULL", literal_null column.type⟩
  | some value => exact read value rfl

/-- The new row holds every literal that is given, in the place of its column. -/
theorem addRow_at {table changed : Table} {values : List String} {names : Option (List String)}
    {positions : List Nat} {position : Nat} {text : String} {column : Column} {value : Value}
    (done : table.addRow values names = .ok changed)
    (placed : table.schema.positions names = .ok positions)
    (given : (position, text) ∈ positions.zip values)
    (there : table.schema.columns[position]? = some column)
    (read : column.type.literal? text = some value) :
    ∃ row, changed = table.extended row ∧ row.at position = value := by
  obtain ⟨_, slots, again, filled, stored⟩ := addRow_slots done
  obtain rfl := Except.ok.inj (placed.symm.trans again)
  obtain ⟨_, _, written⟩ := insert_ok.mp stored
  refine ⟨_, written, ?_⟩
  have within : position < table.schema.size := (List.getElem?_eq_some_iff.mp there).1
  have slot := fillSlots_at filled given there read (by simpa using within)
  rw [Row.at, List.getD_eq_getElem?_getD, List.getElem?_map, slot]
  rfl

/-- A table stays sound when a row is inserted. -/
theorem insert_sound {table changed : Table} {row : Row} (sound : table.Sound)
    (stored : table.insert row = .ok changed) : changed.Sound := by
  obtain ⟨admitted, taken, rfl⟩ := insert_ok.mp stored
  have size := admitted.length_eq
  refine ⟨Column.forall_of_grow Column.owned_steady (fit_columns_grow size) sound.owned, ?_, ?_, ?_⟩
  · intro key keyed
    rw [size_extended size]
    exact sound.keyed key keyed
  · exact every_extended Column.admits_steady sound.admitted
      (Column.admits_steady.cells (fit_columns_grow size) admitted) size
  · refine distinctKeys_iff.mpr fun key keyed => ?_
    have old := distinctKeys_iff.mp sound.distinct key keyed
    refine List.pairwise_append.mpr ⟨old, List.pairwise_singleton _ _, ?_⟩
    intro other present new member shared
    rw [List.mem_singleton.mp member] at shared
    exact taken key keyed other present shared.symm

end TableStore.Table
