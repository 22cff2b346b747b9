/-
This file says what deletions and updates make of the rows of a table.
An update that passes its check repeats no key, although it looks at the new key alone.
-/

import TableStore.Proofs.Condition.Evaluation
import TableStore.Proofs.Table.Soundness
import TableStore.Table.Change

namespace TableStore.Table

/-- Every row is marked with what the bound condition says of it. -/
theorem marks_ok {table : Table} {condition : Condition} {marks : List Bool} :
    table.marks condition = .ok marks ↔
      ∃ bound, condition.bind table.schema = .ok bound ∧ marks = table.rows.map bound.accepts := by
  constructor
  · intro done
    obtain ⟨bound, binds, marked⟩ := bind_eq_ok.mp done
    rw [Condition.mapM_evaluate binds] at marked
    exact ⟨bound, binds, (Except.ok.inj marked).symm⟩
  · rintro ⟨bound, binds, rfl⟩
    rw [marks, binds, ok_bind, Condition.mapM_evaluate binds]

/-- Each row stands beside what the test says about it. -/
theorem zip_marks (rows : List Row) (accepts : Row → Bool) :
    rows.zip (rows.map accepts) = rows.map fun row => (row, accepts row) := by
  rw [← List.zip_map', List.map_id']

/-- The marked rows are those that the marks were made for. -/
theorem marked_map (rows : List Row) (accepts : Row → Bool) (mark : Bool) :
    marked rows (rows.map accepts) mark = rows.filter fun row => accepts row == mark := by
  rw [marked, zip_marks, List.filter_map, List.map_map]
  simp [Function.comp_def]

/-- A selection finds its columns, binds its condition, and projects the accepted rows. -/
theorem select_eq (table : Table) (names : Option (List String)) (condition : Condition) :
    table.select names condition = do
      let positions ← table.schema.positions names
      let bound ← condition.bind table.schema
      let columns := positions.filterMap (table.schema.columns[·]?)
      return ⟨columns.map (·.name), columns.map (·.width),
        (table.rows.filter bound.accepts).map fun row => positions.map row.at⟩ := by
  unfold select marks
  cases table.schema.positions names with
  | error cause => rfl
  | ok positions =>
      cases binds : condition.bind table.schema with
      | error cause => rfl
      | ok bound =>
          simp only [ok_bind, Condition.mapM_evaluate binds, marked_map, beq_true]

/-- Every row gets one mark. -/
theorem marks_length {table : Table} {condition : Condition} {marks : List Bool}
    (done : table.marks condition = .ok marks) : marks.length = table.rows.length := by
  obtain ⟨bound, _, rfl⟩ := marks_ok.mp done
  exact List.length_map _

/-- The rows with a mark keep their order. -/
theorem marked_sublist {rows : List Row} {marks : List Bool} (size : marks.length = rows.length)
    (mark : Bool) : (marked rows marks mark).Sublist rows := by
  have whole : (rows.zip marks).map Prod.fst = rows := List.map_fst_zip (Nat.le_of_eq size.symm)
  calc (marked rows marks mark).Sublist ((rows.zip marks).map Prod.fst) :=
        List.filter_sublist.map _
    _ = rows := whole

/-- A deletion keeps some of the rows in their order, and all else. -/
theorem delete_ok {table changed : Table} {condition : Condition} {count : Nat}
    (done : table.delete condition = .ok (count, changed)) :
    ∃ rows, rows.Sublist table.rows ∧ changed = { table with rows := rows } := by
  obtain ⟨marks, marked, last⟩ := bind_eq_ok.mp done
  cases last
  exact ⟨_, marked_sublist (marks_length marked) false, rfl⟩

/-- A property of all cells holds of any part of the rows. -/
theorem every_sublist {Cell : Column → Value → Prop} {table : Table} {rows : List Row}
    (kept : rows.Sublist table.rows) (every : table.Every Cell) :
    ({ table with rows := rows } : Table).Every Cell :=
  fun row present => every row (kept.subset present)

/-- A table stays sound when rows are deleted. -/
theorem delete_sound {table changed : Table} {condition : Condition} {count : Nat}
    (sound : table.Sound) (done : table.delete condition = .ok (count, changed)) :
    changed.Sound := by
  obtain ⟨rows, kept, rfl⟩ := delete_ok done
  exact ⟨sound.owned, sound.keyed, every_sublist kept sound.admitted,
    distinctKeys_iff.mpr fun key keyed =>
      (distinctKeys_iff.mp sound.distinct key keyed).sublist kept⟩

/-- An assignment names a column and a literal for it, and null only where that is allowed. -/
structure Assigned (schema : Schema) (assignment : String × String) (target : Nat × Value) :
    Prop where
  named : schema.indexOf? assignment.1 = some target.1
  read : ∃ column, schema.columns[target.1]? = some column ∧
    column.type.literal? assignment.2 = some target.2 ∧
      (column.notNull = true → target.2 ≠ .null)

/-- An assignment is accepted when it is one and its column is not assigned yet. -/
theorem addTarget_ok {schema : Schema} {targets more : List (Nat × Value)}
    {assignment : String × String} :
    addTarget schema targets assignment = .ok more ↔
      ∃ target, Assigned schema assignment target ∧
        (∀ other ∈ targets, other.1 ≠ target.1) ∧ more = targets ++ [target] := by
  constructor
  · intro done
    obtain ⟨position, resolved, placed⟩ := bind_eq_ok.mp done
    have named := Schema.resolve_ok.mp resolved
    by_cases repeated : targets.any (·.1 == position) = true
    · rw [if_pos repeated] at placed
      cases placed
    · rw [if_neg repeated] at placed
      simp only [List.any_eq_true, beq_iff_eq, not_exists, not_and] at repeated
      have found := List.getElem?_eq_getElem (Schema.indexOf?_lt named)
      rw [found] at placed
      obtain ⟨value, literal, checked⟩ := bind_eq_ok.mp placed
      split at checked
      · cases checked
      · rename_i allowed
        cases checked
        rw [Bool.and_eq_true, Value.isNull_iff] at allowed
        exact ⟨(position, value), ⟨named, _, found, DataType.readLiteral_ok.mp literal,
          fun needed empty => allowed ⟨needed, empty⟩⟩, repeated, rfl⟩
  · rintro ⟨⟨position, value⟩, ⟨named, column, found, literal, allowed⟩, fresh, rfl⟩
    have free : targets.any (·.1 == position) = false := by
      rw [List.any_eq_false]
      exact fun other present => by simpa using fresh other present
    have present : (column.notNull && value.isNull) = false := by
      rw [← Bool.not_eq_true, Bool.and_eq_true, Value.isNull_iff]
      exact fun both => allowed both.1 both.2
    unfold addTarget
    simp only [Schema.resolve_ok.mpr named, ok_bind, free, found,
      DataType.readLiteral_ok.mpr literal, present]
    rfl

/-- The targets are literals for different columns, each admitted by its column. -/
structure Targets (schema : Schema) (targets : List (Nat × Value)) : Prop where
  apart : targets.Pairwise fun first second => first.1 ≠ second.1
  fitting : ∀ target ∈ targets, ∃ column, schema.columns[target.1]? = some column ∧
    column.Reads target.2 ∧ column.Admits target.2

/-- One more accepted assignment goes to a column that has none yet, and fits it. -/
theorem addTarget_targets {schema : Schema} {targets more : List (Nat × Value)}
    {assignment : String × String} (done : addTarget schema targets assignment = .ok more)
    (valid : Targets schema targets) : Targets schema more := by
  obtain ⟨target, ⟨_, column, found, literal, allowed⟩, fresh, rfl⟩ := addTarget_ok.mp done
  constructor
  · refine List.pairwise_append.mpr ⟨valid.apart, List.pairwise_singleton _ _, ?_⟩
    intro other present new last
    rw [List.mem_singleton.mp last]
    exact fresh other present
  · intro other present
    rcases List.mem_append.mp present with old | new
    · exact valid.fitting other old
    · rw [List.mem_singleton.mp new]
      exact ⟨column, found, ⟨assignment.2, literal⟩, DataType.accepts_literal literal, allowed⟩

/-- Assignments that are all accepted give targets for the columns of the table. -/
theorem targets_of_assignments {schema : Schema} {assignments : List (String × String)}
    {targets : List (Nat × Value)}
    (valid : assignments.foldlM (addTarget schema) [] = .ok targets) : Targets schema targets :=
  foldlM_keeps (fun _ _ _ _ => addTarget_targets) valid ⟨.nil, by simp⟩

/-- Every target is a position of the schema. -/
theorem Targets.within {schema : Schema} {targets : List (Nat × Value)}
    (valid : Targets schema targets) : ∀ target ∈ targets, target.1 < schema.size := by
  intro target present
  obtain ⟨_, found, _⟩ := valid.fitting target present
  exact (List.getElem?_eq_some_iff.mp found).1

/-- The columns become wide enough for the targets. -/
def widened (targets : List (Nat × Value)) (schema : Schema) : Schema :=
  targets.foldl (fun schema target => schema.modify target.1 (·.fit target.2)) schema

/-- Making room in one column only grows the columns. -/
theorem modify_grows (columns : List Column) (position : Nat) (value : Value) :
    List.Forall₂ Column.Grows columns (columns.modify position (·.fit value)) := by
  induction columns generalizing position with
  | nil => simp
  | cons column others ih =>
      cases position with
      | zero =>
          rw [List.modify_zero_cons]
          exact .cons (column.fit_grows value) (List.forall₂_same.mpr fun x _ => .refl x)
      | succ later =>
          rw [List.modify_succ_cons]
          exact .cons (.refl column) (ih later)

theorem grows_trans {first second third : List Column}
    (early : List.Forall₂ Column.Grows first second)
    (late : List.Forall₂ Column.Grows second third) : List.Forall₂ Column.Grows first third := by
  induction early generalizing third with
  | nil => exact late
  | cons grows _ ih =>
      cases late with
      | cons again others => exact .cons (grows.trans again) (ih others)

/-- Making room for all targets only grows the columns. -/
theorem widened_grows (targets : List (Nat × Value)) (schema : Schema) :
    List.Forall₂ Column.Grows schema.columns (widened targets schema).columns := by
  induction targets generalizing schema with
  | nil => exact List.forall₂_same.mpr fun x _ => .refl x
  | cons target rest ih =>
      exact grows_trans (modify_grows schema.columns target.1 target.2) (ih _)

theorem grows_at {columns wider : List Column} (grow : List.Forall₂ Column.Grows columns wider)
    {position : Nat} {late : Column} (found : wider[position]? = some late) :
    ∃ early, columns[position]? = some early ∧ early.Grows late := by
  induction grow generalizing position with
  | nil => cases found
  | cons grows _ ih =>
      cases position with
      | zero =>
          cases found
          exact ⟨_, rfl, grows⟩
      | succ earlier => exact ih found

/-- A widened column has room for its target. -/
theorem widened_width {targets : List (Nat × Value)} {schema : Schema} {target : Nat × Value}
    (present : target ∈ targets) {column : Column}
    (found : (widened targets schema).columns[target.1]? = some column) :
    target.2.width ≤ column.width := by
  induction targets generalizing schema with
  | nil => cases present
  | cons first rest ih =>
      rcases List.mem_cons.mp present with rfl | later
      · obtain ⟨early, here, grows⟩ := grows_at (widened_grows rest _) found
        simp only [Schema.modify, List.getElem?_modify_eq, Option.map_eq_map,
          Option.map_eq_some_iff] at here
        obtain ⟨column, _, rfl⟩ := here
        exact Nat.le_trans (column.value_le_fit target.2) grows.width
      · exact ih later found

/-- A row with fitting targets in place fits its columns as before. -/
theorem assign_cells {Cell : Column → Value → Prop} {columns : List Column}
    {targets : List (Nat × Value)}
    (fitting : ∀ target ∈ targets, ∀ column, columns[target.1]? = some column →
      Cell column target.2)
    {row : Row} (cells : List.Forall₂ Cell columns row) :
    List.Forall₂ Cell columns (assign targets row) := by
  induction targets generalizing row with
  | nil => exact cells
  | cons target rest ih =>
      rw [List.forall_mem_cons] at fitting
      exact ih fitting.2 (Column.cells_set cells fitting.1)

/-- A position that is no target keeps its value. -/
theorem assign_at_of_notMem {targets : List (Nat × Value)} {key : Nat}
    (untouched : ∀ target ∈ targets, target.1 ≠ key) (row : Row) :
    (assign targets row).at key = row.at key := by
  induction targets generalizing row with
  | nil => rfl
  | cons target rest ih =>
      rw [List.forall_mem_cons] at untouched
      refine (ih untouched.2 (row.set target.1 target.2)).trans ?_
      unfold Row.at
      rw [List.getD_eq_getElem?_getD, List.getElem?_set_ne untouched.1,
        ← List.getD_eq_getElem?_getD]

/-- Each target is found in its place afterwards. -/
theorem assign_at_of_mem {targets : List (Nat × Value)}
    (apart : targets.Pairwise fun first second => first.1 ≠ second.1) {target : Nat × Value}
    (present : target ∈ targets) {row : Row} (within : target.1 < row.length) :
    (assign targets row).at target.1 = target.2 := by
  induction targets generalizing row with
  | nil => cases present
  | cons first rest ih =>
      obtain ⟨others, later⟩ := List.pairwise_cons.mp apart
      rcases List.mem_cons.mp present with rfl | after
      · refine (assign_at_of_notMem (fun other member => (others other member).symm) _).trans ?_
        unfold Row.at
        rw [List.getD_eq_getElem?_getD, List.getElem?_set_self within]
        rfl
      · exact ih later after (by simpa using within)

/-- The row with the targets in place if it is marked. -/
def reassigned (targets : List (Nat × Value)) (entry : Row × Bool) : Row :=
  if entry.2 then assign targets entry.1 else entry.1

/-- The table after an update of the marked rows. -/
def updated (table : Table) (targets : List (Nat × Value)) (marks : List Bool) : Table :=
  { table with
    schema := if marks.count true > 0 then widened targets table.schema else table.schema
    rows := (table.rows.zip marks).map (reassigned targets) }

/-- An update reads all assignments, marks the rows, and passes its check before it writes. -/
theorem update_eq_ok {table changed : Table} {assignments : List (String × String)}
    {condition : Condition} {count : Nat} :
    table.update assignments condition = .ok (count, changed) ↔
      ∃ targets marks, assignments.foldlM (addTarget table.schema) [] = .ok targets ∧
        table.marks condition = .ok marks ∧ table.checkChange targets marks = .ok () ∧
        count = marks.count true ∧ changed = table.updated targets marks := by
  have written (targets : List (Nat × Value)) (marks : List Bool) :
      List.zipWith (fun row mark => if mark then assign targets row else row) table.rows marks =
        (table.rows.zip marks).map (reassigned targets) := by
    rw [← List.map_uncurry_zip_eq_zipWith]
    rfl
  constructor
  · intro done
    obtain ⟨targets, valid, marking⟩ := bind_eq_ok.mp done
    obtain ⟨marks, marked, checking⟩ := bind_eq_ok.mp marking
    obtain ⟨_, checked, last⟩ := bind_eq_ok.mp checking
    cases last
    refine ⟨targets, marks, valid, marked, checked, rfl, ?_⟩
    rw [written]
    rfl
  · rintro ⟨targets, marks, valid, marked, checked, rfl, rfl⟩
    unfold update
    simp only [valid, marked, checked, ok_bind, written]
    rfl

/-- An update assigns targets to marked rows, and its check has passed. -/
theorem update_ok {table changed : Table} {assignments : List (String × String)}
    {condition : Condition} {count : Nat}
    (done : table.update assignments condition = .ok (count, changed)) :
    ∃ targets marks, Targets table.schema targets ∧ marks.length = table.rows.length ∧
      table.checkChange targets marks = .ok () ∧ changed = table.updated targets marks := by
  obtain ⟨targets, marks, valid, marked, checked, _, written⟩ := update_eq_ok.mp done
  exact ⟨targets, marks, targets_of_assignments valid, marks_length marked, checked, written⟩

/-- An update only grows the columns, and only if it marks a row. -/
theorem updated_grows (table : Table) (targets : List (Nat × Value)) (marks : List Bool) :
    List.Forall₂ Column.Grows table.schema.columns (table.updated targets marks).schema.columns := by
  unfold updated
  split
  · exact widened_grows targets table.schema
  · exact List.forall₂_same.mpr fun x _ => .refl x

/-- A property of cells that width does not harm holds in all rows after an update if it holds of
every literal that its column admits and has room for. -/
theorem every_updated {Cell : Column → Value → Prop} (steady : Column.Steady Cell)
    (given : ∀ column value, column.Reads value → column.Admits value →
      value.width ≤ column.width → Cell column value)
    {table : Table} (every : table.Every Cell) {targets : List (Nat × Value)}
    (valid : Targets table.schema targets) (marks : List Bool) :
    (table.updated targets marks).Every Cell := by
  intro row present
  obtain ⟨⟨old, mark⟩, member, rfl⟩ := List.mem_map.mp present
  obtain ⟨stored, marked⟩ := List.of_mem_zip member
  have kept := steady.cells (updated_grows table targets marks) (every old stored)
  cases mark with
  | false => exact kept
  | true =>
      apply assign_cells _ kept
      intro target chosen column found
      have some : marks.count true > 0 := List.count_pos_iff.mpr marked
      obtain ⟨early, here, grows⟩ := grows_at (updated_grows table targets marks) found
      obtain ⟨known, same, reads, admits⟩ := valid.fitting target chosen
      cases same.symm.trans here
      apply given column target.2 (Column.reads_steady _ _ _ grows reads)
        (Column.admits_steady _ _ _ grows admits)
      apply widened_width chosen
      rwa [updated, if_pos some] at found

/-- A passed check has no new key to care for, or at most one row gets it and no other has it. -/
theorem checkChange_ok {table : Table} {targets : List (Nat × Value)} {marks : List Bool}
    (passed : table.checkChange targets marks = .ok ()) :
    table.newKey? targets = none ∨
      ∃ target, table.newKey? targets = some target ∧ marks.count true ≤ 1 ∧
        (marks.count true = 1 → ∀ other ∈ marked table.rows marks false,
          (other.at target.1).same target.2 = false) := by
  unfold checkChange at passed
  split at passed
  · rename_i none
    exact Or.inl none
  · rename_i position key new
    dsimp only at passed
    split at passed
    · cases passed
    · rename_i free
      simp only [Bool.or_eq_true, Bool.and_eq_true, decide_eq_true_eq, beq_iff_eq,
        List.any_eq_true, not_or, not_and, not_exists] at free
      refine Or.inr ⟨(position, key), new, by omega, ?_⟩
      intro single other member
      exact Bool.eq_false_iff.mpr (free.2 single other member)

/-- Without a new key a row keeps its key or loses it to null. -/
theorem reassigned_at_of_none {table : Table} {targets : List (Nat × Value)}
    (valid : Targets table.schema targets) (kept : table.newKey? targets = none) {key : Nat}
    (keyed : table.primaryKey = some key) {entry : Row × Bool} (within : key < entry.1.length) :
    (reassigned targets entry).at key = entry.1.at key ∨
      (reassigned targets entry).at key = .null := by
  unfold reassigned
  split
  · by_cases assigned : ∃ target ∈ targets, target.1 = key
    · obtain ⟨target, present, rfl⟩ := assigned
      rw [newKey?, keyed, Option.bind_some, List.find?_eq_none] at kept
      have null := kept target present
      rw [Bool.and_eq_true, not_and, Bool.not_eq_true', Value.isNull_eq_false] at null
      rw [assign_at_of_mem valid.apart present within]
      exact Or.inr (not_not.mp (null (beq_self_eq_true _)))
    · exact Or.inl (assign_at_of_notMem
        (fun target present same => assigned ⟨target, present, same⟩) entry.1)
  · exact Or.inl rfl

/-- A new key is the target of the key column, and not null. -/
theorem newKey?_eq_some {table : Table} {targets : List (Nat × Value)} {target : Nat × Value}
    (new : table.newKey? targets = some target) :
    table.primaryKey = some target.1 ∧ target ∈ targets ∧ target.2 ≠ .null := by
  obtain ⟨key, keyed, found⟩ := Option.bind_eq_some_iff.mp new
  have same := List.find?_some found
  rw [Bool.and_eq_true, beq_iff_eq, Bool.not_eq_true', Value.isNull_eq_false] at same
  exact ⟨same.1 ▸ keyed, List.mem_of_find?_eq_some found, same.2⟩

/-- No two rows are marked exactly when at most one is. -/
theorem pairwise_iff_count {marks : List Bool} :
    (marks.Pairwise fun first second => ¬ (first = true ∧ second = true)) ↔
      marks.count true ≤ 1 := by
  induction marks with
  | nil => simp
  | cons mark rest ih =>
      rw [List.pairwise_cons, ih]
      cases mark with
      | false => simp
      | true =>
          rw [List.count_cons_self]
          constructor
          · rintro ⟨others, _⟩
            have none : rest.count true = 0 :=
              List.count_eq_zero.mpr fun present => others true present ⟨rfl, rfl⟩
            omega
          · intro few
            refine ⟨?_, by omega⟩
            rintro other present ⟨_, rfl⟩
            have more : 0 < rest.count true := List.count_pos_iff.mpr present
            omega

/-- Rows stay apart when they are paired with their marks. -/
theorem pairwise_zip_rows {rows : List Row} {marks : List Bool}
    (size : marks.length = rows.length) {Apart : Row → Row → Prop} (apart : rows.Pairwise Apart) :
    (rows.zip marks).Pairwise fun first second => Apart first.1 second.1 := by
  rw [← List.map_fst_zip (Nat.le_of_eq size.symm)] at apart
  exact List.pairwise_map.mp apart

/-- What only depends on the marks can be seen on the marks alone. -/
theorem pairwise_zip_marks {rows : List Row} {marks : List Bool}
    (size : marks.length = rows.length) {Apart : Bool → Bool → Prop} :
    ((rows.zip marks).Pairwise fun first second => Apart first.2 second.2) ↔
      marks.Pairwise Apart := by
  conv_rhs => rw [← List.map_snd_zip (Nat.le_of_eq size), List.pairwise_map]

theorem mem_marked {rows : List Row} {marks : List Bool} {row : Row} {mark : Bool} :
    row ∈ marked rows marks mark ↔ (row, mark) ∈ rows.zip marks := by
  simp [marked]

/-- A row with the new key shares it with no row that is left alone. -/
theorem not_sharesKey_of_new {targets : List (Nat × Value)} {target : Nat × Value}
    (apart : targets.Pairwise fun first second => first.1 ≠ second.1) (present : target ∈ targets)
    {row other : Row} (within : target.1 < row.length)
    (free : (other.at target.1).same target.2 = false) :
    ¬ Row.SharesKey target.1 (reassigned targets (row, true)) (reassigned targets (other, false)) := by
  intro shared
  have same := shared.2
  change ((assign targets row).at target.1).same (other.at target.1) = true at same
  rw [assign_at_of_mem apart present within, Value.same_comm, free] at same
  cases same

/-- Rows that share no key share none after an update without a new key. -/
theorem not_sharesKey_of_kept {table : Table} {targets : List (Nat × Value)}
    (valid : Targets table.schema targets) (kept : table.newKey? targets = none) {key : Nat}
    (keyed : table.primaryKey = some key) {first second : Row × Bool}
    (firstWithin : key < first.1.length) (secondWithin : key < second.1.length)
    (apart : ¬ Row.SharesKey key first.1 second.1) :
    ¬ Row.SharesKey key (reassigned targets first) (reassigned targets second) := by
  intro shared
  have other := Value.not_null_of_same shared.2 shared.1
  have firstKey := (reassigned_at_of_none valid kept keyed firstWithin).resolve_right shared.1
  have secondKey := (reassigned_at_of_none valid kept keyed secondWithin).resolve_right other
  rw [Row.SharesKey, firstKey, secondKey] at shared
  exact apart shared

/-- The rows share no key after an update that gives the new key to at most one of them. -/
theorem pairwise_reassigned {rows : List Row} {marks : List Bool}
    (size : marks.length = rows.length) {targets : List (Nat × Value)} {target : Nat × Value}
    (distinct : targets.Pairwise fun first second => first.1 ≠ second.1) (present : target ∈ targets)
    (within : ∀ entry ∈ rows.zip marks, target.1 < entry.1.length)
    (few : marks.count true ≤ 1) (free : marks.count true = 1 →
      ∀ other ∈ marked rows marks false, (other.at target.1).same target.2 = false)
    (apart : rows.Pairwise fun first second => ¬ Row.SharesKey target.1 first second) :
    (rows.zip marks).Pairwise fun first second =>
      ¬ Row.SharesKey target.1 (reassigned targets first) (reassigned targets second) := by
  have single : ∀ {row : Row}, (row, true) ∈ rows.zip marks → marks.count true = 1 := by
    intro row member
    have some : 0 < marks.count true := List.count_pos_iff.mpr (List.of_mem_zip member).2
    omega
  -- Of two rows at most one is marked, so a new key meets only keys that were kept.
  refine ((pairwise_zip_rows size apart).and
    ((pairwise_zip_marks size).mpr (pairwise_iff_count.mpr few))).imp_of_mem ?_
  rintro ⟨row, mark⟩ ⟨other, otherMark⟩ early late ⟨apart, notBoth⟩
  cases mark with
  | true =>
      cases otherMark with
      | true => exact absurd ⟨rfl, rfl⟩ notBoth
      | false =>
          exact not_sharesKey_of_new distinct present (within _ early)
            (free (single early) other (mem_marked.mpr late))
  | false =>
      cases otherMark with
      | true =>
          intro shared
          exact not_sharesKey_of_new distinct present (within _ late)
            (free (single late) row (mem_marked.mpr early)) shared.symm
      | false => exact apart

/-- An update whose check has passed repeats no key. -/
theorem distinct_updated {table : Table} (sound : table.Sound) {targets : List (Nat × Value)}
    (valid : Targets table.schema targets) {marks : List Bool}
    (size : marks.length = table.rows.length)
    (passed : table.checkChange targets marks = .ok ()) :
    (table.updated targets marks).DistinctKeys := by
  refine distinctKeys_iff.mpr fun key keyed => ?_
  change table.primaryKey = some key at keyed
  have within : ∀ entry ∈ table.rows.zip marks, key < entry.1.length := by
    intro entry member
    rw [← (sound.admitted entry.1 (List.of_mem_zip member).1).length_eq]
    exact sound.keyed key keyed
  have apart := distinctKeys_iff.mp sound.distinct key keyed
  refine List.pairwise_map.mpr ?_
  rcases checkChange_ok passed with kept | ⟨target, new, few, free⟩
  · refine (pairwise_zip_rows size apart).imp_of_mem ?_
    intro first second early late
    exact not_sharesKey_of_kept valid kept keyed (within first early) (within second late)
  · obtain ⟨chosen, present, _⟩ := newKey?_eq_some new
    cases chosen.symm.trans keyed
    exact pairwise_reassigned size valid.apart present within few free apart

/-- A table stays sound when rows are updated. -/
theorem update_sound {table changed : Table} {assignments : List (String × String)}
    {condition : Condition} {count : Nat} (sound : table.Sound)
    (done : table.update assignments condition = .ok (count, changed)) : changed.Sound := by
  obtain ⟨targets, marks, valid, size, passed, rfl⟩ := update_ok done
  have grow := updated_grows table targets marks
  refine ⟨Column.forall_of_grow Column.owned_steady grow sound.owned, ?_, ?_,
    distinct_updated sound valid size passed⟩
  · intro key keyed
    exact Nat.lt_of_lt_of_eq (sound.keyed key keyed) grow.length_eq
  · exact every_updated Column.admits_steady (fun _ _ _ admits _ => admits) sound.admitted valid
      marks

end TableStore.Table
