/-
This file compares a deletion with a selection by the same condition.
Each row of the table is found at its position in exactly one of two lists, the rows that are
selected and the rows that are left.
-/

import TableStore.Proofs.Database.Soundness
import TableStore.Proofs.Numbered
import TableStore.Proofs.Table.Guarded

namespace TableStore

/-- Two lists of numbered rows part a list when each of its positions is in exactly one of them,
with the row that stands there. Both are in the order of the positions, and merged by position they
are the list again. -/
structure Parts (rows : List Row) (first second : List (Row × Nat)) : Prop where
  firstInOrder : first.Pairwise fun early late => early.2 < late.2
  secondInOrder : second.Pairwise fun early late => early.2 < late.2
  whole : (first ++ second).Perm rows.zipIdx
  merged : first.merge second (fun one other => one.2 ≤ other.2) = rows.zipIdx

/-- The positions that a property holds of and all others part the rows. -/
theorem parts_filter (rows : List Row) (holds : Row × Nat → Bool) :
    Parts rows (rows.zipIdx.filter holds) (rows.zipIdx.filter fun entry => !holds entry) := by
  have ordered := pairwise_zipIdx rows
  have whole := List.filter_append_perm holds rows.zipIdx
  have weaken : ∀ early late : Row × Nat, early.2 < late.2 → decide (early.2 ≤ late.2) = true :=
    fun early late before => decide_eq_true (Nat.le_of_lt before)
  refine ⟨ordered.filter _, ordered.filter _, whole, ?_⟩
  -- Both sides hold the same entries in the order of their positions, and no position occurs twice.
  have sorted := @List.pairwise_merge (Row × Nat) (fun one other => one.2 ≤ other.2)
    (fun _ _ _ => by simpa using Nat.le_trans) (fun one other => by simpa using Nat.le_total _ _)
    _ _ ((ordered.filter holds).imp (weaken _ _))
    ((ordered.filter fun entry => !holds entry).imp (weaken _ _))
  have same := (List.merge_perm_append fun one other : Row × Nat => one.2 ≤ other.2).trans whole
  refine same.eq_of_pairwise ?_ sorted (ordered.imp (weaken _ _))
  intro one other early late before after
  have position : one.2 = other.2 :=
    Nat.le_antisymm (of_decide_eq_true before) (of_decide_eq_true after)
  have there := List.mem_zipIdx_iff_getElem?.mp (same.subset early)
  rw [position, List.mem_zipIdx_iff_getElem?.mp late, Option.some.injEq] at there
  exact Prod.ext there.symm position

/-- The values at all positions of a row are the row. -/
theorem Row.map_at (row : Row) : (List.range row.length).map row.at = row := by
  apply List.ext_getElem
  · simp
  · intro position _ within
    simp [Row.at, List.getD_eq_getElem?_getD, within]

namespace Condition

/-- The bound terms put the result of the condition on the stack, whatever the stack holds. -/
theorem foldlM_run {condition : Condition} {schema : Schema} {bound : BoundCondition}
    (binds : condition.bind schema = .ok bound) (row : Row) (stack : List Bool) :
    bound.terms.foldlM (BoundTerm.run row) stack = .ok (bound.accepts row :: stack) := by
  have mapped := bind_ok.mp binds
  obtain ⟨formula, written⟩ := condition.exists_formula
  rw [← written] at mapped
  obtain ⟨truth, evaluated, run⟩ := Formula.run_terms row mapped stack
  obtain ⟨result, again, accepted⟩ := evaluate_of_terms binds written row
  rw [evaluated, Except.ok.injEq] at again
  rw [run, again, BoundCondition.accepts, accepted]

/-- The condition with a connective at its end that turns its result around. -/
def denied (condition : Condition) : Condition where
  terms := condition.terms ++ [.connective .not]
  settled := by
    rw [Term.depthAfter, List.foldlM_append]
    exact bind_eq_ok.mpr ⟨1, condition.settled, rfl⟩

/-- A denied condition is bound to the same checks with the negation behind them. -/
theorem denied_bind {condition : Condition} {schema : Schema} {bound : BoundCondition}
    (binds : condition.bind schema = .ok bound) :
    condition.denied.bind schema = .ok ⟨bound.terms ++ [.connective .not]⟩ := by
  exact bind_ok.mpr (mapM_append_eq_ok.mpr ⟨_, _, bind_ok.mp binds, rfl, rfl⟩)

/-- A denied condition accepts exactly the other rows. -/
theorem denied_accepts {condition : Condition} {schema : Schema} {bound : BoundCondition}
    (binds : condition.bind schema = .ok bound) (row : Row) :
    (BoundCondition.mk (bound.terms ++ [.connective .not])).accepts row = !bound.accepts row := by
  rw [BoundCondition.accepts, BoundCondition.evaluate, List.foldlM_append, foldlM_run binds]
  rfl

end Condition

namespace Table

/-- A selection of all columns gives the accepted rows as they are. -/
theorem select_eq_filter {table : Table} (shaped : table.Shaped) {condition : Condition}
    {bound : BoundCondition} (binds : condition.bind table.schema = .ok bound) :
    table.select none condition = .ok ⟨table.schema.columns.map (·.name),
      table.schema.columns.map (·.width), table.rows.filter bound.accepts⟩ := by
  have columns : (List.range table.schema.size).filterMap (table.schema.columns[·]?) =
      table.schema.columns := filterMap_range _
  have rows : (table.rows.filter bound.accepts).map
      (fun row => (List.range table.schema.size).map row.at) = table.rows.filter bound.accepts := by
    conv_rhs => rw [← List.map_id (table.rows.filter bound.accepts)]
    apply List.map_congr_left
    intro row accepted
    rw [← shaped.rows row (List.mem_of_mem_filter accepted)]
    exact row.map_at
  simp only [select_eq, Schema.positions, binds, ok_bind, pure_eq_ok, columns, rows]

/-- A deletion leaves the rows that are not accepted. -/
theorem delete_eq_filter {table : Table} {condition : Condition} {bound : BoundCondition}
    (binds : condition.bind table.schema = .ok bound) :
    table.delete condition = .ok ((table.rows.filter bound.accepts).length,
      { table with rows := table.rows.filter fun row => !bound.accepts row }) := by
  rw [delete, marks_ok.mpr ⟨bound, binds, rfl⟩]
  simp only [ok_bind, pure_eq_ok, marked_map, beq_false, ← List.countP_eq_length_filter,
    List.count, List.countP_map, Function.comp_def, beq_true]

end Table

namespace Database

/-- A deletion takes exactly the rows that a selection by the same condition gives, in every table
of a store that began empty. The rows that are selected and the rows that are left part the rows of
the table by position, so that rows of equal content do not stand in for each other. The deletion
counts the selected rows, nothing is left for it to do a second time, and the rows that are left are
selected by the condition with NOT at its end. Run position by position, with a bit for each row,
both do the same. -/
theorem delete_complements_select (name : String) (precedences : Precedences)
    (requests : List Request) {table : Table}
    (stored : table ∈ ((fresh name precedences).serveAll requests).catalog.tables)
    {condition : Condition} {bound : BoundCondition}
    (binds : condition.bind table.schema = .ok bound) :
    let result (rows : List Row) : ResultSet :=
      ⟨table.schema.columns.map (·.name), table.schema.columns.map (·.width), rows⟩
    ∃ chosen left : List (Row × Nat),
      let rest : Table := { table with rows := left.map Prod.fst }
      Parts table.rows chosen left ∧
      (∀ entry ∈ chosen, bound.evaluate entry.1 = .ok true) ∧
      (∀ entry ∈ left, bound.evaluate entry.1 = .ok false) ∧
      table.select none condition = .ok (result (chosen.map Prod.fst)) ∧
      table.delete condition = .ok (chosen.length, rest) ∧
      table.selectGuarded none condition = .sure (.ok (result (chosen.map Prod.fst))) ∧
      table.deleteGuarded condition = .sure (.ok (chosen.length, rest)) ∧
      rest.delete condition = .ok (0, rest) ∧
      Condition.ofTerms (condition.terms ++ [.connective .not]) = .ok condition.denied ∧
      table.select none condition.denied = .ok (result (left.map Prod.fst)) := by
  intro result
  have shaped := (serveAll_all (all_fresh name precedences) requests table stored).shaped
  have selected := Table.select_eq_filter shaped binds
  have removed := Table.delete_eq_filter binds
  have others := Table.select_eq_filter shaped (Condition.denied_bind binds)
  rw [funext (Condition.denied_accepts binds)] at others
  have chosen := filter_zipIdx table.rows bound.accepts
  have left := filter_zipIdx table.rows fun row => !bound.accepts row
  have count := congrArg List.length chosen
  rw [List.length_map] at count
  rw [← chosen] at selected
  rw [← left, ← count] at removed
  rw [← left] at others
  refine ⟨_, _, parts_filter table.rows fun entry => bound.accepts entry.1, ?_, ?_, selected,
    removed, ?_, ?_, ?_, Condition.ofTerms_ok.mpr rfl, others⟩
  · intro entry present
    rw [Condition.evaluate_eq_accepts binds, (List.mem_filter.mp present).2]
  · intro entry present
    have denied := (Bool.not_eq_true' _).mp (List.mem_filter.mp present).2
    rw [Condition.evaluate_eq_accepts binds, denied]
  · rw [Table.selectGuarded_eq shaped, selected]
  · rw [Table.deleteGuarded_eq shaped, removed]
  · rw [left]
    let rest : Table := { table with rows := table.rows.filter fun row => !bound.accepts row }
    have again : rest.delete condition = _ := Table.delete_eq_filter binds
    simpa [rest, List.filter_filter] using again

/-- Of two equal rows and a third one, the equal ones are taken. -/
theorem delete_complements_select_equal_rows :
    let requests : List Request := [.statement "CREATE TABLE t (id INT, tag INT);",
      .insert "t" [.null, .int 1], .insert "t" [.null, .int 2], .insert "t" [.null, .int 1]]
    let column (name : String) : Column := ⟨name, "t", .int, false, 4, none⟩
    let table : Table := ⟨"t", ⟨[column "id", column "tag"]⟩, some 0,
      [[.null, .int 1], [.null, .int 2], [.null, .int 1]]⟩
    let condition : Condition := ⟨[.leaf (.compare ⟨"tag", false⟩ .equal ⟨"1", false⟩)], rfl⟩
    table ∈ ((fresh "D" .standard).serveAll requests).catalog.tables ∧
      ∃ chosen left, Parts table.rows chosen left ∧
        chosen.map Prod.fst = [[.null, .int 1], [.null, .int 1]] ∧
        left.map Prod.fst = [[.null, .int 2]] ∧
        table.delete condition = .ok (2, { table with rows := [[.null, .int 2]] }) := by
  intro requests column table condition
  have stored : table ∈ ((fresh "D" .standard).serveAll requests).catalog.tables := by
    decide +kernel
  have binds : condition.bind table.schema =
      .ok ⟨[.check (.compare (.column 1) .equal (.literal (.int 1)))]⟩ := by decide +kernel
  have selected : table.select none condition = .ok ⟨["id", "tag"], [4, 4],
      [[.null, .int 1], [.null, .int 1]]⟩ := by decide +kernel
  have removed : table.delete condition = .ok (2, { table with rows := [[.null, .int 2]] }) := by
    decide +kernel
  obtain ⟨chosen, left, parts, _, _, found, taken, _⟩ :=
    delete_complements_select "D" .standard requests stored binds
  rw [selected, Except.ok.injEq, ResultSet.mk.injEq] at found
  rw [removed, Except.ok.injEq, Prod.mk.injEq, Table.mk.injEq] at taken
  exact ⟨stored, chosen, left, parts, found.2.2.symm, taken.2.2.2.2.symm, removed⟩

end Database

end TableStore
