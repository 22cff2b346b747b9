/-
This file proves that a join on a key keeps the size of the left table.
No two rows of a stored table share a key, so the join looks up one row at most for each row of the
left table, also where the two columns hold floating point numbers of different widths.
-/

import TableStore.Proofs.Database.Soundness
import TableStore.Proofs.Table.Alignment
import TableStore.Proofs.Table.Pairing
import TableStore.Proofs.Value.Standing

namespace TableStore

/-- Where no two items are chosen together, the chosen items are the first one, if any. -/
theorem filter_of_pairwise {α : Type} {chosen : α → Bool} {items : List α}
    (single : items.Pairwise fun first second => ¬ (chosen first = true ∧ chosen second = true)) :
    items.filter chosen = (items.find? chosen).toList := by
  induction items with
  | nil => rfl
  | cons item rest ih =>
      obtain ⟨apart, others⟩ := List.pairwise_cons.mp single
      cases taken : chosen item with
      | false =>
          rw [List.filter_cons_of_neg (by simp [taken]), List.find?_cons_of_neg (by simp [taken]),
            ih others]
      | true =>
          have none : rest.filter chosen = [] :=
            List.filter_eq_nil_iff.mpr fun other present also => apart other present ⟨taken, also⟩
          rw [List.filter_cons_of_pos taken, List.find?_cons_of_pos taken, none]
          rfl

namespace Table

variable {left right : Table} {leftName rightName : String} {leftPosition key : Nat}

/-- Rows of a sound table that meet the same row share their key, unless that row holds null. -/
theorem Sound.sharesKey (sound : right.Sound) (keyed : right.primaryKey = some key)
    {row first second : Row} (present : row.at leftPosition ≠ .null)
    (stored : first ∈ right.rows) (also : second ∈ right.rows)
    (one : meets leftPosition key row first = true)
    (other : meets leftPosition key row second = true) : Row.SharesKey key first second := by
  have within := sound.keyed key keyed
  have found := List.getElem?_eq_getElem within
  have here := Row.at_of_cells (sound.admitted first stored) found
  have there := Row.at_of_cells (sound.admitted second also) found
  exact Value.same_of_equals here.accepted there.accepted present one other

/-- A row that does not hold null meets one row at most by its key. -/
theorem Sound.matching_eq (sound : right.Sound) (keyed : right.primaryKey = some key) {row : Row}
    (present : row.at leftPosition ≠ .null) :
    matching leftPosition key right.rows row =
      (right.rows.find? (meets leftPosition key row)).toList := by
  have distinct := distinctKeys_iff.mp sound.distinct key keyed
  apply filter_of_pairwise
  apply distinct.imp_of_mem
  intro first second stored also apart both
  exact apart (sound.sharesKey keyed present stored also both.1 both.2)

/-- A join on a key looks up one row at most for each left row. -/
theorem Sound.joinWith_eq (sound : right.Sound)
    (leftFound : left.schema.resolve leftName = .ok leftPosition)
    (rightFound : right.schema.resolve rightName = .ok key) (keyed : right.primaryKey = some key)
    (present : ∀ row ∈ left.rows, row.at leftPosition ≠ .null) (keepUnmatched : Bool) :
    joinWith keepUnmatched left right leftName rightName =
      .ok ⟨left.name ++ "_" ++ right.name, left.schema.merge right.schema, none,
        left.rows.flatMap fun row => joinRow keepUnmatched right.schema.size
          (right.rows.find? (meets leftPosition key row)).toList row⟩ := by
  have rows : (left.rows.flatMap fun row => joinRow keepUnmatched right.schema.size
      (matching leftPosition key right.rows row) row) =
        left.rows.flatMap fun row => joinRow keepUnmatched right.schema.size
          (right.rows.find? (meets leftPosition key row)).toList row := by
    apply List.flatMap_congr
    intro row stored
    rw [sound.matching_eq keyed (present row stored)]
  rw [joinWith, leftFound, ok_bind, rightFound, ok_bind, rows]
  rfl

/-- Where unmatched rows are kept, a row that finds nothing stands in front of nulls. -/
theorem joinRow_true_toList (size : Nat) (found : Option Row) (row : Row) :
    joinRow true size found.toList row = [row ++ found.getD (List.replicate size .null)] := by
  cases found <;> rfl

/-- Without a filler, a row is joined with its match or not at all. -/
theorem joinRow_false_toList (size : Nat) (found : Option Row) (row : Row) :
    joinRow false size found.toList row = (found.map (row ++ ·)).toList := by
  cases found <;> rfl

end Table

namespace Database

/-- A join on a key keeps the size of the left table. After any requests in any order, let the right
column of a join be the key of a stored table, and let no row of the left table hold null in its
column, of whatever type. Then each left row has one match at most. The left join has one row for
each left row in the same order, which begins with the left row and goes on with its match or with
nulls. The inner join has the left rows with a match, so it is not longer. -/
theorem keyed_join_keeps_size (name : String) (precedences : Precedences)
    (requests : List Request) {left right : Table}
    (leftStored : left ∈ ((fresh name precedences).serveAll requests).catalog.tables)
    (rightStored : right ∈ ((fresh name precedences).serveAll requests).catalog.tables)
    {leftName rightName : String} {leftPosition key : Nat}
    (leftFound : left.schema.resolve leftName = .ok leftPosition)
    (rightFound : right.schema.resolve rightName = .ok key) (keyed : right.primaryKey = some key)
    (present : ∀ row ∈ left.rows, row.at leftPosition ≠ .null) :
    let meets (row other : Row) : Bool := (row.at leftPosition).equals (other.at key)
    (∀ row ∈ left.rows, right.rows.countP (meets row) ≤ 1) ∧
      ∃ inner outer : Table,
        left.innerJoin right leftName rightName = .ok inner ∧
        left.leftJoin right leftName rightName = .ok outer ∧
        outer.rows.length = left.rows.length ∧
        outer.rows.map (List.take left.schema.size) = left.rows ∧
        inner.rows.length ≤ left.rows.length ∧
        (outer.rows = left.rows.map fun row => row ++
          (right.rows.find? (meets row)).getD (List.replicate right.schema.size .null)) ∧
        inner.rows = left.rows.filterMap fun row =>
          (right.rows.find? (meets row)).map (row ++ ·) := by
  intro meets
  have all := serveAll_all (all_fresh name precedences) requests
  have leftSound := all left leftStored
  have sound := all right rightStored
  have done := sound.joinWith_eq leftFound rightFound keyed present
  have outer : (left.rows.flatMap fun row => Table.joinRow true right.schema.size
      (right.rows.find? (meets row)).toList row) = left.rows.map fun row => row ++
        (right.rows.find? (meets row)).getD (List.replicate right.schema.size .null) := by
    simp only [Table.joinRow_true_toList, List.map_eq_flatMap]
  have inner : (left.rows.flatMap fun row => Table.joinRow false right.schema.size
      (right.rows.find? (meets row)).toList row) = left.rows.filterMap fun row =>
        (right.rows.find? (meets row)).map (row ++ ·) := by
    simp only [Table.joinRow_false_toList, List.filterMap_eq_flatMap_toList]
  refine ⟨?_, _, _, done false, done true, ?_, ?_, ?_, outer, inner⟩
  · intro row stored
    have single := sound.matching_eq keyed (present row stored)
    rw [List.countP_eq_length_filter]
    exact Nat.le_trans (Nat.le_of_eq (congrArg List.length single)) Option.length_toList_le
  · exact (congrArg List.length outer).trans (List.length_map _)
  · refine (congrArg (List.map (List.take left.schema.size)) outer).trans ?_
    rw [List.map_map, List.map_congr_left, List.map_id]
    intro row stored
    exact List.take_left' (leftSound.admitted row stored).length_eq.symm
  · exact Nat.le_trans (Nat.le_of_eq (congrArg List.length inner)) (List.length_filterMap_le _ _)

/-- A zero of the wide width finds the other zero of the narrow one, twice, and an infinity finds
nothing. -/
theorem keyed_join_keeps_size_zeros :
    let requests : List Request := [.statement "CREATE TABLE k (id FLOAT, tag INT);",
      .statement "CREATE TABLE t (id INT, x DOUBLE);",
      .insert "k" [.float (.infinite true), .int 1],
      .insert "k" [.float (.zero .single true), .int 2],
      .insert "t" [.null, .double (.zero .double false)],
      .insert "t" [.null, .double (.infinite false)],
      .insert "t" [.null, .double (.zero .double false)]]
    let database := (fresh "D" .standard).serveAll requests
    ∃ left right outer : Table, left ∈ database.catalog.tables ∧ right ∈ database.catalog.tables ∧
      left.schema.resolve "x" = .ok 1 ∧ right.schema.resolve "k.id" = .ok 0 ∧
      right.primaryKey = some 0 ∧ (∀ row ∈ left.rows, row.at 1 ≠ .null) ∧
      left.leftJoin right "x" "k.id" = .ok outer ∧
      outer.rows = [
        [.null, .double (.zero .double false), .float (.zero .single true), .int 2],
        [.null, .double (.infinite false), .null, .null],
        [.null, .double (.zero .double false), .float (.zero .single true), .int 2]] := by
  intro requests database
  let column (name table : String) (type : DataType) (width : Nat) : Column :=
    ⟨name, table, type, false, width, none⟩
  let left : Table := ⟨"t", ⟨[column "id" "t" .int 4, column "x" "t" .double 4]⟩, some 0,
    [[.null, .double (.zero .double false)], [.null, .double (.infinite false)],
      [.null, .double (.zero .double false)]]⟩
  let right : Table := ⟨"k", ⟨[column "id" "k" .float 4, column "tag" "k" .int 4]⟩, some 0,
    [[.float (.infinite true), .int 1], [.float (.zero .single true), .int 2]]⟩
  have leftStored : left ∈ database.catalog.tables := by decide +kernel
  have rightStored : right ∈ database.catalog.tables := by decide +kernel
  have leftFound : left.schema.resolve "x" = .ok 1 := by decide +kernel
  have rightFound : right.schema.resolve "k.id" = .ok 0 := by decide +kernel
  have present : ∀ row ∈ left.rows, row.at 1 ≠ .null := by decide +kernel
  obtain ⟨_, _, outer, _, joined, _, _, _, rows, _⟩ := keyed_join_keeps_size "D" .standard requests
    leftStored rightStored leftFound rightFound rfl present
  exact ⟨left, right, outer, leftStored, rightStored, leftFound, rightFound, rfl, present, joined,
    rows.trans (by decide +kernel)⟩

end Database

end TableStore
