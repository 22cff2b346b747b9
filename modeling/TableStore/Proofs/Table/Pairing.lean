/-
This file says which rows a join puts together.
The rows of two tables are compared in nested loops, with a bit for each row of the left table that
has met its match. The result lists all pairs of positions that match, each of them once.
-/

import Mathlib.Algebra.GroupWithZero.Nat
import TableStore.Database
import TableStore.Proofs.Numbered
import TableStore.Proofs.Success

namespace TableStore

namespace Table

/-- Rows meet when the values in their columns are equal. -/
def meets (leftPosition rightPosition : Nat) (row other : Row) : Bool :=
  (row.at leftPosition).equals (other.at rightPosition)

/-- A match sets the bit of the left row and is added to the result. -/
def addMatch (leftPosition rightPosition : Nat) (entry : Row × Nat)
    (state : List Bool × List Row) (other : Row) : List Bool × List Row :=
  if meets leftPosition rightPosition entry.1 other then
    (state.1.set entry.2 true, state.2 ++ [entry.1 ++ other])
  else state

/-- All matches of a left row are added, and then the row alone if its bit is not set. -/
def addMatches (keepUnmatched : Bool) (leftPosition rightPosition : Nat) (right : Table)
    (state : List Bool × List Row) (entry : Row × Nat) : List Bool × List Row :=
  let (bits, rows) := right.rows.foldl (addMatch leftPosition rightPosition entry) state
  if keepUnmatched && !bits[entry.2]?.getD false then
    (bits, rows ++ [entry.1 ++ List.replicate right.schema.size .null])
  else (bits, rows)

/-- The join in nested loops over the rows of both tables. -/
def joinLooping (keepUnmatched : Bool) (left right : Table) (leftName rightName : String) :
    Except Fault Table := do
  let leftPosition ← left.schema.resolve leftName
  let rightPosition ← right.schema.resolve rightName
  let (_, rows) := left.rows.zipIdx.foldl
    (addMatches keepUnmatched leftPosition rightPosition right)
    (List.replicate left.rows.length false, [])
  return ⟨left.name ++ "_" ++ right.name, left.schema.merge right.schema, none, rows⟩

/-- The inner loop adds the matches in order, and the bit tells whether there is one. -/
theorem foldl_addMatch (leftPosition rightPosition : Nat) (row : Row) (others : List Row)
    (front rest : List Bool) (bit : Bool) (rows : List Row) :
    others.foldl (addMatch leftPosition rightPosition (row, front.length))
        (front ++ bit :: rest, rows) =
      (front ++ (bit || others.any (meets leftPosition rightPosition row)) :: rest,
        rows ++ (matching leftPosition rightPosition others row).map (row ++ ·)) := by
  induction others generalizing bit rows with
  | nil => simp [matching]
  | cons other others ih =>
      rw [List.foldl_cons]
      have unfolded : matching leftPosition rightPosition (other :: others) row =
          if meets leftPosition rightPosition row other then
            other :: matching leftPosition rightPosition others row
          else matching leftPosition rightPosition others row := List.filter_cons
      rw [unfolded]
      cases met : meets leftPosition rightPosition row other with
      | true =>
          have added : addMatch leftPosition rightPosition (row, front.length)
              (front ++ bit :: rest, rows) other =
                (front ++ true :: rest, rows ++ [row ++ other]) := by
            simp [addMatch, met]
          rw [added, ih]
          simp [met]
      | false =>
          have passed : addMatch leftPosition rightPosition (row, front.length)
              (front ++ bit :: rest, rows) other = (front ++ bit :: rest, rows) := by
            simp [addMatch, met]
          rw [passed, ih]
          simp [met]

/-- One round of the outer loop adds what the join has for the row. -/
theorem addMatches_eq (keepUnmatched : Bool) (leftPosition rightPosition : Nat) (right : Table)
    (row : Row) (front rest : List Bool) (rows : List Row) :
    let found := matching leftPosition rightPosition right.rows row
    addMatches keepUnmatched leftPosition rightPosition right
        (front ++ false :: rest, rows) (row, front.length) =
      (front ++ (!found.isEmpty) :: rest,
        rows ++ joinRow keepUnmatched right.schema.size found row) := by
  intro found
  have any : right.rows.any (meets leftPosition rightPosition row) = !found.isEmpty := by
    rw [Bool.eq_iff_iff]
    simp [found, matching, meets]
  have here : (front ++ (!found.isEmpty) :: rest)[front.length]? = some (!found.isEmpty) := by simp
  unfold addMatches joinRow
  rw [foldl_addMatch, any]
  simp only [Bool.false_or, here, Option.getD_some, Bool.not_not]
  split
  · rename_i alone
    rw [Bool.and_eq_true, List.isEmpty_iff] at alone
    simp [found, alone.2]
  · rfl

/-- The outer loop goes through the left rows, each with a bit of its own. -/
theorem foldl_addMatches (keepUnmatched : Bool) (leftPosition rightPosition : Nat) (right : Table)
    (stored : List Row) (front : List Bool) (rows : List Row) :
    ∃ bits, (stored.zipIdx front.length).foldl
        (addMatches keepUnmatched leftPosition rightPosition right)
        (front ++ List.replicate stored.length false, rows) =
      (bits, rows ++ stored.flatMap fun row => joinRow keepUnmatched right.schema.size
        (matching leftPosition rightPosition right.rows row) row) := by
  induction stored generalizing front rows with
  | nil => exact ⟨front, by simp⟩
  | cons row rest ih =>
      let found := matching leftPosition rightPosition right.rows row
      obtain ⟨bits, later⟩ := ih (front ++ [!found.isEmpty])
        (rows ++ joinRow keepUnmatched right.schema.size found row)
      refine ⟨bits, ?_⟩
      rw [List.length_append, List.length_singleton] at later
      rw [List.zipIdx_cons, List.foldl_cons, List.length_cons, List.replicate_succ, addMatches_eq,
        List.append_cons, later, List.flatMap_cons, List.append_assoc]

/-- The nested loops give the join. -/
theorem joinLooping_eq (keepUnmatched : Bool) (left right : Table) (leftName rightName : String) :
    joinLooping keepUnmatched left right leftName rightName =
      joinWith keepUnmatched left right leftName rightName := by
  unfold joinLooping joinWith
  cases left.schema.resolve leftName with
  | error cause => rfl
  | ok leftPosition =>
      cases right.schema.resolve rightName with
      | error cause => rfl
      | ok rightPosition =>
          obtain ⟨bits, looped⟩ := foldl_addMatches keepUnmatched leftPosition rightPosition right
            left.rows [] []
          simp only [List.nil_append, List.length_nil] at looped
          simp only [ok_bind, looped]

/-- The position of a left row and that of a right row, or none where the left row stands alone. -/
abbrev Pair := Nat × Option Nat

/-- Pairs are ordered by their left positions first. A row that stands alone has no other pair. -/
def Pair.Before (first second : Pair) : Prop :=
  first.1 < second.1 ∨ first.1 = second.1 ∧
    ∃ early late, first.2 = some early ∧ second.2 = some late ∧ early < late

/-- The pairs of a join are all pairs of positions whose rows meet, in order and each of them once.
Where unmatched rows are kept, each left row that meets no right row stands alone once. -/
structure Pairing (keepUnmatched : Bool) (left right : List Row) (meets : Row → Row → Bool)
    (pairs : List Pair) : Prop where
  ordered : pairs.Pairwise Pair.Before
  matched : ∀ position other, (position, some other) ∈ pairs ↔
    ∃ row found, left[position]? = some row ∧ right[other]? = some found ∧
      meets row found = true
  alone : ∀ position, (position, none) ∈ pairs ↔
    keepUnmatched = true ∧ ∃ row, left[position]? = some row ∧
      ∀ found ∈ right, meets row found = false

/-- The left row of a pair with its right row, or with a null for each right column. -/
def pairRow (left right : List Row) (size : Nat) (pair : Pair) : Row :=
  left[pair.1]?.getD [] ++ match pair.2 with
    | some other => right[other]?.getD []
    | none => List.replicate size .null

/-- The pairs of one left row. -/
def pairsOf (keepUnmatched : Bool) (meets : Row → Row → Bool) (right : List Row)
    (entry : Row × Nat) : List Pair :=
  let found := right.zipIdx.filter fun other => meets entry.1 other.1
  if keepUnmatched && found.isEmpty then [(entry.2, none)]
  else found.map fun other => (entry.2, some other.2)

/-- The pairs of all left rows. -/
def pairs (keepUnmatched : Bool) (meets : Row → Row → Bool) (left right : List Row) : List Pair :=
  left.zipIdx.flatMap (pairsOf keepUnmatched meets right)

/-- A left row is paired with exactly the right rows that it meets. -/
theorem some_mem_pairsOf {keepUnmatched : Bool} {meets : Row → Row → Bool} {right : List Row}
    {entry : Row × Nat} {position other : Nat} :
    (position, some other) ∈ pairsOf keepUnmatched meets right entry ↔
      position = entry.2 ∧ ∃ found, right[other]? = some found ∧ meets entry.1 found = true := by
  have paired : (position, some other) ∈
      (right.zipIdx.filter fun found => meets entry.1 found.1).map
        (fun found => (entry.2, some found.2)) ↔
        position = entry.2 ∧ ∃ found, right[other]? = some found ∧ meets entry.1 found = true := by
    simp only [List.mem_map, List.mem_filter, Prod.exists, List.mem_zipIdx_iff_getElem?,
      Prod.mk.injEq, Option.some.injEq]
    constructor
    · rintro ⟨found, index, ⟨there, met⟩, rfl, rfl⟩
      exact ⟨rfl, found, there, met⟩
    · rintro ⟨rfl, found, there, met⟩
      exact ⟨found, other, ⟨there, met⟩, rfl, rfl⟩
  rw [← paired, pairsOf]
  split
  · rename_i alone
    rw [Bool.and_eq_true, List.isEmpty_iff] at alone
    simp [alone.2]
  · rfl

/-- A left row is paired with none exactly when it is kept and meets no right row. -/
theorem none_mem_pairsOf {keepUnmatched : Bool} {meets : Row → Row → Bool} {right : List Row}
    {entry : Row × Nat} {position : Nat} :
    (position, none) ∈ pairsOf keepUnmatched meets right entry ↔
      position = entry.2 ∧ keepUnmatched = true ∧ ∀ found ∈ right, meets entry.1 found = false := by
  have alone : (right.zipIdx.filter fun found => meets entry.1 found.1) = [] ↔
      ∀ found ∈ right, meets entry.1 found = false := by
    rw [← List.map_eq_nil_iff (f := Prod.fst), filter_zipIdx]
    simp
  rw [pairsOf, ← alone]
  cases keepUnmatched with
  | false => simp
  | true =>
      by_cases none : (right.zipIdx.filter fun found => meets entry.1 found.1) = []
      · simp [none]
      · simp [none]

/-- The pairs of a left row begin with its position. -/
theorem fst_of_mem_pairsOf {keepUnmatched : Bool} {meets : Row → Row → Bool} {right : List Row}
    {entry : Row × Nat} {pair : Pair} (present : pair ∈ pairsOf keepUnmatched meets right entry) :
    pair.1 = entry.2 := by
  obtain ⟨position, _ | other⟩ := pair
  · exact (none_mem_pairsOf.mp present).1
  · exact (some_mem_pairsOf.mp present).1

/-- The pairs of a left row follow the order of the right rows. -/
theorem pairwise_pairsOf (keepUnmatched : Bool) (meets : Row → Row → Bool) (right : List Row)
    (entry : Row × Nat) : (pairsOf keepUnmatched meets right entry).Pairwise Pair.Before := by
  unfold pairsOf
  dsimp only
  split
  · exact List.pairwise_singleton _ _
  · rw [List.pairwise_map]
    apply ((pairwise_zipIdx right).filter _).imp
    intro early late before
    exact Or.inr ⟨rfl, _, _, rfl, rfl, before⟩

/-- The pairs of all left rows, one after the other, are a pairing. -/
theorem pairing_pairs (keepUnmatched : Bool) (meets : Row → Row → Bool) (left right : List Row) :
    Pairing keepUnmatched left right meets (pairs keepUnmatched meets left right) := by
  refine ⟨?_, ?_, ?_⟩
  · refine List.pairwise_flatMap.mpr ⟨fun entry _ => pairwise_pairsOf _ _ _ entry, ?_⟩
    apply (pairwise_zipIdx left).imp
    intro early late before first here second there
    rw [← fst_of_mem_pairsOf here, ← fst_of_mem_pairsOf there] at before
    exact Or.inl before
  · intro position other
    simp only [pairs, List.mem_flatMap, Prod.exists, some_mem_pairsOf,
      List.mem_zipIdx_iff_getElem?]
    constructor
    · rintro ⟨row, index, here, rfl, found, there, met⟩
      exact ⟨row, found, here, there, met⟩
    · rintro ⟨row, found, here, there, met⟩
      exact ⟨row, position, here, rfl, found, there, met⟩
  · intro position
    simp only [pairs, List.mem_flatMap, Prod.exists, none_mem_pairsOf,
      List.mem_zipIdx_iff_getElem?]
    constructor
    · rintro ⟨row, index, here, rfl, kept, unmet⟩
      exact ⟨kept, row, here, unmet⟩
    · rintro ⟨kept, row, here, unmet⟩
      exact ⟨row, position, here, rfl, kept, unmet⟩

/-- The joined rows of a left row are those of its pairs. -/
theorem map_pairsOf (keepUnmatched : Bool) (leftPosition rightPosition size : Nat)
    {left right : List Row} {entry : Row × Nat} (there : left[entry.2]? = some entry.1) :
    (pairsOf keepUnmatched (meets leftPosition rightPosition) right entry).map
        (pairRow left right size) =
      joinRow keepUnmatched size (matching leftPosition rightPosition right entry.1) entry.1 := by
  have numbered : (right.zipIdx.filter fun found =>
      meets leftPosition rightPosition entry.1 found.1).map Prod.fst =
        matching leftPosition rightPosition right entry.1 := filter_zipIdx right _
  have empty : (right.zipIdx.filter fun found =>
      meets leftPosition rightPosition entry.1 found.1).isEmpty =
        (matching leftPosition rightPosition right entry.1).isEmpty := by
    rw [← numbered, List.isEmpty_map]
  unfold pairsOf joinRow
  simp only [empty]
  split
  · simp [pairRow, there]
  · rw [← numbered, List.map_map, List.map_map]
    apply List.map_congr_left
    intro found present
    have stored := List.mem_zipIdx_iff_getElem?.mp (List.mem_of_mem_filter present)
    simp [pairRow, there, stored]

/-- The rows of a join are those of its pairs. -/
theorem map_pairRow (keepUnmatched : Bool) (leftPosition rightPosition size : Nat)
    (left right : List Row) :
    (pairs keepUnmatched (meets leftPosition rightPosition) left right).map
        (pairRow left right size) =
      left.flatMap fun row => joinRow keepUnmatched size
        (matching leftPosition rightPosition right row) row := by
  conv_rhs => rw [← List.zipIdx_map_fst 0 left, List.flatMap_map]
  rw [pairs, List.map_flatMap]
  apply List.flatMap_congr
  intro entry present
  exact map_pairsOf keepUnmatched leftPosition rightPosition size
    (List.mem_zipIdx_iff_getElem?.mp present)

/-- Without the rows that stand alone, both kinds of joins have the same pairs. -/
theorem filter_pairs (meets : Row → Row → Bool) (left right : List Row) :
    (pairs true meets left right).filter (·.2.isSome) = pairs false meets left right := by
  rw [pairs, pairs, List.filter_flatMap]
  apply List.flatMap_congr
  intro entry _
  unfold pairsOf
  simp only [Bool.true_and, Bool.false_and, Bool.false_eq_true, if_false]
  split
  · rename_i alone
    rw [List.isEmpty_iff] at alone
    simp [alone]
  · rw [List.filter_map, List.filter_eq_self.mpr]
    exact fun _ _ => rfl

/-- A left row brings its matches, and itself where it has none. -/
theorem count_joinRow (size : Nat) (found : List Row) (row : Row) :
    (joinRow true size found row).length = max 1 found.length := by
  cases found with
  | nil => rfl
  | cons other others => simp [joinRow]

/-- A join is complete and repeats nothing. The inner join and the left join of two tables, by
columns that exist in them, have the rows of all pairs of positions that match, in the order of the
left and then of the right positions. The left join has each left row without a match as well, once
and in front of one null for each right column. So it has at least one row for each left row, as
many as the row has matches, and without the rows that stand alone it is the inner join. The columns
of the result are those of the left table and then those of the right one, and it has no key. The
same tables come from nested loops with a bit for each left row, and no query that joins tables
changes the store. -/
theorem joins_complete {left right : Table} {leftName rightName : String}
    {leftPosition rightPosition : Nat}
    (leftFound : left.schema.resolve leftName = .ok leftPosition)
    (rightFound : right.schema.resolve rightName = .ok rightPosition) :
    let meets (row other : Row) : Bool := (row.at leftPosition).equals (other.at rightPosition)
    let joined (pairs : List Pair) : Table :=
      ⟨left.name ++ "_" ++ right.name, ⟨left.schema.columns ++ right.schema.columns⟩, none,
        pairs.map (pairRow left.rows right.rows right.schema.columns.length)⟩
    ∃ inner outer : List Pair,
      innerJoin left right leftName rightName = .ok (joined inner) ∧
      leftJoin left right leftName rightName = .ok (joined outer) ∧
      joinLooping false left right leftName rightName = .ok (joined inner) ∧
      joinLooping true left right leftName rightName = .ok (joined outer) ∧
      Pairing false left.rows right.rows meets inner ∧
      Pairing true left.rows right.rows meets outer ∧
      outer.filter (·.2.isSome) = inner ∧
      (joined outer).rows.length =
        (left.rows.map fun row => max 1 (right.rows.countP (meets row))).sum ∧
      (∀ position < left.rows.length, ∃ pair ∈ outer, pair.1 = position) ∧
      ∀ (database next : Database) (query : Query) (outcome : Outcome),
        database.run (.select query) = .ok (outcome, next) → next = database := by
  intro meets joined
  have done (keepUnmatched : Bool) : joinWith keepUnmatched left right leftName rightName =
      .ok (joined (pairs keepUnmatched meets left.rows right.rows)) := by
    have rows := map_pairRow keepUnmatched leftPosition rightPosition right.schema.size left.rows
      right.rows
    rw [joinWith, leftFound, ok_bind, rightFound, ok_bind, ← rows]
    rfl
  refine ⟨pairs false meets left.rows right.rows, pairs true meets left.rows right.rows, done false,
    done true, (joinLooping_eq _ _ _ _ _).trans (done false),
    (joinLooping_eq _ _ _ _ _).trans (done true), pairing_pairs _ _ _ _, pairing_pairs _ _ _ _,
    filter_pairs _ _ _, ?_, ?_, ?_⟩
  · have rows := map_pairRow true leftPosition rightPosition right.schema.size left.rows right.rows
    refine (congrArg List.length rows).trans ?_
    simp only [List.length_flatMap, count_joinRow, List.countP_eq_length_filter]
    rfl
  · intro position within
    have paired := pairing_pairs true meets left.rows right.rows
    have here := List.getElem?_eq_getElem within
    by_cases unmet : ∀ found ∈ right.rows, meets left.rows[position] found = false
    · exact ⟨_, (paired.alone position).mpr ⟨rfl, _, here, unmet⟩, rfl⟩
    · simp only [not_forall, Bool.not_eq_false] at unmet
      obtain ⟨found, present, met⟩ := unmet
      obtain ⟨other, inside, rfl⟩ := List.mem_iff_getElem.mp present
      have there := List.getElem?_eq_getElem inside
      exact ⟨_, (paired.matched position other).mpr ⟨_, _, here, there, met⟩, rfl⟩
  · intro database next query outcome ran
    obtain ⟨result, _, last⟩ := bind_eq_ok.mp ran
    cases last
    rfl

/-- A key that stands twice in the right table, null on both sides, and a row without a match. -/
theorem joins_complete_null :
    let left : Table := ⟨"t", ⟨[.fresh "a" "t" .int false]⟩, some 0, [[.int 1], [.null], [.int 2]]⟩
    let right : Table := ⟨"u", ⟨[.fresh "b" "u" .int false, .fresh "c" "u" .bool false]⟩, none,
      [[.int 1, .bool true], [.null, .bool true], [.int 1, .bool false]]⟩
    let meets (row other : Row) : Bool := (row.at 0).equals (other.at 0)
    left.schema.resolve "a" = .ok 0 ∧ right.schema.resolve "u.b" = .ok 0 ∧
      ∃ outer : List Pair, Pairing true left.rows right.rows meets outer ∧ outer.length = 4 ∧
        (0, some 0) ∈ outer ∧ (0, some 2) ∈ outer ∧ (1, some 1) ∈ outer ∧ (2, none) ∈ outer := by
  intro left right meets
  have leftFound : left.schema.resolve "a" = .ok 0 := by decide +kernel
  have rightFound : right.schema.resolve "u.b" = .ok 0 := by decide +kernel
  obtain ⟨_, outer, _, _, _, _, _, paired, _, count, _⟩ := joins_complete leftFound rightFound
  rw [List.length_map] at count
  have matched (position other : Nat) (row found : Row) (here : left.rows[position]? = some row)
      (there : right.rows[other]? = some found) (met : meets row found = true) :
      (position, some other) ∈ outer := (paired.matched _ _).mpr ⟨row, found, here, there, met⟩
  refine ⟨leftFound, rightFound, outer, paired, count.trans (by decide +kernel), ?_, ?_, ?_, ?_⟩
  · exact matched 0 0 _ _ rfl rfl (by decide)
  · exact matched 0 2 _ _ rfl rfl (by decide)
  · exact matched 1 1 _ _ rfl rfl (by decide)
  · exact (paired.alone 2).mpr ⟨rfl, _, rfl, by decide⟩

end Table

end TableStore
