/-
This file turns joined tables around.
The columns of two tables in the other order are the same columns at other positions, and nested
loops in the other order find the same rows, although in another order.
-/

import Mathlib.Data.List.Perm.Basic
import Mathlib.Data.List.Rotate
import TableStore.Join
import TableStore.Proofs.Condition.Moved
import TableStore.Proofs.Schema.Resolution
import TableStore.Proofs.Table.Change
import TableStore.Proofs.Value.Standing

namespace TableStore

/-- The position of an item of two lists when the second one comes first. -/
def turn (front back position : Nat) : Nat :=
  if position < front then position + back
  else if position < front + back then position - front
  else position

/-- Both orders of two lists have the same items at the turned positions. -/
theorem getElem?_turn {α : Type} (front back : List α) (position : Nat) :
    (back ++ front)[turn front.length back.length position]? = (front ++ back)[position]? := by
  unfold turn
  split
  · rename_i within
    rw [List.getElem?_append_right (Nat.le_add_left _ _), Nat.add_sub_cancel,
      List.getElem?_append_left within]
  · rename_i past
    rw [List.getElem?_append_right (Nat.not_lt.mp past)]
    split
    · rw [List.getElem?_append_left (by omega)]
    · rw [List.getElem?_eq_none (by simp; omega), List.getElem?_eq_none (by omega)]

/-- A row joined the other way round has its values at the turned positions. -/
theorem Row.moves_turn (row other : Row) :
    Row.Moves (turn row.length other.length) (row ++ other) (other ++ row) := by
  intro position
  simp only [Row.at, List.getD_eq_getElem?_getD, getElem?_turn]

/-- The columns of a merged schema are found in the other order by all names that do not find one on
both sides. -/
theorem Schema.moves_turn {left right : Schema} {names : List String}
    (apart : ∀ name ∈ names, left.indexOf? name = none ∨ right.indexOf? name = none) :
    Schema.Moves (turn left.size right.size) (left.merge right) (right.merge left) names := by
  refine ⟨?_, getElem?_turn left.columns right.columns⟩
  intro name named
  rw [indexOf?_merge, indexOf?_merge]
  rcases apart name named with missing | missing
  · rw [missing, Option.none_or, Option.map_none, Option.or_none, Option.map_map]
    cases found : right.indexOf? name with
    | none => rfl
    | some position =>
        have within := indexOf?_lt found
        simp only [Option.map_some, Function.comp_apply, turn, Option.some.injEq]
        rw [if_neg (by omega), if_pos (by omega), Nat.add_sub_cancel]
  · rw [missing, Option.none_or, Option.map_none, Option.or_none]
    cases found : left.indexOf? name with
    | none => rfl
    | some position => simp [turn, indexOf?_lt found]

/-- Results have the same columns and widths, and the same rows in some order. -/
structure ResultSet.Reorders (first second : ResultSet) : Prop where
  columns : second.columns = first.columns
  widths : second.widths = first.widths
  rows : second.rows.Perm first.rows

/-- Both queries have results, which are the same up to the order of the rows, or both fail with the
same fault. -/
inductive Reordered : Except Fault ResultSet → Except Fault ResultSet → Prop where
  | done {first second : ResultSet} (reorders : first.Reorders second) :
      Reordered (.ok first) (.ok second)
  | failed (cause : Fault) : Reordered (.error cause) (.error cause)

namespace Table

/-- A query on moved columns selects the moved rows. -/
theorem select_moved {move : Nat → Nat} {first second : Table} {names : List String}
    {condition : Condition} (moves : Schema.Moves move first.schema second.schema
      (names ++ condition.references)) {changed : Row → Row}
    (each : ∀ row ∈ first.rows, Row.Moves move row (changed row))
    (rows : second.rows.Perm (first.rows.map changed)) :
    Reordered (first.select (some names) condition) (second.select (some names) condition) := by
  have placed : second.schema.positions (some names) =
      (first.schema.positions (some names)).map (List.map move) :=
    mapM_map_eq fun name named => Schema.resolve_moved moves (List.mem_append_left _ named)
  have bound : condition.bind second.schema =
      (condition.bind first.schema).map (BoundCondition.moved move) :=
    Condition.bind_moved ⟨fun name named => moves.found name (List.mem_append_right _ named),
      moves.columns⟩
  rw [select_eq, select_eq, placed, bound]
  cases first.schema.positions (some names) with
  | error cause => exact .failed cause
  | ok positions =>
      cases condition.bind first.schema with
      | error cause => exact .failed cause
      | ok bound =>
          have columns : (positions.map move).filterMap (second.schema.columns[·]?) =
              positions.filterMap (first.schema.columns[·]?) := by
            rw [List.filterMap_map]
            exact List.filterMap_congr fun position _ => moves.columns position
          refine .done ⟨?_, ?_, ?_⟩
          · exact congrArg (List.map (·.name)) columns
          · exact congrArg (List.map (·.width)) columns
          · refine ((rows.filter (bound.moved move).accepts).map
              fun row => (positions.map move).map row.at).trans (.of_eq ?_)
            rw [List.filter_map, List.map_map]
            have accepted : first.rows.filter ((bound.moved move).accepts ∘ changed) =
                first.rows.filter bound.accepts :=
              List.filter_congr fun row stored => bound.accepts_moved (each row stored)
            rw [accepted]
            apply List.map_congr_left
            intro row taken
            rw [Function.comp_apply, List.map_map]
            exact List.map_congr_left fun position _ =>
              each row (List.mem_of_mem_filter taken) position

/-- Nested loops in the other order go through the same pairs. -/
theorem flatMap_flatMap_perm {α β γ : Type} (rows : List α) (others : List β)
    (both : α → β → List γ) :
    (rows.flatMap fun row => others.flatMap (both row)).Perm
      (others.flatMap fun other => rows.flatMap fun row => both row other) := by
  induction rows with
  | nil => simp
  | cons row rest ih =>
      have first : (others.flatMap (both row) ++
          others.flatMap fun other => rest.flatMap fun row => both row other).Perm
            (others.flatMap fun other => (row :: rest).flatMap fun row => both row other) := by
        simp only [List.flatMap_cons]
        exact List.flatMap_append_perm others _ _
      rw [List.flatMap_cons]
      exact (ih.append_left _).trans first

/-- The matches of a row in front of it, as a loop over the right rows. -/
theorem joinRow_eq_flatMap (leftPosition rightPosition size : Nat) (right : List Row) (row : Row) :
    joinRow false size (matching leftPosition rightPosition right row) row =
      right.flatMap fun other =>
        if (row.at leftPosition).equals (other.at rightPosition) then [row ++ other] else [] := by
  rw [joinRow, Bool.false_and, if_neg (by decide), matching]
  induction right with
  | nil => rfl
  | cons other rest ih =>
      rw [List.flatMap_cons, ← ih, List.filter_cons]
      split <;> rfl

/-- The rows of an inner join in the other order are its rows turned around, in some order. -/
theorem innerRows_perm (leftPosition rightPosition leftSize rightSize : Nat) {left : List Row}
    (sizes : ∀ row ∈ left, row.length = leftSize) (right : List Row) :
    (right.flatMap fun other => joinRow false leftSize
        (matching rightPosition leftPosition left other) other).Perm
      ((left.flatMap fun row => joinRow false rightSize
        (matching leftPosition rightPosition right row) row).map (·.rotate leftSize)) := by
  simp only [joinRow_eq_flatMap, List.map_flatMap]
  refine (flatMap_flatMap_perm right left _).trans (.of_eq ?_)
  apply List.flatMap_congr
  intro row stored
  apply List.flatMap_congr
  intro other _
  rw [Value.equals_comm]
  split
  · rw [List.map_singleton, ← sizes row stored, List.rotate_append_length_eq]
  · rfl

/-- A query on an inner join has the same result in the other order, when each name that it looks up
is a column of one table at most. It fails with the same fault too, unless each side lacks its
column, where the fault names the column of the table that comes first. -/
theorem select_innerJoin_turned {left right : Table}
    (leftSizes : ∀ row ∈ left.rows, row.length = left.schema.size)
    (rightSizes : ∀ row ∈ right.rows, row.length = right.schema.size)
    (leftName rightName : String) {names : List String} {condition : Condition}
    (apart : ∀ name ∈ names ++ condition.references,
      left.schema.indexOf? name = none ∨ right.schema.indexOf? name = none) :
    let first := left.innerJoin right leftName rightName >>= (·.select (some names) condition)
    let second := right.innerJoin left rightName leftName >>= (·.select (some names) condition)
    Reordered first second ∨ first = .error (.logic (.unknownColumn leftName)) ∧
      second = .error (.logic (.unknownColumn rightName)) := by
  intro first second
  cases leftFound : left.schema.resolve leftName with
  | error cause =>
      obtain rfl := Schema.resolve_error leftFound
      cases rightFound : right.schema.resolve rightName with
      | error other =>
          obtain rfl := Schema.resolve_error rightFound
          apply Or.inr
          simp only [first, second, innerJoin, joinWith, leftFound, rightFound, error_bind,
            and_self]
      | ok rightPosition =>
          apply Or.inl
          simp only [first, second, innerJoin, joinWith, leftFound, rightFound, ok_bind, error_bind]
          exact .failed _
  | ok leftPosition =>
      apply Or.inl
      cases rightFound : right.schema.resolve rightName with
      | error cause =>
          simp only [first, second, innerJoin, joinWith, leftFound, rightFound, ok_bind, error_bind]
          exact .failed cause
      | ok rightPosition =>
          simp only [first, second, innerJoin, joinWith, leftFound, rightFound, ok_bind,
            pure_eq_ok]
          refine select_moved (Schema.moves_turn apart) ?_
            (innerRows_perm leftPosition rightPosition _ _ leftSizes right.rows)
          intro joined present
          obtain ⟨row, stored, inside⟩ := List.mem_flatMap.mp present
          obtain ⟨other, found, rfl⟩ := List.mem_map.mp inside
          rw [← leftSizes row stored, ← rightSizes other (List.mem_of_mem_filter found),
            List.rotate_append_length_eq]
          exact row.moves_turn other

end Table

end TableStore
