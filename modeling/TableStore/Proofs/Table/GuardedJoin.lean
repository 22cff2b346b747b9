/-
This file joins tables with guarded positions.
The rows of a join are a row of one table in front of a row of the other one or of nulls, so they
have one value per column as well.
-/

import TableStore.Proofs.Table.Guarded

namespace TableStore.Table

open Guarded

/-- A row is added to a result when it has one value per column. -/
def pushGuarded (schema : Schema) (rows : List Row) (row : Row) : Guarded Fault (List Row) :=
  if row.length = schema.size then return rows ++ [row] else ExceptT.mk none

def matchingGuarded (leftPosition rightPosition : Nat) (right : List Row) (row : Row) :
    Guarded Fault (List Row) := do
  let marks ← right.mapM fun other => do
    let own ← look row leftPosition
    return own.equals (← look other rightPosition)
  return marked right marks true

/-- It is noted in the place of a row that it has a match. -/
def noteMatchGuarded (matched : List Bool) (index : Nat) (found : List Row) :
    Guarded Fault (List Bool) :=
  if found.isEmpty then return matched else put matched index true

/-- A row stands alone when there is no note in its place. -/
def aloneGuarded (keepUnmatched : Bool) (matched : List Bool) (index : Nat) : Guarded Fault Bool :=
  if keepUnmatched then return !(← look matched index) else return false

/-- The matches of one row of the left table are added, or the row alone. -/
def joinRowGuarded (keepUnmatched : Bool) (leftPosition rightPosition : Nat) (left right : Table)
    (state : List Bool × List Row) (entry : Row × Nat) : Guarded Fault (List Bool × List Row) := do
  let (matched, rows) := state
  let (row, index) := entry
  let found ← matchingGuarded leftPosition rightPosition right.rows row
  let matched ← noteMatchGuarded matched index found
  let alone ← aloneGuarded keepUnmatched matched index
  let added := found.map (row ++ ·) ++
    if alone then [row ++ List.replicate right.schema.size .null] else []
  return (matched, ← added.foldlM (pushGuarded (left.schema.merge right.schema)) rows)

def joinWithGuarded (keepUnmatched : Bool) (left right : Table) (leftName rightName : String) :
    Guarded Fault Table := do
  let leftPosition ← sure (left.schema.resolve leftName)
  let rightPosition ← sure (right.schema.resolve rightName)
  let (_, rows) ← left.rows.zipIdx.foldlM
    (joinRowGuarded keepUnmatched leftPosition rightPosition left right)
    (List.replicate left.rows.length false, [])
  return ⟨left.name ++ "_" ++ right.name, left.schema.merge right.schema, none, rows⟩

def joinGuarded (kind : JoinKind) (left right : Table) (leftName rightName : String) :
    Guarded Fault Table :=
  match kind with
  | .inner => joinWithGuarded false left right leftName rightName
  | .left => joinWithGuarded true left right leftName rightName
  | .right => joinWithGuarded true right left rightName leftName

/-- Rows are compared at positions that both of them have. -/
theorem matchingGuarded_eq {leftPosition rightPosition : Nat} {right : List Row} {row : Row}
    (within : leftPosition < row.length) (inside : ∀ other ∈ right, rightPosition < other.length) :
    matchingGuarded leftPosition rightPosition right row =
      pure (matching leftPosition rightPosition right row) := by
  have each : ∀ other ∈ right, (do
      let own ← look row leftPosition
      return own.equals (← look other rightPosition) : Guarded Fault Bool) =
        pure ((row.at leftPosition).equals (other.at rightPosition)) := by
    intro other present
    rw [Row.look_of_lt within, Row.look_of_lt (inside other present)]
    rfl
  rw [matchingGuarded, mapM_pure each, pure_bind, marked_map]
  simp only [beq_true]
  rfl

/-- Rows with one value per column are added. -/
theorem foldlM_pushGuarded {schema : Schema} {added : List Row}
    (sizes : ∀ row ∈ added, row.length = schema.size) (rows : List Row) :
    added.foldlM (pushGuarded schema) rows = pure (rows ++ added) := by
  induction added generalizing rows with
  | nil => simp
  | cons row rest ih =>
      rw [List.forall_mem_cons] at sizes
      rw [List.foldlM_cons, pushGuarded, if_pos sizes.1, pure_bind, ih sizes.2]
      simp

/-- The rows of a join have one value per column of both tables. -/
theorem length_joinRow {keepUnmatched : Bool} {size leftSize : Nat} {found : List Row}
    {row joined : Row} (own : row.length = leftSize) (sizes : ∀ other ∈ found, other.length = size)
    (present : joined ∈ joinRow keepUnmatched size found row) :
    joined.length = leftSize + size := by
  rcases mem_joinRow present with rfl | ⟨other, member, rfl⟩
  · rw [List.length_append, List.length_replicate, own]
  · rw [List.length_append, sizes other member, own]

/-- A join of shaped tables is shaped, also where nulls stand in for missing rows. -/
theorem shaped_joinWith {keepUnmatched : Bool} {left right joined : Table}
    {leftName rightName : String} (leftShaped : left.Shaped) (rightShaped : right.Shaped)
    (done : joinWith keepUnmatched left right leftName rightName = .ok joined) :
    joined.Shaped := by
  obtain ⟨leftPosition, _, resolved⟩ := bind_eq_ok.mp done
  obtain ⟨rightPosition, _, last⟩ := bind_eq_ok.mp resolved
  cases last
  constructor
  · intro whole present
    obtain ⟨row, stored, inside⟩ := List.mem_flatMap.mp present
    rw [Schema.size_merge]
    apply length_joinRow (leftShaped.rows row stored) _ inside
    exact fun other found => rightShaped.rows other (List.mem_of_mem_filter found)
  · intro key keyed
    cases keyed

/-- The join of shaped tables has one value per column of both, and no key. -/
theorem shaped_join {kind : JoinKind} {left right joined : Table} {leftName rightName : String}
    (leftShaped : left.Shaped) (rightShaped : right.Shaped)
    (done : join kind left right leftName rightName = .ok joined) : joined.Shaped := by
  cases kind with
  | inner => exact shaped_joinWith leftShaped rightShaped done
  | left => exact shaped_joinWith leftShaped rightShaped done
  | right => exact shaped_joinWith rightShaped leftShaped done

/-- One row of the left table brings its matches, and nothing is reached for outside of it. -/
theorem joinRowGuarded_eq {keepUnmatched : Bool} {leftPosition rightPosition : Nat}
    {left right : Table} (leftWithin : leftPosition < left.schema.size)
    (rightWithin : rightPosition < right.schema.size) (rightShaped : right.Shaped) {row : Row}
    (size : row.length = left.schema.size) (front : List Bool) (count : Nat) (rows : List Row) :
    let found := matching leftPosition rightPosition right.rows row
    joinRowGuarded keepUnmatched leftPosition rightPosition left right
        (front ++ List.replicate (count + 1) false, rows) (row, front.length) =
      pure (front ++ [!found.isEmpty] ++ List.replicate count false,
        rows ++ joinRow keepUnmatched right.schema.size found row) := by
  intro found
  have matched : matchingGuarded leftPosition rightPosition right.rows row = pure found := by
    apply matchingGuarded_eq (size ▸ leftWithin)
    exact fun other present => rightShaped.rows other present ▸ rightWithin
  -- The note goes to the first place that is still empty, which is the place of this row.
  have noted : noteMatchGuarded (front ++ List.replicate (count + 1) false) front.length found =
      pure (front ++ [!found.isEmpty] ++ List.replicate count false) := by
    have within : front.length < (front ++ List.replicate (count + 1) false).length := by simp
    rw [noteMatchGuarded, put_of_lt within]
    cases found.isEmpty with
    | true => simp [List.replicate_succ]
    | false => simp [List.replicate_succ]
  have alone : aloneGuarded keepUnmatched (front ++ [!found.isEmpty] ++ List.replicate count false)
      front.length = pure (keepUnmatched && found.isEmpty) := by
    have here : (front ++ [!found.isEmpty] ++ List.replicate count false)[front.length]? =
        some (!found.isEmpty) := by simp
    rw [aloneGuarded, look_of_getElem? here]
    cases keepUnmatched with
    | true => simp
    | false => rfl
  have added : found.map (row ++ ·) ++ (if (keepUnmatched && found.isEmpty) = true then
      [row ++ List.replicate right.schema.size .null] else []) =
        joinRow keepUnmatched right.schema.size found row := by
    unfold joinRow
    split
    · rename_i alone
      rw [Bool.and_eq_true, List.isEmpty_iff] at alone
      rw [alone.2]
      rfl
    · exact List.append_nil _
  have pushed := @foldlM_pushGuarded (left.schema.merge right.schema)
    (joinRow keepUnmatched right.schema.size found row) (by
      intro joined present
      rw [Schema.size_merge]
      apply length_joinRow size _ present
      exact fun other member => rightShaped.rows other (List.mem_of_mem_filter member)) rows
  unfold joinRowGuarded
  simp only [matched, noted, alone, added, pushed, pure_bind]

/-- The rows of the left table come one after the other, each with its own place for the note. -/
theorem foldlM_joinRowGuarded {keepUnmatched : Bool} {leftPosition rightPosition : Nat}
    {left right : Table} (leftWithin : leftPosition < left.schema.size)
    (rightWithin : rightPosition < right.schema.size) (rightShaped : right.Shaped)
    {stored : List Row} (sizes : ∀ row ∈ stored, row.length = left.schema.size)
    (front : List Bool) (rows : List Row) :
    ∃ matched, (stored.zipIdx front.length).foldlM
        (joinRowGuarded keepUnmatched leftPosition rightPosition left right)
        (front ++ List.replicate stored.length false, rows) =
      pure (matched, rows ++ stored.flatMap fun row => joinRow keepUnmatched right.schema.size
        (matching leftPosition rightPosition right.rows row) row) := by
  induction stored generalizing front rows with
  | nil => exact ⟨front, by simp⟩
  | cons row rest ih =>
      rw [List.forall_mem_cons] at sizes
      obtain ⟨matched, later⟩ := ih sizes.2
        (front ++ [!(matching leftPosition rightPosition right.rows row).isEmpty])
        (rows ++ joinRow keepUnmatched right.schema.size
          (matching leftPosition rightPosition right.rows row) row)
      refine ⟨matched, ?_⟩
      rw [List.length_append, List.length_singleton] at later
      rw [List.zipIdx_cons, List.foldlM_cons, List.length_cons,
        joinRowGuarded_eq leftWithin rightWithin rightShaped sizes.1, pure_bind, later,
        List.flatMap_cons, List.append_assoc]

/-- The bit of each left row has its place, and every joined row has its size. -/
theorem joinWithGuarded_eq {left right : Table} (leftShaped : left.Shaped)
    (rightShaped : right.Shaped) (keepUnmatched : Bool) (leftName rightName : String) :
    joinWithGuarded keepUnmatched left right leftName rightName =
      sure (joinWith keepUnmatched left right leftName rightName) := by
  apply bind_sure
  intro leftPosition leftFound
  apply bind_sure
  intro rightPosition rightFound
  obtain ⟨matched, joined⟩ := @foldlM_joinRowGuarded keepUnmatched leftPosition rightPosition left
    right (Schema.resolve_lt leftFound) (Schema.resolve_lt rightFound) rightShaped left.rows
    leftShaped.rows [] []
  simp only [List.nil_append, List.length_nil] at joined
  rw [joined]
  rfl

/-- A join of shaped tables does not give up. -/
theorem joinGuarded_eq {left right : Table} (leftShaped : left.Shaped)
    (rightShaped : right.Shaped) (kind : JoinKind) (leftName rightName : String) :
    joinGuarded kind left right leftName rightName =
      sure (join kind left right leftName rightName) := by
  cases kind with
  | inner => exact joinWithGuarded_eq leftShaped rightShaped false leftName rightName
  | left => exact joinWithGuarded_eq leftShaped rightShaped true leftName rightName
  | right => exact joinWithGuarded_eq rightShaped leftShaped true rightName leftName

end TableStore.Table
