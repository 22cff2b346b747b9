/-
This file says what becomes of a row of literals whose columns are named.
Each literal goes to the place of its column, in whatever order the columns are named.
-/

import Mathlib.Algebra.Order.BigOperators.Group.Finset
import Mathlib.Data.Fintype.EquivFin
import TableStore.Proofs.Schema.Resolution
import TableStore.Proofs.Table.Insertion
import TableStore.Proofs.Table.Recheck

namespace TableStore

/-- The row of the given size with each value in its place, and null everywhere else. -/
def Row.placed (size : Nat) (cells : List (Nat × Value)) : Row :=
  (List.range size).map fun position => (cells.lookup position).getD .null

namespace Schema

/-- Where the names of all columns find different columns, each finds its own. -/
theorem own_names_find {schema : Schema}
    {find : Fin schema.columns.length → Fin schema.columns.length}
    (found : ∀ index, schema.indexOf? schema.columns[index].name = some (find index).val)
    (apart : find.Injective) (index : Fin schema.columns.length) : find index = index := by
  have there (index : Fin schema.columns.length) :
      schema.columns[index.val]? = some schema.columns[index] :=
    List.getElem?_eq_getElem index.isLt
  have shorter (index : Fin schema.columns.length) :=
    length_of_indexOf? (found index) (there (find index))
  -- The columns that are found are all columns, so that none of their names can be shorter.
  have total : ∑ index, schema.columns[find index].name.length =
      ∑ index : Fin schema.columns.length, schema.columns[index].name.length :=
    (Finite.injective_iff_bijective.mp apart).sum_comp fun index : Fin schema.columns.length =>
      schema.columns[index].name.length
  have equal := (Finset.sum_eq_sum_iff_of_le fun index _ => (shorter index).1).mp total
  have same : schema.columns[find index].name = schema.columns[index].name :=
    (shorter index).2 (equal index (Finset.mem_univ index))
  apply apart
  have again := found (find index)
  rw [same, found index] at again
  exact Fin.ext (Option.some.inj again).symm

end Schema

namespace Table

/-- A name finds a column, and the type of the column reads the literal that goes with it. -/
structure Supplied (schema : Schema) (entry : String × String) (cell : Nat × Value) : Prop where
  named : schema.indexOf? entry.1 = some cell.1
  read : ∃ column, schema.columns[cell.1]? = some column ∧
    column.type.literal? entry.2 = some cell.2

/-- There are as many literals as names, the names find different columns, and the literals are
read as the values of the cells. -/
structure Supplies (schema : Schema) (names values : List String) (cells : List (Nat × Value)) :
    Prop where
  size : names.length = values.length
  each : List.Forall₂ (Supplied schema) (names.zip values) cells
  apart : (cells.map (·.1)).Nodup

section Cells

variable {cells others : List (Nat × Value)}

theorem apart_iff_nodup :
    (cells.map (·.1)).Nodup ↔ cells.Pairwise fun first second => first.1 ≠ second.1 :=
  List.pairwise_map

/-- Where the positions differ, a position holds the value of its own cell. -/
theorem lookup_eq_some_iff (apart : (cells.map (·.1)).Nodup) {position : Nat} {value : Value} :
    cells.lookup position = some value ↔ (position, value) ∈ cells := by
  induction cells with
  | nil => simp
  | cons cell rest ih =>
      obtain ⟨place, first⟩ := cell
      rw [List.map_cons, List.nodup_cons] at apart
      rw [List.lookup_cons, List.mem_cons, Prod.mk.injEq]
      by_cases same : position = place
      · subst same
        have later : (position, value) ∉ rest := fun present =>
          apart.1 (List.mem_map_of_mem (f := (·.1)) present)
        simp [later, eq_comm]
      · rw [beq_false_of_ne same, ih apart.2]
        simp [same]

/-- The order of the cells does not matter. -/
theorem placed_perm (same : others.Perm cells) (apart : (cells.map (·.1)).Nodup) (size : Nat) :
    Row.placed size others = Row.placed size cells := by
  have unordered : ∀ position, others.lookup position = cells.lookup position := by
    intro position
    apply Option.ext
    intro value
    rw [lookup_eq_some_iff apart, lookup_eq_some_iff ((same.map (·.1)).nodup_iff.mpr apart),
      same.mem_iff]
  simp only [Row.placed, unordered]

/-- Cells that are written into a row of nulls, one after the other, are placed in it. -/
theorem assign_nulls (apart : (cells.map (·.1)).Nodup) (size : Nat) :
    assign cells (List.replicate size .null) = Row.placed size cells := by
  rw [assign_eq_overwritten (apart_iff_nodup.mp apart)]
  apply List.ext_getElem?
  intro position
  rw [overwritten, Row.placed, List.getElem?_mapIdx, List.getElem?_map, List.getElem?_replicate]
  by_cases within : position < size
  · rw [if_pos within, List.getElem?_range within]
    rfl
  · rw [if_neg within, List.getElem?_eq_none (by simpa using within)]
    rfl

end Cells

section Filling

variable {schema : Schema} {cells : List (Nat × Value)}

/-- A free slot takes the value that its column reads. -/
theorem fillSlot_supplied {slots : List (Option Value)} {text : String} {cell : Nat × Value}
    (read : ∃ column, schema.columns[cell.1]? = some column ∧
      column.type.literal? text = some cell.2)
    (free : slots[cell.1]?.getD none = none) :
    fillSlot schema slots (cell.1, text) = .ok (slots.set cell.1 (some cell.2)) := by
  obtain ⟨column, there, literal⟩ := read
  simp only [fillSlot, there, free, DataType.readLiteral_ok.mpr literal]
  rfl

/-- Literals for different free slots fill them, and leave all other slots. -/
theorem fillSlots_supplied {values : List String} {slots : List (Option Value)}
    (read : List.Forall₂ (fun text (cell : Nat × Value) =>
      ∃ column, schema.columns[cell.1]? = some column ∧ column.type.literal? text = some cell.2)
      values cells)
    (apart : (cells.map (·.1)).Nodup) (free : ∀ cell ∈ cells, slots[cell.1]?.getD none = none) :
    ∃ filled, ((cells.map (·.1)).zip values).foldlM (fillSlot schema) slots = .ok filled ∧
      filled.map (·.getD .null) = assign cells (slots.map (·.getD .null)) := by
  induction read generalizing slots with
  | nil => exact ⟨slots, rfl, rfl⟩
  | @cons text cell values cells first _ ih =>
      rw [List.map_cons, List.nodup_cons] at apart
      rw [List.forall_mem_cons] at free
      have later : ∀ other ∈ cells, (slots.set cell.1 (some cell.2))[other.1]?.getD none = none := by
        intro other present
        have different : cell.1 ≠ other.1 := fun same =>
          apart.1 (same ▸ List.mem_map_of_mem (f := (·.1)) present)
        rw [List.getElem?_set_ne different]
        exact free.2 other present
      obtain ⟨filled, done, same⟩ := ih apart.2 later
      refine ⟨filled, ?_, ?_⟩
      · rw [List.map_cons, List.zip_cons_cons, List.foldlM_cons,
          fillSlot_supplied first free.1, ok_bind]
        exact done
      · rw [same, List.map_set]
        rfl

end Filling

section Supplies

variable {schema : Schema} {names values : List String} {cells : List (Nat × Value)}

/-- The names find the positions of the cells, in the same order. -/
theorem Supplies.named (supplies : Supplies schema names values cells) :
    List.Forall₂ (fun name position => schema.indexOf? name = some position) names
      (cells.map (·.1)) := by
  rw [List.forall₂_map_right_iff, ← List.map_fst_zip (Nat.le_of_eq supplies.size),
    List.forall₂_map_left_iff]
  exact supplies.each.imp fun _ _ supplied => supplied.named

/-- The literals are read as the values of the cells, in the same order. -/
theorem Supplies.read (supplies : Supplies schema names values cells) :
    List.Forall₂ (fun text (cell : Nat × Value) =>
      ∃ column, schema.columns[cell.1]? = some column ∧ column.type.literal? text = some cell.2)
      values cells := by
  rw [← List.map_snd_zip (Nat.le_of_eq supplies.size.symm), List.forall₂_map_left_iff]
  exact supplies.each.imp fun _ _ supplied => supplied.read

/-- All names are resolved to the positions of the cells. -/
theorem Supplies.positions (supplies : Supplies schema names values cells) :
    schema.positions (some names) = .ok (cells.map (·.1)) := by
  apply mapM_eq_ok.mpr
  exact supplies.named.imp fun _ _ found => Schema.resolve_ok.mpr found

/-- Names and literals may change places together. -/
theorem Supplies.perm (supplies : Supplies schema names values cells) {others texts : List String}
    (size : others.length = texts.length) (same : (others.zip texts).Perm (names.zip values)) :
    ∃ moved, Supplies schema others texts moved ∧ moved.Perm cells := by
  obtain ⟨moved, each, shuffled⟩ := List.perm_comp_forall₂ same supplies.each
  exact ⟨moved, ⟨size, each, (shuffled.map (·.1)).nodup_iff.mpr supplies.apart⟩, shuffled⟩

/-- The names of all columns supply the columns in their order. -/
theorem Supplies.ordered (supplies : Supplies schema names values cells)
    (all : names = schema.columns.map (·.name)) : cells.map (·.1) = List.range schema.size := by
  subst all
  have named := supplies.named
  have places := List.nodup_iff_injective_get.mp supplies.apart
  generalize cells.map (·.1) = positions at named places
  have size : schema.columns.length = positions.length := by
    rw [← named.length_eq, List.length_map]
  have found (index : Fin schema.columns.length) :
      schema.indexOf? schema.columns[index].name = some (positions.get (index.cast size)) := by
    have here := named.get (i := index) (by simp) (size ▸ index.isLt)
    simpa using here
  let find (index : Fin schema.columns.length) : Fin schema.columns.length :=
    ⟨positions.get (index.cast size), Schema.indexOf?_lt (found index)⟩
  have apart : find.Injective := by
    intro first second same
    have equal : positions.get (first.cast size) = positions.get (second.cast size) :=
      congrArg Fin.val same
    exact Fin.cast_injective size (places equal)
  apply List.ext_getElem
  · rw [List.length_range, ← size, Schema.size]
  · intro index within inside
    have own := Schema.own_names_find found apart ⟨index, size ▸ within⟩
    have same : positions[index] = index := congrArg Fin.val own
    rw [same, List.getElem_range]

/-- Columns that are named with their literals get their values, and all others get null. -/
theorem Supplies.addRow {table : Table} (supplies : Supplies table.schema names values cells) :
    table.addRow values (some names) = table.insert (Row.placed table.schema.size cells) := by
  have empty : ∀ cell ∈ cells,
      (List.replicate table.schema.size (none : Option Value))[cell.1]?.getD none = none := by
    intro cell _
    rw [List.getElem?_replicate]
    split <;> rfl
  obtain ⟨slots, filled, same⟩ := fillSlots_supplied supplies.read supplies.apart empty
  have counted : ¬ values.length ≠ (cells.map (·.1)).length := by
    rw [List.length_map, not_not]
    exact supplies.read.length_eq
  rw [List.map_replicate, Option.getD_none, assign_nulls supplies.apart] at same
  unfold Table.addRow
  rw [supplies.positions, ok_bind, if_neg counted, ← same]
  simp only [filled, ok_bind]

end Supplies

/-- When names find different columns and the literals that go with them can be read, adding the row
is inserting the values in the places of their columns with null in all other places, faults
included. It succeeds exactly when the columns admit this row and its key is new, and the row then
follows the rows that were there. Pairs of a name and a literal may come in any order, and naming all
columns in their order is naming none. -/
theorem addRow_places {table : Table} {names values : List String} {cells : List (Nat × Value)}
    (supplies : Supplies table.schema names values cells) :
    let row := Row.placed table.schema.size cells
    table.addRow values (some names) = table.insert row ∧
      (∀ changed, table.addRow values (some names) = .ok changed ↔
        List.Forall₂ Column.Admits table.schema.columns row ∧ table.TakesKey row ∧
          changed = table.extended row) ∧
      (table.extended row).rows = table.rows ++ [row] ∧
      (∀ others texts : List String, others.length = texts.length →
        (others.zip texts).Perm (names.zip values) →
          table.addRow texts (some others) = table.addRow values (some names)) ∧
      (cells.map (·.1) = List.range table.schema.size ∨
          names = table.schema.columns.map (·.name) →
        table.addRow values (some names) = table.addRow values none) := by
  intro row
  have added := supplies.addRow
  refine ⟨added, ?_, rfl, ?_, ?_⟩
  · intro changed
    rw [added]
    exact insert_ok
  · intro others texts size same
    obtain ⟨moved, supplied, shuffled⟩ := supplies.perm size same
    rw [supplied.addRow, added, placed_perm shuffled supplies.apart]
  · intro all
    have ordered : cells.map (·.1) = List.range table.schema.size := all.elim id supplies.ordered
    unfold addRow
    rw [supplies.positions, ordered]
    rfl

/-- Two of three columns are named against their order, one of them with its table. -/
theorem addRow_places_qualified :
    let columns (width : Nat) : List Column :=
      [⟨"id", "t", .int, false, 4, none⟩, ⟨"note", "t", .varchar 9, false, 4, none⟩,
        ⟨"mark", "t", .int, true, width, none⟩]
    let table : Table := ⟨"t", ⟨columns 4⟩, some 0, [[.int 1, .text "a", .int 5]]⟩
    let cells : List (Nat × Value) := [(2, .int 70000), (0, .int 2)]
    Supplies table.schema ["t.mark", "id"] ["70000", "+2"] cells ∧
      table.addRow ["70000", "+2"] (some ["t.mark", "id"]) = .ok ⟨"t", ⟨columns 5⟩, some 0,
        [[.int 1, .text "a", .int 5], [.int 2, .null, .int 70000]]⟩ := by
  intro columns table cells
  have supplies : Supplies table.schema ["t.mark", "id"] ["70000", "+2"] cells := {
    size := rfl
    each := .cons ⟨by decide +kernel, _, rfl, by decide +kernel⟩
      (.cons ⟨by decide +kernel, _, rfl, by decide +kernel⟩ .nil)
    apart := by decide }
  exact ⟨supplies, ((addRow_places supplies).2.1 _).mpr
    ⟨by decide +kernel, checkKey_ok.mp (by decide +kernel), by decide +kernel⟩⟩

end Table

end TableStore
