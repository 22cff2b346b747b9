/-
This file says which columns names find.
A bare name finds the first column that has it, and a qualified name is cut at its first point.
-/

import Mathlib.Data.List.TakeWhile
import TableStore.Proofs.Table.Soundness

namespace TableStore

/-- A name with a point names a table and a column. -/
theorem qualifier?_of_point {name : String} (point : '.' ∈ name.toList) :
    ∃ table bare, qualifier? name = some (table, bare) := by
  unfold qualifier?
  split
  · rename_i none
    have passed := List.dropWhile_eq_nil_iff.mp none '.' point
    exact absurd rfl (of_decide_eq_true passed)
  · exact ⟨_, _, rfl⟩

/-- A name is cut at its first point. -/
theorem qualifier?_some {name table bare : String} (cut : qualifier? name = some (table, bare)) :
    name = table ++ "." ++ bare ∧ '.' ∉ table.toList := by
  unfold qualifier? at cut
  split at cut
  · cases cut
  · rename_i point rest found
    cases cut
    have stopped := List.head?_dropWhile_not (· ≠ '.') name.toList
    rw [found] at stopped
    have mark : point = '.' := by simpa using stopped
    subst mark
    constructor
    · apply String.toList_injective
      have parts := @List.takeWhile_append_dropWhile _ (· ≠ '.') name.toList
      rw [found] at parts
      simpa using parts.symm
    · rw [String.toList_ofList]
      intro present
      have passed := List.mem_takeWhile_imp present
      exact absurd rfl (of_decide_eq_true passed)

/-- The table of a qualified name is found again when it has no point itself. -/
theorem qualifier?_qualified {table : String} (plain : '.' ∉ table.toList) (bare : String) :
    qualifier? (table ++ "." ++ bare) = some (table, bare) := by
  have noPoint : ∀ c ∈ table.toList, decide (c ≠ '.') = true := by
    intro c present
    rw [decide_eq_true_eq]
    rintro rfl
    exact plain present
  have letters : (table ++ "." ++ bare).toList = table.toList ++ '.' :: bare.toList := by simp
  have front := @List.takeWhile_append_of_pos _ (· ≠ '.') table.toList ('.' :: bare.toList) noPoint
  have back := @List.dropWhile_append_of_pos _ (· ≠ '.') table.toList ('.' :: bare.toList) noPoint
  rw [List.takeWhile_cons_of_neg (by decide), List.append_nil] at front
  rw [List.dropWhile_cons_of_neg (by decide)] at back
  unfold qualifier?
  rw [letters, back, front]
  simp

namespace Column

/-- A search that does not look at widths ends at the same position among wider columns. -/
theorem findIdx?_of_grow {Named : Column → Bool}
    (steady : ∀ column wider, column.Grows wider → Named wider = Named column)
    {columns wider : List Column} (grow : List.Forall₂ Grows columns wider) :
    wider.findIdx? Named = columns.findIdx? Named := by
  induction grow with
  | nil => rfl
  | cons grows _ ih => rw [List.findIdx?_cons, List.findIdx?_cons, ih, steady _ _ grows]

/-- The name of the column with its table in front. -/
def qualifiedName (column : Column) : String := column.table ++ "." ++ column.name

theorem point_qualifiedName (column : Column) : '.' ∈ column.qualifiedName.toList := by
  simp [qualifiedName]

end Column

namespace Schema

/-- A name that finds no column is the fault. -/
theorem resolve_error {schema : Schema} {name : String} {cause : Fault}
    (failed : schema.resolve name = .error cause) : cause = .logic (.unknownColumn name) := by
  unfold resolve at failed
  split at failed
  · cases failed
  · cases failed
    rfl

/-- A name finds the column of the left schema, or else that of the right one. -/
theorem indexOf?_merge (left right : Schema) (name : String) :
    (left.merge right).indexOf? name =
      (left.indexOf? name).or ((right.indexOf? name).map (· + left.size)) := by
  unfold indexOf?
  split
  · exact List.findIdx?_append
  · exact List.findIdx?_append

/-- A qualified name finds no column in one of two schemas that belong to different tables. -/
theorem indexOf?_of_owned {left right : Schema} {table other name : String}
    (owned : ∀ column ∈ left.columns, column.table = table)
    (apart : ∀ column ∈ right.columns, column.table = other) (different : table ≠ other)
    (point : '.' ∈ name.toList) : left.indexOf? name = none ∨ right.indexOf? name = none := by
  obtain ⟨owner, bare, parts⟩ := qualifier?_of_point point
  have named {column : Column} (answers : column.isNamed name = true) : owner = column.table := by
    rw [Column.isNamed, parts, Bool.and_eq_true, beq_iff_eq] at answers
    exact answers.1
  rw [indexOf?, indexOf?, if_pos point, if_pos point, List.findIdx?_eq_none_iff,
    List.findIdx?_eq_none_iff]
  by_cases here : owner = table
  · refine Or.inr fun column present => Bool.eq_false_iff.mpr fun answers => ?_
    exact different (here.symm.trans ((named answers).trans (apart column present)))
  · refine Or.inl fun column present => Bool.eq_false_iff.mpr fun answers => ?_
    exact here ((named answers).trans (owned column present))

/-- Columns are found under the same names after they have grown. -/
theorem indexOf?_of_grow {columns wider : List Column}
    (grow : List.Forall₂ Column.Grows columns wider) (name : String) :
    (Schema.mk wider).indexOf? name = (Schema.mk columns).indexOf? name := by
  unfold indexOf?
  split
  · apply Column.findIdx?_of_grow _ grow
    intro column wide grows
    rw [grows.same]
    rfl
  · apply Column.findIdx?_of_grow _ grow
    intro column wide grows
    rw [grows.same]

/-- A column with a name of its own is the first one that has it. -/
theorem findIdx?_of_nodup {columns : List Column} (apart : (columns.map (·.name)).Nodup)
    {position : Nat} {column : Column} (there : columns[position]? = some column)
    {Named : Column → Bool} (named : Named column = true)
    (only : ∀ other ∈ columns, Named other = true → other.name = column.name) :
    columns.findIdx? Named = some position := by
  obtain ⟨within, same⟩ := List.getElem?_eq_some_iff.mp there
  rw [List.findIdx?_eq_some_iff_getElem]
  refine ⟨within, same ▸ named, ?_⟩
  intro earlier before taken
  have inside : earlier < columns.length := Nat.lt_trans before within
  have different := List.pairwise_iff_getElem.mp (List.pairwise_map.mp apart) earlier position
    inside within before
  rw [same] at different
  exact different (only _ (List.getElem_mem inside) taken)

/-- A name without a point finds its column when no other column has it. -/
theorem indexOf?_name {schema : Schema} (apart : (schema.columns.map (·.name)).Nodup)
    {position : Nat} {column : Column} (there : schema.columns[position]? = some column)
    (plain : '.' ∉ column.name.toList) : schema.indexOf? column.name = some position := by
  rw [indexOf?, if_neg plain]
  exact findIdx?_of_nodup apart there (beq_self_eq_true _) fun _ _ taken => beq_iff_eq.mp taken

/-- A qualified name finds its column when no other column has it and its table has no point. -/
theorem indexOf?_qualifiedName {schema : Schema} (apart : (schema.columns.map (·.name)).Nodup)
    {position : Nat} {column : Column} (there : schema.columns[position]? = some column)
    (plain : '.' ∉ column.table.toList) :
    schema.indexOf? column.qualifiedName = some position := by
  have cut : qualifier? column.qualifiedName = some (column.table, column.name) :=
    qualifier?_qualified plain column.name
  have named : ∀ other : Column, other.isNamed column.qualifiedName =
      (column.table == other.table && column.name == other.name) := by
    intro other
    rw [Column.isNamed, cut]
  rw [indexOf?, if_pos column.point_qualifiedName]
  apply findIdx?_of_nodup apart there
  · simp [named]
  · intro other _ taken
    rw [named, Bool.and_eq_true, beq_iff_eq, beq_iff_eq] at taken
    exact taken.2.symm

/-- A name with a point never finds a column of exactly this name. -/
theorem noPoint_of_indexOf? {schema : Schema} {position : Nat} {column : Column}
    (there : schema.columns[position]? = some column)
    (found : schema.indexOf? column.name = some position) : '.' ∉ column.name.toList := by
  intro point
  obtain ⟨table, bare, cut⟩ := qualifier?_of_point point
  obtain ⟨whole, _⟩ := qualifier?_some cut
  rw [indexOf?, if_pos point] at found
  obtain ⟨within, named, _⟩ := List.findIdx?_eq_some_iff_getElem.mp found
  obtain ⟨_, same⟩ := List.getElem?_eq_some_iff.mp there
  rw [same, Column.isNamed, cut, Bool.and_eq_true, beq_iff_eq, beq_iff_eq] at named
  -- The part behind the point would be as long as the whole name.
  have longer := congrArg String.length whole
  rw [← named.2] at longer
  simp at longer

/-- A qualified name that finds a column has a table without a point. -/
theorem noPoint_of_qualifiedName {schema : Schema} {position : Nat} {column : Column}
    (there : schema.columns[position]? = some column)
    (found : schema.indexOf? column.qualifiedName = some position) :
    '.' ∉ column.table.toList := by
  obtain ⟨table, bare, cut⟩ := qualifier?_of_point column.point_qualifiedName
  rw [indexOf?, if_pos column.point_qualifiedName] at found
  obtain ⟨within, named, _⟩ := List.findIdx?_eq_some_iff_getElem.mp found
  obtain ⟨_, same⟩ := List.getElem?_eq_some_iff.mp there
  rw [same, Column.isNamed, cut, Bool.and_eq_true, beq_iff_eq, beq_iff_eq] at named
  rw [← named.1]
  exact (qualifier?_some cut).2

/-- A name is at least as long as that of the column it finds, and as long only when it is the
same. -/
theorem length_of_indexOf? {schema : Schema} {name : String} {position : Nat} {column : Column}
    (found : schema.indexOf? name = some position)
    (there : schema.columns[position]? = some column) :
    column.name.length ≤ name.length ∧
      (column.name.length = name.length → column.name = name) := by
  obtain ⟨within, same⟩ := List.getElem?_eq_some_iff.mp there
  unfold indexOf? at found
  split at found
  · rename_i point
    obtain ⟨table, bare, cut⟩ := qualifier?_of_point point
    obtain ⟨whole, _⟩ := qualifier?_some cut
    obtain ⟨_, named, _⟩ := List.findIdx?_eq_some_iff_getElem.mp found
    rw [same, Column.isNamed, cut, Bool.and_eq_true, beq_iff_eq, beq_iff_eq] at named
    have longer : column.name.length < name.length := by
      rw [whole, named.2]
      simp only [String.length_append]
      have point : ".".length = 1 := rfl
      omega
    exact ⟨Nat.le_of_lt longer, fun equal => absurd equal (Nat.ne_of_lt longer)⟩
  · obtain ⟨_, named, _⟩ := List.findIdx?_eq_some_iff_getElem.mp found
    rw [same, beq_iff_eq] at named
    exact ⟨Nat.le_of_eq (congrArg String.length named), fun _ => named⟩

/-- A column that was found by any name is found by its own, when no point is in it. -/
theorem indexOf?_again {schema : Schema} {table name : String} {position : Nat}
    {column : Column} (owned : ∀ column ∈ schema.columns, column.table = table)
    (found : schema.indexOf? name = some position) (there : schema.columns[position]? = some column)
    (plain : '.' ∉ column.name.toList) : schema.indexOf? column.name = some position := by
  obtain ⟨within, same⟩ := List.getElem?_eq_some_iff.mp there
  unfold indexOf? at found
  split at found
  · rename_i point
    obtain ⟨owner, bare, parts⟩ := qualifier?_of_point point
    obtain ⟨_, matched, first⟩ := List.findIdx?_eq_some_iff_getElem.mp found
    have named : ∀ column : Column,
        column.isNamed name = (owner == column.table && bare == column.name) := by
      intro other
      rw [Column.isNamed, parts]
    rw [same, named, Bool.and_eq_true, beq_iff_eq, beq_iff_eq] at matched
    rw [indexOf?, if_neg plain, List.findIdx?_eq_some_iff_getElem]
    refine ⟨within, by rw [same]; exact beq_self_eq_true column.name, ?_⟩
    intro earlier before taken
    have inside : earlier < schema.columns.length := Nat.lt_trans before within
    apply first earlier before
    rw [named, Bool.and_eq_true, beq_iff_eq, beq_iff_eq, matched.1, matched.2,
      owned _ (List.getElem_mem inside), owned column (same ▸ List.getElem_mem within)]
    exact ⟨rfl, (beq_iff_eq.mp taken).symm⟩
  · rename_i bare
    obtain ⟨_, matched, _⟩ := List.findIdx?_eq_some_iff_getElem.mp found
    rw [same, beq_iff_eq] at matched
    rw [matched, indexOf?, if_neg bare]
    exact found

end Schema

end TableStore
