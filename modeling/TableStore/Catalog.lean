/-
This file keeps the tables of a store in the order of their names.
-/

import TableStore.Table

namespace TableStore

/-- Each name belongs to at most one table. -/
structure Catalog where
  tables : List Table
  sorted : tables.Pairwise fun first second => first.name < second.name

namespace Catalog

def empty : Catalog := ⟨[], .nil⟩

/-- The table with the given name. -/
def find? (catalog : Catalog) (name : String) : Option Table :=
  catalog.tables.find? (·.name == name)

def names (catalog : Catalog) : List String := catalog.tables.map (·.name)

/-- A table takes the place of its namesake, or else the place of its name in the order. -/
def putIn (table : Table) : List Table → List Table
  | [] => [table]
  | first :: rest =>
      if table.name < first.name then table :: first :: rest
      else if table.name = first.name then table :: rest
      else first :: putIn table rest

/-- Putting a table adds no other one. -/
theorem mem_putIn {table other : Table} {tables : List Table} (present : other ∈ putIn table tables) :
    other = table ∨ other ∈ tables := by
  induction tables with
  | nil =>
      simp only [putIn, List.mem_singleton] at present
      exact Or.inl present
  | cons first rest ih =>
      simp only [putIn] at present
      split at present
      · simpa using present
      · split at present
        · rcases List.mem_cons.mp present with same | later
          · exact Or.inl same
          · exact Or.inr (List.mem_cons_of_mem _ later)
        · rcases List.mem_cons.mp present with same | later
          · exact Or.inr (same ▸ List.mem_cons_self)
          · rcases ih later with new | old
            · exact Or.inl new
            · exact Or.inr (List.mem_cons_of_mem _ old)

/-- Putting a table keeps the names in order. -/
theorem sorted_putIn (table : Table) {tables : List Table}
    (sorted : tables.Pairwise fun first second => first.name < second.name) :
    (putIn table tables).Pairwise fun first second => first.name < second.name := by
  induction tables with
  | nil => simp [putIn]
  | cons first rest ih =>
      obtain ⟨least, later⟩ := List.pairwise_cons.mp sorted
      simp only [putIn]
      split
      · rename_i before
        refine List.pairwise_cons.mpr ⟨?_, sorted⟩
        intro other present
        rcases List.mem_cons.mp present with same | after
        · exact same ▸ before
        · exact String.lt_trans before (least other after)
      · split
        · rename_i same
          refine List.pairwise_cons.mpr ⟨?_, later⟩
          intro other present
          exact same ▸ least other present
        · rename_i notBefore different
          refine List.pairwise_cons.mpr ⟨?_, ih later⟩
          intro other present
          rcases mem_putIn present with new | old
          · rw [new]
            have reached : first.name ≤ table.name := String.not_lt.mp notBefore
            apply Classical.byContradiction
            intro notAfter
            exact different (String.le_antisymm (String.not_lt.mp notAfter) reached)
          · exact least other old

/-- A table is stored under its own name. -/
def put (catalog : Catalog) (table : Table) : Catalog :=
  ⟨putIn table catalog.tables, sorted_putIn table catalog.sorted⟩

/-- The table with the given name is forgotten. -/
def erase (catalog : Catalog) (name : String) : Catalog :=
  ⟨catalog.tables.filter (·.name != name), catalog.sorted.filter _⟩

/-- Later tables take the places of earlier ones with the same name. -/
def ofList (tables : List Table) : Catalog := tables.foldl put empty

theorem name_of_find? {catalog : Catalog} {name : String} {table : Table}
    (found : catalog.find? name = some table) : table.name = name := by
  simpa using List.find?_some found

theorem mem_of_find? {catalog : Catalog} {name : String} {table : Table}
    (found : catalog.find? name = some table) : table ∈ catalog.tables :=
  List.mem_of_find?_eq_some found

/-- A catalog is its tables, since their order is no choice. -/
theorem ext_tables {first second : Catalog} (same : first.tables = second.tables) :
    first = second := by
  cases first
  cases second
  cases same
  rfl

end Catalog

end TableStore
