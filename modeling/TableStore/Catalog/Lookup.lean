/-
This file says what names find after tables are stored and forgotten.
A catalog is determined by what its names find, so the order of storing does not matter.
-/

import TableStore.Catalog

namespace TableStore.Catalog

/-- A table that was put is found under its name. -/
theorem find?_putIn_self (table : Table) (tables : List Table) :
    (putIn table tables).find? (·.name == table.name) = some table := by
  induction tables with
  | nil => simp [putIn]
  | cons first rest ih =>
      simp only [putIn]
      split
      · simp
      · split
        · simp
        · rename_i different
          have other : (first.name == table.name) = false := by
            simpa using fun same => different same.symm
          rw [List.find?_cons, other]
          exact ih

/-- Putting a table hides no other one. -/
theorem find?_putIn_of_ne {table : Table} {name : String} (other : name ≠ table.name)
    (tables : List Table) :
    (putIn table tables).find? (·.name == name) = tables.find? (·.name == name) := by
  have skipped : (table.name == name) = false := by simpa using other.symm
  induction tables with
  | nil => simp [putIn, skipped]
  | cons first rest ih =>
      simp only [putIn]
      split
      · rw [List.find?_cons, skipped]
      · split
        · rename_i same
          rw [List.find?_cons, List.find?_cons, ← same, skipped]
        · rw [List.find?_cons, List.find?_cons, ih]

/-- A table is found under its name after it is stored. -/
@[simp] theorem find?_put_self (catalog : Catalog) (table : Table) :
    (catalog.put table).find? table.name = some table :=
  find?_putIn_self table catalog.tables

/-- Other names find what they found before. -/
theorem find?_put_of_ne (catalog : Catalog) {table : Table} {name : String}
    (other : name ≠ table.name) : (catalog.put table).find? name = catalog.find? name :=
  find?_putIn_of_ne other catalog.tables

@[simp] theorem find?_empty (name : String) : empty.find? name = none := rfl

/-- Removing a table leaves the others where they are. -/
theorem find?_erase (catalog : Catalog) (name other : String) :
    (catalog.erase name).find? other = if other = name then none else catalog.find? other := by
  unfold find? erase
  rw [List.find?_filter]
  split
  · rename_i same
    rw [same, List.find?_eq_none]
    simp
  · rename_i different
    congr 1
    funext table
    by_cases named : table.name = other
    · simp [named, different]
    · simp [named]

/-- Of many tables with different names each is found in front of what was there before. -/
theorem find?_foldl_put {tables : List Table}
    (apart : tables.Pairwise fun first second => first.name ≠ second.name) (catalog : Catalog)
    (name : String) : (tables.foldl put catalog).find? name =
      (tables.find? (·.name == name)).or (catalog.find? name) := by
  induction tables generalizing catalog with
  | nil => rfl
  | cons first rest ih =>
      obtain ⟨others, later⟩ := List.pairwise_cons.mp apart
      rw [List.foldl_cons, ih later, List.find?_cons]
      by_cases same : first.name = name
      · subst same
        have missing : rest.find? (·.name == first.name) = none := by
          rw [List.find?_eq_none]
          intro table present same
          exact others table present (beq_iff_eq.mp same).symm
        rw [missing, beq_self_eq_true, find?_put_self]
        rfl
      · rw [beq_false_of_ne same, find?_put_of_ne _ (Ne.symm same)]

/-- Among tables with different names each name finds the table that has it. -/
theorem find?_ofList {tables : List Table}
    (apart : tables.Pairwise fun first second => first.name ≠ second.name) (name : String) :
    (ofList tables).find? name = tables.find? (·.name == name) := by
  rw [ofList, find?_foldl_put apart, find?_empty, Option.or_none]

/-- Among tables with different names each is found under its own. -/
theorem find?_of_mem {tables : List Table}
    (apart : tables.Pairwise fun first second => first.name ≠ second.name) {table : Table}
    (present : table ∈ tables) : tables.find? (·.name == table.name) = some table := by
  induction tables with
  | nil => cases present
  | cons first rest ih =>
      obtain ⟨others, later⟩ := List.pairwise_cons.mp apart
      rcases List.mem_cons.mp present with rfl | after
      · rw [List.find?_cons, beq_self_eq_true]
      · rw [List.find?_cons, beq_false_of_ne (others table after)]
        exact ih later after

/-- Tables with different names are all stored. -/
theorem mem_ofList {tables : List Table}
    (apart : tables.Pairwise fun first second => first.name ≠ second.name) {table : Table}
    (present : table ∈ tables) : table ∈ (ofList tables).tables := by
  have found : (ofList tables).find? table.name = some table := by
    rw [find?_ofList apart, find?_of_mem apart present]
  exact mem_of_find? found

/-- A name below all others is not found. -/
theorem find?_eq_none_of_lt {name : String} {tables : List Table}
    (later : ∀ table ∈ tables, name < table.name) : tables.find? (·.name == name) = none := by
  rw [List.find?_eq_none]
  intro table present
  have before := later table present
  simp only [beq_iff_eq]
  intro same
  exact String.lt_irrefl name (same ▸ before)

/-- The first of two sorted lists cannot begin earlier when look-ups agree. -/
theorem not_lt_of_find? {head other : Table} {tail rest : List Table}
    (later : ∀ table ∈ rest, other.name < table.name)
    (same : (head :: tail).find? (·.name == head.name)
      = (other :: rest).find? (·.name == head.name)) : ¬ head.name < other.name := by
  intro before
  have missing : (other :: rest).find? (·.name == head.name) = none := by
    apply find?_eq_none_of_lt
    intro table present
    rcases List.mem_cons.mp present with first | after
    · exact first ▸ before
    · exact String.lt_trans before (later table after)
  rw [missing] at same
  simp at same

/-- A catalog is known by what it finds under each name. -/
theorem eq_of_find? {first second : Catalog}
    (same : ∀ name, first.find? name = second.find? name) : first = second := by
  obtain ⟨left, leftSorted⟩ := first
  obtain ⟨right, rightSorted⟩ := second
  apply ext_tables
  simp only [find?] at same ⊢
  induction left generalizing right with
  | nil =>
      cases right with
      | nil => rfl
      | cons head tail => simpa using same head.name
  | cons head tail ih =>
      cases right with
      | nil => simpa using same head.name
      | cons other rest =>
          obtain ⟨least, later⟩ := List.pairwise_cons.mp leftSorted
          obtain ⟨leastOther, laterOther⟩ := List.pairwise_cons.mp rightSorted
          -- Neither head can be below the other one, since the other catalog would not find it.
          have names : head.name = other.name := String.le_antisymm
            (String.not_lt.mp (not_lt_of_find? least (same other.name).symm))
            (String.not_lt.mp (not_lt_of_find? leastOther (same head.name)))
          have heads : head = other := by simpa [names] using same head.name
          subst heads
          congr 1
          apply ih later rest laterOther
          intro name
          by_cases named : name = head.name
          · rw [named, find?_eq_none_of_lt least, find?_eq_none_of_lt leastOther]
          · have skipped : (head.name == name) = false := by simpa using Ne.symm named
            have whole := same name
            rwa [List.find?_cons, List.find?_cons, skipped] at whole

/-- Storing a table again that is already there changes nothing. -/
theorem put_self {catalog : Catalog} {name : String} {table : Table}
    (found : catalog.find? name = some table) : catalog.put table = catalog := by
  have named := name_of_find? found
  apply eq_of_find?
  intro other
  by_cases same : other = table.name
  · rw [same, find?_put_self, named, found]
  · exact find?_put_of_ne catalog same

/-- Removing a table that is not there changes nothing. -/
theorem erase_of_none {catalog : Catalog} {name : String} (missing : catalog.find? name = none) :
    catalog.erase name = catalog := by
  apply eq_of_find?
  intro other
  rw [find?_erase]
  split
  · rename_i same
    rw [same, missing]
  · rfl

/-- Tables with different names may be stored in either order. -/
theorem put_comm (catalog : Catalog) {first second : Table} (apart : first.name ≠ second.name) :
    (catalog.put first).put second = (catalog.put second).put first := by
  apply eq_of_find?
  intro name
  by_cases late : name = second.name
  · subst late
    rw [find?_put_self, find?_put_of_ne _ apart.symm, find?_put_self]
  · rw [find?_put_of_ne _ late]
    by_cases early : name = first.name
    · subst early
      rw [find?_put_self, find?_put_self]
    · rw [find?_put_of_ne _ early, find?_put_of_ne _ early, find?_put_of_ne _ late]

theorem apart_tables (catalog : Catalog) :
    catalog.tables.Pairwise fun first second => first.name ≠ second.name :=
  catalog.sorted.imp String.ne_of_lt

/-- A catalog does not know in which order its tables were stored. -/
theorem ofList_eq_of_perm {tables : List Table} {catalog : Catalog}
    (reordered : tables.Perm catalog.tables) : ofList tables = catalog := by
  have apart : tables.Pairwise fun first second => first.name ≠ second.name :=
    (reordered.pairwise_iff fun different => different.symm).mpr catalog.apart_tables
  apply eq_of_find?
  intro name
  rw [find?_ofList apart]
  cases found : catalog.find? name with
  | none =>
      rw [List.find?_eq_none]
      intro table present
      exact List.find?_eq_none.mp found table (reordered.mem_iff.mp present)
  | some table =>
      rw [← name_of_find? found]
      exact find?_of_mem apart (reordered.mem_iff.mpr (mem_of_find? found))

end TableStore.Catalog
