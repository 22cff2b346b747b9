/-
This file says what a declared table looks like.
-/

import TableStore.Proofs.Table.Soundness

namespace TableStore

/-- The column that a declaration asks for. -/
def Column.declared (table : String) (declaration : ColumnDeclaration) : Column :=
  Column.fresh declaration.name table declaration.type declaration.notNull

namespace Table

/-- A declared column has a new name and comes last, and only it can become the key. -/
theorem addDeclared_ok {table : String} {columns more : List Column} {key newKey : Option Nat}
    {declaration : ColumnDeclaration}
    (done : addDeclared table (columns, key) declaration = .ok (more, newKey)) :
    (∀ column ∈ columns, column.name ≠ declaration.name) ∧
      more = columns ++ [Column.declared table declaration] ∧
      (newKey = key ∨ newKey = some columns.length) := by
  unfold addDeclared at done
  dsimp only at done
  split at done
  · cases done
  · rename_i fresh
    split at done
    · cases done
    · cases done
      refine ⟨?_, rfl, ?_⟩
      · intro column present same
        exact fresh (List.any_eq_true.mpr ⟨column, present, beq_iff_eq.mpr same⟩)
      · split
        · exact Or.inr rfl
        · exact Or.inl rfl

/-- The declared columns have different names and include the key. -/
theorem addDeclared_fold {table : String} {declarations : List ColumnDeclaration}
    {columns final : List Column} {key last : Option Nat}
    (done : declarations.foldlM (addDeclared table) (columns, key) = .ok (final, last))
    (apart : (columns.map (·.name)).Nodup) (keyed : ∀ position ∈ key, position < columns.length) :
    final = columns ++ declarations.map (Column.declared table) ∧ (final.map (·.name)).Nodup ∧
      ∀ position ∈ last, position < final.length := by
  induction declarations generalizing columns key with
  | nil =>
      cases done
      exact ⟨by simp, apart, keyed⟩
  | cons declaration rest ih =>
      rw [List.foldlM_cons] at done
      obtain ⟨⟨more, newKey⟩, step, remaining⟩ := bind_eq_ok.mp done
      obtain ⟨fresh, rfl, changed⟩ := addDeclared_ok step
      have grown : columns.length < (columns ++ [Column.declared table declaration]).length := by
        simp
      rw [List.map_cons, List.append_cons]
      apply ih remaining
      · rw [List.map_append, List.nodup_append]
        refine ⟨apart, List.pairwise_singleton _ _, ?_⟩
        intro name present other new
        obtain ⟨column, member, rfl⟩ := List.mem_map.mp present
        rw [List.mem_singleton.mp new]
        exact fresh column member
      · intro position present
        rcases changed with rfl | rfl
        · exact Nat.lt_trans (keyed position present) grown
        · cases present
          exact grown

/-- A declared table has the declared columns with different names, a key, and no rows. -/
theorem declare_ok {name : String} {declarations : List ColumnDeclaration} {table : Table}
    (done : declare name declarations = .ok table) :
    declarations ≠ [] ∧ (declarations.map (·.name)).Nodup ∧
      ∃ key, key < declarations.length ∧
        table = ⟨name, ⟨declarations.map (Column.declared name)⟩, some key, []⟩ := by
  unfold declare at done
  split at done
  · cases done
  · rename_i some
    obtain ⟨⟨columns, key⟩, declared, last⟩ := bind_eq_ok.mp done
    obtain ⟨rfl, apart, keyed⟩ := addDeclared_fold declared .nil (by simp)
    cases last
    rw [List.nil_append] at apart keyed
    rw [List.map_map] at apart
    rw [List.length_map] at keyed
    refine ⟨some, apart, key.getD 0, ?_, rfl⟩
    cases key with
    | none => exact List.length_pos_iff.mpr some
    | some position => exact keyed position rfl

theorem rows_of_declare {name : String} {declarations : List ColumnDeclaration} {table : Table}
    (done : declare name declarations = .ok table) : table.rows = [] := by
  obtain ⟨_, _, key, _, rfl⟩ := declare_ok done
  rfl

/-- A declared table is sound. -/
theorem declare_sound {name : String} {declarations : List ColumnDeclaration} {table : Table}
    (done : declare name declarations = .ok table) : table.Sound := by
  obtain ⟨_, _, key, within, rfl⟩ := declare_ok done
  apply Sound.of_empty _ _ rfl
  · intro column present
    obtain ⟨declaration, _, rfl⟩ := List.mem_map.mp present
    rfl
  · intro position keyed
    cases keyed
    rw [Schema.size, List.length_map]
    exact within

end Table

end TableStore
