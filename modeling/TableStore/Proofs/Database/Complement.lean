/-
This file compares the rows that are selected by IS with those that are selected by IS NOT.
The two part the rows on which the operands have values that compare or are null, and both refuse
all other rows.
-/

import TableStore.Proofs.Database.Partition
import TableStore.Proofs.Value.Order

namespace TableStore

namespace Value

/-- Two values are decided when one of them is null or when they compare. -/
def Decided (left right : Value) : Prop := left = null ∨ right = null ∨ Comparable left right

instance (left right : Value) : Decidable (Decided left right) :=
  inferInstanceAs (Decidable (_ ∨ _ ∨ _))

/-- Values that are there differ when they compare and one of them is lower. -/
theorem differs_of_present {left right : Value} (here : left ≠ null) (there : right ≠ null) :
    left.differs right = (left.compare? right == some .lt || left.compare? right == some .gt) := by
  cases left <;> cases right <;> first | exact absurd rfl here | exact absurd rfl there | rfl

/-- Null differs from exactly the values that it does not equal. -/
theorem differs_null_left (right : Value) : null.differs right = !null.equals right := by
  cases right <;> rfl

theorem differs_null_right (left : Value) : left.differs null = !left.equals null := by
  cases left <;> rfl

/-- Decided values either are equal or differ. -/
theorem differs_of_decided {left right : Value} (decided : Decided left right) :
    left.differs right = !left.equals right := by
  rcases decided with rfl | rfl | comparable
  · exact differs_null_left right
  · exact differs_null_right left
  · obtain ⟨order, compared⟩ := Option.isSome_iff_exists.mp (compare?_isSome.mpr comparable)
    rw [differs_of_present comparable.leftPresent comparable.rightPresent,
      equals_of_present comparable.leftPresent, compared]
    cases order <;> rfl

/-- Undecided values neither are equal nor differ. -/
theorem not_differs_of_undecided {left right : Value} (undecided : ¬ Decided left right) :
    left.equals right = false ∧ left.differs right = false := by
  simp only [Decided, not_or, ← compare?_isSome, Bool.not_eq_true, Option.isSome_eq_false_iff,
    Option.isNone_iff_eq_none] at undecided
  obtain ⟨here, there, apart⟩ := undecided
  rw [differs_of_present here there, equals_of_present here, apart]
  exact ⟨rfl, rfl⟩

end Value

/-- Two comparisons split the rows in three when each position is found in exactly one of the rows
that the one accepts, the rows that the other accepts and the undecided rows. The accepted rows are
those that are decided, and together they are the whole list when all of its rows are. -/
structure Splits (rows : List Row) (decided : Row → Prop)
    (accepted refused undecided : List (Row × Nat)) : Prop where
  acceptedInOrder : accepted.Pairwise fun early late => early.2 < late.2
  refusedInOrder : refused.Pairwise fun early late => early.2 < late.2
  whole : (accepted ++ refused ++ undecided).Perm rows.zipIdx
  settled : ∀ entry ∈ accepted ++ refused, decided entry.1
  unsettled : ∀ entry ∈ undecided, ¬ decided entry.1
  parts : (∀ row ∈ rows, decided row) → Parts rows accepted refused

section Splits

variable {decided : Row → Prop} {one other : Row → Bool}

/-- Two properties that are opposite where they are decided and else both fail split any rows. -/
theorem splits_filter (rows : List Row)
    (opposite : ∀ row, decided row → other row = !one row)
    (neither : ∀ row, ¬ decided row → one row = false ∧ other row = false) :
    Splits rows decided (rows.zipIdx.filter fun entry => one entry.1)
      (rows.zipIdx.filter fun entry => other entry.1)
      (rows.zipIdx.filter fun entry => !other entry.1 && !one entry.1) := by
  have ordered := pairwise_zipIdx rows
  have settled (row : Row) (holds : one row = true ∨ other row = true) : decided row := by
    by_contra undecided
    obtain ⟨fails, alsoFails⟩ := neither row undecided
    rw [fails, alsoFails] at holds
    exact Bool.false_ne_true (or_self_iff.mp holds)
  refine ⟨ordered.filter _, ordered.filter _, ?_, ?_, ?_, ?_⟩
  · -- The rows that the one refuses are parted once more by the other.
    have outer := List.filter_append_perm (fun entry : Row × Nat => one entry.1) rows.zipIdx
    have inner := List.filter_append_perm (fun entry : Row × Nat => other entry.1)
      (rows.zipIdx.filter fun entry => !one entry.1)
    rw [List.filter_filter, List.filter_filter] at inner
    have alone (entry : Row × Nat) : (other entry.1 && !one entry.1) = other entry.1 := by
      cases holds : other entry.1 with
      | false => rfl
      | true => rw [← opposite _ (settled _ (.inr holds)), holds, Bool.and_self]
    simp only [alone] at inner
    rw [List.append_assoc]
    exact (inner.append_left _).trans outer
  · intro entry present
    rcases List.mem_append.mp present with found | found
    · exact settled _ (.inl (List.mem_filter.mp found).2)
    · exact settled _ (.inr (List.mem_filter.mp found).2)
  · intro entry present alsoSettled
    have fails := (List.mem_filter.mp present).2
    rw [opposite _ alsoSettled] at fails
    cases holds : one entry.1 <;> rw [holds] at fails <;> cases fails
  · intro all
    have same : (rows.zipIdx.filter fun entry => other entry.1) =
        rows.zipIdx.filter fun entry => !one entry.1 :=
      List.filter_congr fun entry present =>
        opposite _ (all _ (List.fst_mem_of_mem_zipIdx present))
    rw [same]
    exact parts_filter rows fun entry => one entry.1

end Splits

namespace Table

/-- Selections by IS and by IS NOT complement each other on the decided rows. Where the operands
have values of unlike types, or one of them is not-a-number and none is null, both refuse the
row. -/
theorem isNot_complements_is {schema : Schema} {left right : Operand} {first second : Option Nat}
    (leftFound : left.column? schema = .ok first)
    (rightFound : right.column? schema = .ok second) :
    let decided (row : Row) : Prop := Value.Decided
      ((left.side schema first second).value row) ((right.side schema second first).value row)
    let is := (Predicate.compare left .is right).condition
    let isNot := (Predicate.compare left .isNot right).condition
    ∃ same differs, is.bind schema = .ok same ∧ isNot.bind schema = .ok differs ∧
      (∀ row, ∃ one other, same.evaluate row = .ok one ∧ differs.evaluate row = .ok other ∧
        (decided row → other = !one) ∧ (¬ decided row → one = false ∧ other = false)) ∧
      ∀ table : Table, table.schema = schema → table.Shaped →
        let result (chosen : List (Row × Nat)) : ResultSet :=
          ⟨schema.columns.map (·.name), schema.columns.map (·.width), chosen.map Prod.fst⟩
        ∃ accepted refused undecided, Splits table.rows decided accepted refused undecided ∧
          table.select none is = .ok (result accepted) ∧
          table.select none isNot = .ok (result refused) := by
  intro decided is isNot
  have bound := Predicate.bind_compare leftFound rightFound
  have binds := Predicate.condition_bind (bound .is)
  have bindsToo := Predicate.condition_bind (bound .isNot)
  refine ⟨_, _, binds, bindsToo, ?_, ?_⟩
  · intro row
    exact ⟨_, _, rfl, rfl, Value.differs_of_decided, Value.not_differs_of_undecided⟩
  · rintro table rfl shaped result
    have accepted := Table.select_eq_filter shaped binds
    have refused := Table.select_eq_filter shaped bindsToo
    rw [← filter_zipIdx] at accepted refused
    exact ⟨_, _, _, splits_filter table.rows (fun _ => Value.differs_of_decided)
      (fun _ => Value.not_differs_of_undecided), accepted, refused⟩

/-- Of three ages one is the number of the literal, one is another number and one is null. -/
theorem isNot_complements_is_ages :
    let schema : Schema := ⟨[.fresh "age" "t" .int false]⟩
    let table : Table := ⟨"t", schema, none, [[.int 27], [.null], [.int 30]]⟩
    let left : Operand := ⟨"age", false⟩
    let right : Operand := ⟨"27", true⟩
    left.column? schema = .ok (some 0) ∧ right.column? schema = .ok none ∧
      table.select none (Predicate.compare left .is right).condition =
        .ok ⟨["age"], [4], [[.int 27]]⟩ ∧
      table.select none (Predicate.compare left .isNot right).condition =
        .ok ⟨["age"], [4], [[.null], [.int 30]]⟩ ∧
      ∃ accepted refused, Parts table.rows accepted refused ∧
        accepted.map Prod.fst = [[.int 27]] ∧ refused.map Prod.fst = [[.null], [.int 30]] := by
  intro schema table left right
  have leftFound : left.column? schema = .ok (some 0) := by decide +kernel
  have rightFound : right.column? schema = .ok none := by decide +kernel
  have one : table.select none (Predicate.compare left .is right).condition =
      .ok ⟨["age"], [4], [[.int 27]]⟩ := by decide +kernel
  have other : table.select none (Predicate.compare left .isNot right).condition =
      .ok ⟨["age"], [4], [[.null], [.int 30]]⟩ := by decide +kernel
  have shaped : table.Shaped := ⟨by decide, by intro key none; cases none⟩
  obtain ⟨_, _, _, _, _, tables⟩ := isNot_complements_is leftFound rightFound
  obtain ⟨accepted, refused, _, splits, found, foundToo⟩ := tables table rfl shaped
  rw [one, Except.ok.injEq, ResultSet.mk.injEq] at found
  rw [other, Except.ok.injEq, ResultSet.mk.injEq] at foundToo
  have decided : ∀ row ∈ table.rows, Value.Decided ((left.side schema (some 0) none).value row)
      ((right.side schema none (some 0)).value row) := by decide +kernel
  exact ⟨leftFound, rightFound, one, other, accepted, refused, splits.parts decided,
    found.2.2.symm, foundToo.2.2.symm⟩

/-- A number facing a text that is no number is refused by IS and by IS NOT. -/
theorem isNot_refuses_unlike :
    let schema : Schema := ⟨[.fresh "age" "t" .int false]⟩
    let table : Table := ⟨"t", schema, none, [[.int 27]]⟩
    let is := (Predicate.compare ⟨"age", false⟩ .is ⟨"Nikita", true⟩).condition
    let isNot := (Predicate.compare ⟨"age", false⟩ .isNot ⟨"Nikita", true⟩).condition
    let row : Row := [.int 27]
    row.length = schema.size ∧
      ∃ same differs, is.bind schema = .ok same ∧ isNot.bind schema = .ok differs ∧
      same.evaluate row = .ok false ∧ differs.evaluate row = .ok false ∧
      table.select none is = .ok ⟨["age"], [4], []⟩ ∧
      table.select none isNot = .ok ⟨["age"], [4], []⟩ := by
  intro schema table is isNot row
  refine ⟨rfl, ⟨[.check (.compare (.column 0) .is (.literal (.text "Nikita")))]⟩,
    ⟨[.check (.compare (.column 0) .isNot (.literal (.text "Nikita")))]⟩, ?_, ?_, ?_, ?_, ?_, ?_⟩
  all_goals decide +kernel

end Table

end TableStore
