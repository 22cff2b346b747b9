/-
This file compares an update with the table that it should give, described cell by cell.
The check of an update looks at the new key alone, and still it refuses exactly the updates after
which a comparison of all rows would find a key twice.
-/

import Mathlib.Data.List.Pairwise
import TableStore.Proofs.Table.Change

namespace TableStore

namespace Value

/-- Unlike other keys, a key that was read from a literal is the same as itself. -/
theorem same_self_of_literal {type : DataType} {text : String} {value : Value}
    (read : type.literal? text = some value) : value.same value = true := by
  have accepted := DataType.accepts_literal read
  cases value with
  | null => rfl
  | bool truth => exact beq_self_eq_true truth
  | int number => exact beq_self_eq_true number
  | text content => exact beq_self_eq_true content
  | float number =>
      cases type <;> cases accepted
      have finite := DataType.finite_of_float read
      cases number <;> cases finite
      simp [same, Binary.compare?, Binary.place?]
  | double number =>
      cases type <;> cases accepted
      have finite := DataType.finite_of_double read
      cases number <;> cases finite
      simp [same, Binary.compare?, Binary.place?]

end Value

namespace Table

/-- The assignments name different columns, each with a literal that its column takes. -/
structure Assigns (schema : Schema) (assignments : List (String × String))
    (targets : List (Nat × Value)) : Prop where
  each : List.Forall₂ (Assigned schema) assignments targets
  apart : targets.Pairwise fun first second => first.1 ≠ second.1

/-- Assignments are accepted one after the other. -/
theorem addTargets_ok {schema : Schema} {assignments : List (String × String)}
    {before targets : List (Nat × Value)}
    (apart : before.Pairwise fun first second => first.1 ≠ second.1) :
    assignments.foldlM (addTarget schema) before = .ok targets ↔
      ∃ added, List.Forall₂ (Assigned schema) assignments added ∧ targets = before ++ added ∧
        targets.Pairwise fun first second => first.1 ≠ second.1 := by
  induction assignments generalizing before with
  | nil =>
      constructor
      · intro done
        cases done
        exact ⟨[], .nil, (List.append_nil _).symm, apart⟩
      · rintro ⟨added, none, rfl, _⟩
        cases none
        rw [List.append_nil]
        rfl
  | cons assignment rest ih =>
      rw [List.foldlM_cons]
      constructor
      · intro done
        obtain ⟨more, first, remaining⟩ := bind_eq_ok.mp done
        obtain ⟨target, assigned, fresh, rfl⟩ := addTarget_ok.mp first
        have longer : (before ++ [target]).Pairwise fun first second => first.1 ≠ second.1 :=
          List.pairwise_append.mpr ⟨apart, List.pairwise_singleton _ _,
            fun other present last same => by
              rw [List.mem_singleton.mp same]
              exact fresh other present⟩
        obtain ⟨added, others, rfl, distinct⟩ := (ih longer).mp remaining
        exact ⟨target :: added, .cons assigned others, by simp, distinct⟩
      · rintro ⟨added, each, rfl, distinct⟩
        obtain ⟨target, others, assigned, later, rfl⟩ := List.forall₂_cons_left_iff.mp each
        have regrouped := List.append_cons before target others
        have longer := (List.pairwise_append.mp (regrouped ▸ distinct)).1
        have fresh : ∀ other ∈ before, other.1 ≠ target.1 := fun other present =>
          (List.pairwise_append.mp longer).2.2 other present target (List.mem_singleton_self _)
        rw [addTarget_ok.mpr ⟨target, assigned, fresh, rfl⟩, ok_bind]
        exact (ih longer).mpr ⟨others, later, regrouped, distinct⟩

/-- Assignments are accepted one by one exactly when each has its target and no two are for one
column. -/
theorem assigns_iff {schema : Schema} {assignments : List (String × String)}
    {targets : List (Nat × Value)} :
    assignments.foldlM (addTarget schema) [] = .ok targets ↔
      Assigns schema assignments targets := by
  rw [addTargets_ok .nil]
  constructor
  · rintro ⟨added, each, rfl, apart⟩
    exact ⟨each, apart⟩
  · rintro ⟨each, apart⟩
    exact ⟨targets, each, rfl, apart⟩

theorem Assigns.targets {schema : Schema} {assignments : List (String × String)}
    {targets : List (Nat × Value)} (assigns : Assigns schema assignments targets) :
    Targets schema targets := targets_of_assignments (assigns_iff.mpr assigns)

/-- Every assignment has its target. -/
theorem Assigns.target {schema : Schema} {assignments : List (String × String)}
    {targets : List (Nat × Value)} (assigns : Assigns schema assignments targets)
    {assignment : String × String} (present : assignment ∈ assignments) :
    ∃ target ∈ targets, Assigned schema assignment target := by
  have each := assigns.each
  clear assigns
  induction each with
  | nil => cases present
  | cons assigned _ ih =>
      rcases List.mem_cons.mp present with rfl | later
      · exact ⟨_, List.mem_cons_self, assigned⟩
      · obtain ⟨target, member, found⟩ := ih later
        exact ⟨target, List.mem_cons_of_mem _ member, found⟩

/-- The row with the assigned values in their places and all other cells as they were. -/
def overwritten (targets : List (Nat × Value)) (row : Row) : Row :=
  row.mapIdx fun position value => (targets.lookup position).getD value

/-- The columns with room for the assigned values. -/
def fitted (targets : List (Nat × Value)) (schema : Schema) : Schema :=
  ⟨schema.columns.mapIdx fun position column =>
    (targets.lookup position).elim column column.fit⟩

/-- The table with the assigned values in exactly the rows that the condition accepts. Every row is
judged as it was. -/
def rewritten (table : Table) (targets : List (Nat × Value)) (bound : BoundCondition) : Table :=
  { table with
    schema := if table.rows.any bound.accepts then fitted targets table.schema else table.schema
    rows := table.rows.map fun row =>
      if bound.accepts row then overwritten targets row else row }

/-- A position that is no target has no new value. -/
theorem lookup_eq_none {targets : List (Nat × Value)} {position : Nat}
    (fresh : ∀ target ∈ targets, position ≠ target.1) : targets.lookup position = none := by
  rw [List.lookup_eq_none_iff]
  intro target present
  simpa using fresh target present

/-- Values for different positions may be written one after the other. -/
theorem assign_eq_overwritten {targets : List (Nat × Value)}
    (apart : targets.Pairwise fun first second => first.1 ≠ second.1) (row : Row) :
    assign targets row = overwritten targets row := by
  induction targets generalizing row with
  | nil =>
      apply List.ext_getElem?
      intro position
      simp [overwritten, assign]
  | cons target rest ih =>
      obtain ⟨others, later⟩ := List.pairwise_cons.mp apart
      refine (ih later (row.set target.1 target.2)).trans ?_
      apply List.ext_getElem?
      intro position
      rw [overwritten, overwritten, List.getElem?_mapIdx, List.getElem?_mapIdx, List.getElem?_set,
        List.lookup_cons]
      by_cases same : target.1 = position
      · subst same
        rw [lookup_eq_none others]
        by_cases within : target.1 < row.length
        · simp [within]
        · simp [within]
      · rw [if_neg same, beq_false_of_ne (Ne.symm same)]

/-- An overwritten row holds every literal that is assigned, in the place of its column. -/
theorem overwritten_at {schema : Schema} {assignments : List (String × String)}
    {targets : List (Nat × Value)} {key text : String} {position : Nat} {column : Column}
    {value : Value} (assigns : Assigns schema assignments targets)
    (present : (key, text) ∈ assignments) (named : schema.indexOf? key = some position)
    (there : schema.columns[position]? = some column)
    (read : column.type.literal? text = some value) {row : Row} (within : position < row.length) :
    (overwritten targets row).at position = value := by
  obtain ⟨⟨place, assigned⟩, member, found, other, here, given, _⟩ := assigns.target present
  obtain rfl : place = position := Option.some.inj (found.symm.trans named)
  obtain rfl : other = column := Option.some.inj (here.symm.trans there)
  obtain rfl : assigned = value := Option.some.inj (given.symm.trans read)
  rw [← assign_eq_overwritten assigns.apart]
  exact assign_at_of_mem assigns.apart member within

/-- Targets for different columns make room in any order. -/
theorem widened_eq_fitted {targets : List (Nat × Value)}
    (apart : targets.Pairwise fun first second => first.1 ≠ second.1) (schema : Schema) :
    widened targets schema = fitted targets schema := by
  induction targets generalizing schema with
  | nil =>
      have same : schema.columns.mapIdx (fun _ column => column) = schema.columns := by
        apply List.ext_getElem?
        simp
      exact (congrArg Schema.mk same).symm
  | cons target rest ih =>
      obtain ⟨others, later⟩ := List.pairwise_cons.mp apart
      refine (ih later (schema.modify target.1 (·.fit target.2))).trans ?_
      rw [fitted, fitted, Schema.mk.injEq]
      apply List.ext_getElem?
      intro position
      rw [List.getElem?_mapIdx, List.getElem?_mapIdx, Schema.modify, List.getElem?_modify,
        List.lookup_cons]
      by_cases same : target.1 = position
      · subst same
        rw [lookup_eq_none others, beq_self_eq_true, Option.map_eq_map, Option.map_map]
        simp [Function.comp_def]
      · simp [same, beq_false_of_ne (Ne.symm same)]

/-- The marked rows are rewritten, and the columns make room for them if there are any. -/
theorem updated_eq_rewritten {targets : List (Nat × Value)}
    (apart : targets.Pairwise fun first second => first.1 ≠ second.1) (table : Table)
    (bound : BoundCondition) :
    table.updated targets (table.rows.map bound.accepts) = table.rewritten targets bound := by
  have some : (table.rows.map bound.accepts).count true > 0 ↔
      table.rows.any bound.accepts = true := by
    rw [gt_iff_lt, List.count_pos_iff, List.mem_map, List.any_eq_true]
  have rows : (table.rows.zip (table.rows.map bound.accepts)).map (reassigned targets) =
      table.rows.map fun row => if bound.accepts row then overwritten targets row else row := by
    rw [zip_marks, List.map_map]
    apply List.map_congr_left
    intro row _
    simp only [Function.comp, reassigned, assign_eq_overwritten apart]
  unfold updated rewritten
  simp only [some, rows, widened_eq_fitted apart]

/-- An update that succeeds leaves the rewritten table. -/
theorem rewritten_of_update {table changed : Table} {assignments : List (String × String)}
    {condition : Condition} {count : Nat}
    (done : table.update assignments condition = .ok (count, changed)) :
    ∃ targets bound, Assigns table.schema assignments targets ∧
      condition.bind table.schema = .ok bound ∧ changed = table.rewritten targets bound := by
  obtain ⟨targets, marks, valid, marked, _, _, rfl⟩ := update_eq_ok.mp done
  obtain ⟨bound, binds, rfl⟩ := marks_ok.mp marked
  have assigns := assigns_iff.mp valid
  exact ⟨targets, bound, assigns, binds, updated_eq_rewritten assigns.apart table bound⟩

/-- A check that fails has seen a key that two rows would share. -/
theorem checkChange_of_distinct {table : Table} (sound : table.Sound)
    {targets : List (Nat × Value)} (valid : Targets table.schema targets) {marks : List Bool}
    (size : marks.length = table.rows.length)
    (distinct : (table.updated targets marks).DistinctKeys) :
    table.checkChange targets marks = .ok () := by
  unfold checkChange
  cases new : table.newKey? targets with
  | none => rfl
  | some target =>
      obtain ⟨keyed, chosen, present⟩ := newKey?_eq_some new
      have apart := List.pairwise_map.mp (distinctKeys_iff.mp distinct target.1 keyed)
      have gets : ∀ row, (row, true) ∈ table.rows.zip marks →
          (reassigned targets (row, true)).at target.1 = target.2 := by
        intro row member
        apply assign_at_of_mem valid.apart chosen
        rw [← (sound.admitted row (List.of_mem_zip member).1).length_eq]
        exact sound.keyed target.1 keyed
      have itself : target.2.same target.2 = true := by
        obtain ⟨column, _, ⟨text, read⟩, _⟩ := valid.fitting target chosen
        exact Value.same_self_of_literal read
      -- Two marked rows would both get the new key.
      have few : marks.count true ≤ 1 := by
        rw [← pairwise_iff_count, ← pairwise_zip_marks size]
        refine apart.imp_of_mem ?_
        rintro ⟨row, mark⟩ ⟨other, otherMark⟩ early late separate ⟨rfl, rfl⟩
        apply separate
        rw [Row.SharesKey, gets row early, gets other late]
        exact ⟨present, itself⟩
      -- A row that keeps the new key would share it with the marked one.
      have free : marks.count true = 1 → ∀ other ∈ marked table.rows marks false,
          ¬ (other.at target.1).same target.2 = true := by
        intro single other left same
        have some : true ∈ marks := List.count_pos_iff.mp (by omega)
        rw [← List.map_snd_zip (Nat.le_of_eq size)] at some
        obtain ⟨⟨row, _⟩, member, rfl⟩ := List.mem_map.mp some
        have : Std.Symm fun first second : Row × Bool =>
            ¬ Row.SharesKey target.1 (reassigned targets first) (reassigned targets second) :=
          ⟨fun _ _ => mt Row.SharesKey.symm⟩
        apply apart.forall member (mem_marked.mp left) (by simp)
        rw [Row.SharesKey, gets row member]
        exact ⟨present, Value.same_comm _ _ ▸ same⟩
      have passed : (marks.count true > 1 ||
          (marks.count true == 1 && (marked table.rows marks false).any
            fun other => (other.at target.1).same target.2)) = false := by
        rw [← Bool.not_eq_true, Bool.or_eq_true, Bool.and_eq_true, decide_eq_true_eq, beq_iff_eq,
          List.any_eq_true]
        rintro (several | ⟨single, other, left, same⟩)
        · omega
        · exact free single other left same
      simp only [passed, Bool.false_eq_true, if_false]

/-- An update succeeds exactly when its assignments can be read, its condition can be bound, and no
key occurs twice in the table that has the assigned values in the rows that the condition accepts.
It gives that table and the number of these rows. -/
theorem update_iff_rewritten {table : Table} (sound : table.Sound)
    (assignments : List (String × String)) (condition : Condition) (count : Nat)
    (changed : Table) :
    table.update assignments condition = .ok (count, changed) ↔
      ∃ targets bound, Assigns table.schema assignments targets ∧
        condition.bind table.schema = .ok bound ∧
        (table.rewritten targets bound).DistinctKeys ∧
        count = table.rows.countP bound.accepts ∧ changed = table.rewritten targets bound := by
  have accepted (bound : BoundCondition) :
      (table.rows.map bound.accepts).count true = table.rows.countP bound.accepts := by
    rw [List.count, List.countP_map]
    apply List.countP_congr
    simp
  have size (bound : BoundCondition) :
      (table.rows.map bound.accepts).length = table.rows.length := List.length_map _
  rw [update_eq_ok]
  constructor
  · rintro ⟨targets, marks, valid, marked, passed, rfl, rfl⟩
    obtain ⟨bound, binds, rfl⟩ := marks_ok.mp marked
    have assigns := assigns_iff.mp valid
    have distinct := distinct_updated sound assigns.targets (size bound) passed
    rw [accepted, updated_eq_rewritten assigns.apart] at *
    exact ⟨targets, bound, assigns, binds, distinct, rfl, rfl⟩
  · rintro ⟨targets, bound, assigns, binds, distinct, rfl, rfl⟩
    rw [← updated_eq_rewritten assigns.apart] at distinct ⊢
    exact ⟨targets, _, assigns_iff.mpr assigns, marks_ok.mpr ⟨bound, binds, rfl⟩,
      checkChange_of_distinct sound assigns.targets (size bound) distinct, (accepted bound).symm,
      rfl⟩

/-- A row keeps its own key while its note changes. -/
theorem update_iff_rewritten_own_key :
    let columns (width : Nat) : List Column :=
      [⟨"id", "t", .int, false, 4, none⟩, ⟨"note", "t", .varchar 9, false, width, none⟩]
    let table : Table := ⟨"t", ⟨columns 4⟩, some 0,
      [[.int 1, .text "a"], [.null, .text "b"], [.int 2, .text "a"]]⟩
    let condition : Condition := ⟨[.leaf (.compare ⟨"id", false⟩ .equal ⟨"2", false⟩)], rfl⟩
    table.Sound ∧
      table.update [("id", "2"), ("t.note", "longer")] condition = .ok (1, ⟨"t", ⟨columns 6⟩, some 0,
        [[.int 1, .text "a"], [.null, .text "b"], [.int 2, .text "longer"]]⟩) := by
  intro columns table condition
  have sound : table.Sound := {
    owned := by decide
    keyed := by
      rintro key ⟨⟩
      decide
    admitted := by decide
    distinct := by decide }
  refine ⟨sound, (update_iff_rewritten sound _ _ _ _).mpr
    ⟨[(0, .int 2), (1, .text "longer")], ⟨[.check (.compare (.column 0) .equal (.literal (.int 2)))]⟩,
      ?_, by decide +kernel, by decide +kernel, by decide +kernel, by decide +kernel⟩⟩
  have first : Assigned table.schema ("id", "2") (0, .int 2) :=
    ⟨by decide +kernel, _, rfl, by decide +kernel, by simp⟩
  have second : Assigned table.schema ("t.note", "longer") (1, .text "longer") :=
    ⟨by decide +kernel, _, rfl, by decide +kernel, by simp⟩
  exact ⟨.cons first (.cons second .nil), by decide⟩

end Table

end TableStore
