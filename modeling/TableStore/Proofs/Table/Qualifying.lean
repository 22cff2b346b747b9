/-
This file puts the name of the table in front of names that queries and changes of it use.
They give what they gave before, or fail with an error of the same kind.
-/

import TableStore.Proofs.Condition.Qualified
import TableStore.Table.Change

namespace TableStore

/-- The same error, or the same complaint about the name as it is written now. -/
inductive Fault.Qualified (table : String) : Fault → Fault → Prop where
  | same (cause : Fault) : Qualified table cause cause
  | unknownColumn {name other : String} : TableStore.Qualified table name other →
      Qualified table (.logic (.unknownColumn name)) (.logic (.unknownColumn other))
  | assignedTwice {name other : String} : TableStore.Qualified table name other →
      Qualified table (.logic (.assignedTwice name)) (.logic (.assignedTwice other))

/-- The same result, or two errors of the same kind. -/
inductive Answers {α : Type} (table : String) : Except Fault α → Except Fault α → Prop where
  | ok (result : α) : Answers table (.ok result) (.ok result)
  | error {cause other : Fault} :
      cause.Qualified table other → Answers table (.error cause) (.error other)

namespace Answers

variable {α β σ : Type} {table : String}

theorem refl (outcome : Except Fault α) : Answers table outcome outcome := by
  cases outcome with
  | ok result => exact .ok result
  | error cause => exact .error (.same cause)

/-- A success is answered by the same success. -/
theorem eq_of_ok {result : α} {other : Except Fault α} (answers : Answers table (.ok result) other) :
    other = .ok result := by
  cases answers
  rfl

/-- Two steps answer when each of them does. -/
theorem bind {first other : Except Fault α} {next later : α → Except Fault β}
    (early : Answers table first other) (late : ∀ value, Answers table (next value) (later value)) :
    Answers table (first >>= next) (other >>= later) := by
  cases early with
  | ok value => exact late value
  | error qualified => exact .error qualified

/-- Loops answer when their rounds do, item by item. -/
theorem mapM {f : α → Except Fault β} {items others : List α}
    (each : List.Forall₂ (fun item other => Answers table (f item) (f other)) items others) :
    Answers table (items.mapM f) (others.mapM f) := by
  induction each with
  | nil => exact refl _
  | cons first _ ih =>
      rw [List.mapM_cons, List.mapM_cons]
      exact first.bind fun result => ih.bind fun results => refl _

/-- Loops with a state answer when their rounds do, from every state. -/
theorem foldlM {step : σ → α → Except Fault σ} {items others : List α}
    (each : List.Forall₂ (fun item other => ∀ state,
      Answers table (step state item) (step state other)) items others) (start : σ) :
    Answers table (items.foldlM step start) (others.foldlM step start) := by
  induction each generalizing start with
  | nil => exact refl _
  | cons first _ ih =>
      rw [List.foldlM_cons, List.foldlM_cons]
      exact (first start).bind ih

end Answers

/-- Any of the projected names may be qualified. -/
abbrev NamesQualified (table : String) : Option (List String) → Option (List String) → Prop :=
  Option.Rel (List.Forall₂ (Qualified table))

/-- The assigned name may be qualified, and the literal stays. -/
structure AssignmentQualified (table : String) (assignment other : String × String) : Prop where
  name : Qualified table assignment.1 other.1
  literal : other.2 = assignment.2

namespace Table.Owns

variable {table : Table} (owns : table.Owns)
include owns

/-- A qualified name is resolved to the same position, or both are unknown. -/
theorem resolve_answers {name other : String} (qualified : Qualified table.name name other) :
    Answers table.name (table.schema.resolve name) (table.schema.resolve other) := by
  rw [Schema.resolve, Schema.resolve, owns.indexOf?_qualified qualified]
  cases table.schema.indexOf? name with
  | some position => exact .ok position
  | none => exact .error (.unknownColumn qualified)

/-- Qualified names are resolved to the same positions. -/
theorem positions_answers {names others : Option (List String)}
    (qualified : NamesQualified table.name names others) :
    Answers table.name (table.schema.positions names) (table.schema.positions others) := by
  cases qualified with
  | none => exact .refl _
  | some each => exact .mapM (each.imp fun _ _ => owns.resolve_answers)

/-- Two names of one column repeat the same target. -/
theorem addTarget_answers {assignment other : String × String}
    (qualified : AssignmentQualified table.name assignment other) (targets : List (Nat × Value)) :
    Answers table.name (addTarget table.schema targets assignment)
      (addTarget table.schema targets other) := by
  refine (owns.resolve_answers qualified.name).bind fun position => ?_
  rw [qualified.literal]
  cases targets.any (·.1 == position) with
  | true => exact .error (.assignedTwice qualified.name)
  | false => exact .refl _

/-- A qualified condition marks the same rows and has the same faults. -/
theorem marks_qualifies {condition other : Condition} (qualifies : condition.Qualifies table other) :
    table.marks other = table.marks condition := by
  rw [marks, marks, owns.bind_condition qualifies]

/-- A query with qualified names has the same result, or fails alike. -/
theorem select_answers {names others : Option (List String)}
    (qualified : NamesQualified table.name names others) {condition other : Condition}
    (qualifies : condition.Qualifies table other) :
    Answers table.name (table.select names condition) (table.select others other) := by
  rw [select, select, owns.marks_qualifies qualifies]
  exact (owns.positions_answers qualified).bind fun positions => .refl _

/-- A deletion with a qualified condition is the same deletion, faults included. -/
theorem delete_qualifies {condition other : Condition}
    (qualifies : condition.Qualifies table other) : table.delete other = table.delete condition := by
  rw [delete, delete, owns.marks_qualifies qualifies]

/-- An update with qualified names makes the same change, or fails alike. -/
theorem update_answers {assignments others : List (String × String)}
    (qualified : List.Forall₂ (AssignmentQualified table.name) assignments others)
    {condition other : Condition} (qualifies : condition.Qualifies table other) :
    Answers table.name (table.update assignments condition) (table.update others other) := by
  rw [update, update, owns.marks_qualifies qualifies]
  have targets := Answers.foldlM (qualified.imp fun _ _ => owns.addTarget_answers) []
  exact targets.bind fun targets => .refl _

end Table.Owns

end TableStore
