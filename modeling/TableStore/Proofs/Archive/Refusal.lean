/-
This file says exactly which stores cannot be written to a file.
-/

import TableStore.Proofs.Archive.Reloading

namespace TableStore.Archive

/-- A text cannot be written when it would break its line or look like the end of its field. -/
def Unfit (text : List Char) : Prop :=
  '\n' ∈ text ∨ '\r' ∈ text ∨ separator <:+: text ∨ opening <:+ text

/-- A store cannot be written because of its name or because of a stored text. -/
def Unsavable (name : String) (tables : List Table) : Prop :=
  '\n' ∈ name.toList ∨ '\r' ∈ name.toList ∨
    ∃ table ∈ tables, ∃ row ∈ table.rows, ∃ text, Value.text text ∈ row ∧ Unfit text.toList

/-- A text fits a field exactly when none of the four causes forbids it. -/
theorem fits_iff_not_unfit {text : List Char} : Fits text ↔ ¬ Unfit text := by
  unfold Unfit
  constructor
  · rintro fits (feed | back | inside | ending)
    · exact fits.noFeed feed
    · exact fits.noReturn back
    · exact fits.noSeparator inside
    · exact fits.noOpening ending
  · intro fit
    simp only [not_or] at fit
    exact ⟨fit.1, fit.2.1, fit.2.2.1, fit.2.2.2⟩

/-- Every text of the rows fits its field. -/
def FitRows (rows : List Row) : Prop :=
  ∀ row ∈ rows, ∀ text, Value.text text ∈ row → Fits text.toList

/-- The rows of a table can be written exactly when all their texts fit. -/
theorem rowLines_succeeds {table : String} {number : Nat} {rows : List Row} :
    (∃ lines, rowLines table number rows = .ok lines) ↔ FitRows rows := by
  induction rows generalizing number with
  | nil =>
      simp only [FitRows, List.not_mem_nil, false_implies, implies_true, iff_true]
      exact ⟨[], rfl⟩
  | cons row rest ih =>
      rw [FitRows, List.forall_mem_cons]
      constructor
      · rintro ⟨lines, written⟩
        obtain ⟨line, first, remaining⟩ := bind_eq_ok.mp written
        obtain ⟨others, later, _⟩ := bind_eq_ok.mp remaining
        exact ⟨(rowLine_ok.mp first).1, ih.mp ⟨others, later⟩⟩
      · rintro ⟨fits, others⟩
        obtain ⟨lines, later⟩ := ih.mpr others
        refine ⟨" ".intercalate (row.map field) :: lines, ?_⟩
        rw [rowLines, rowLine_ok.mpr ⟨fits, rfl⟩, ok_bind, later]
        rfl

/-- Only the rows can keep a table from being written. -/
theorem tableLines_succeeds {table : Table} :
    (∃ lines, tableLines table = .ok lines) ↔ FitRows table.rows := by
  constructor
  · rintro ⟨lines, written⟩
    obtain ⟨rows, inserted, _⟩ := bind_eq_ok.mp written
    exact rowLines_succeeds.mp ⟨rows, inserted⟩
  · intro fits
    obtain ⟨rows, written⟩ := @rowLines_succeeds table.name 1 table.rows |>.mpr fits
    rw [tableLines, written]
    exact ⟨_, rfl⟩

/-- A store is unsavable exactly when a check of the writer fails. -/
theorem unsavable_iff {name : String} {tables : List Table} :
    Unsavable name tables ↔
      ¬ (breaksLine name.toList = false ∧ ∀ table ∈ tables, FitRows table.rows) := by
  have line : breaksLine name.toList = false ↔ ¬ ('\n' ∈ name.toList ∨ '\r' ∈ name.toList) := by
    rw [breaksLine, ← Bool.not_eq_true, Bool.or_eq_true, List.contains_iff_mem,
      List.contains_iff_mem]
  have rows : (∀ table ∈ tables, FitRows table.rows) ↔ ¬ ∃ table ∈ tables, ∃ row ∈ table.rows,
      ∃ text, Value.text text ∈ row ∧ Unfit text.toList := by
    simp only [FitRows, fits_iff_not_unfit, not_exists, not_and]
  rw [line, rows, ← not_or, not_not, Unsavable, or_assoc]

/-- A store is written when neither its name nor a stored text stands in the way. -/
theorem write_succeeds {name : String} {tables : List Table} :
    (∃ content, write name tables = .ok content) ↔ ¬ Unsavable name tables := by
  rw [unsavable_iff, not_not]
  unfold write Archive.lines
  cases breaksLine name.toList with
  | true =>
      simp only [Bool.true_eq_false, false_and, iff_false]
      rintro ⟨content, written⟩
      cases written
  | false =>
      simp only [Bool.false_eq_true, if_false, true_and, ← tableLines_succeeds, ← mapM_succeeds]
      constructor
      · rintro ⟨content, written⟩
        obtain ⟨lines, listed, _⟩ := bind_eq_ok.mp written
        obtain ⟨parts, mapped, _⟩ := bind_eq_ok.mp listed
        exact ⟨parts, mapped⟩
      · rintro ⟨parts, mapped⟩
        rw [mapped]
        exact ⟨_, rfl⟩

/-- A row that cannot be written is a fault of logic. -/
theorem rowLines_error {table : String} {number : Nat} {rows : List Row} {fault : Fault}
    (failed : rowLines table number rows = .error fault) : ∃ cause, fault = .logic cause := by
  induction rows generalizing number with
  | nil => cases failed
  | cons row rest ih =>
      rcases bind_eq_error.mp failed with first | ⟨line, _, remaining⟩
      · unfold rowLine at first
        split at first
        · cases first
          exact ⟨_, rfl⟩
        · cases first
      · rcases bind_eq_error.mp remaining with later | ⟨lines, _, last⟩
        · exact ih later
        · cases last

/-- A refusal is never blamed on the grammar. -/
theorem write_error {name : String} {tables : List Table} {fault : Fault}
    (failed : write name tables = .error fault) : ∃ cause, fault = .logic cause := by
  rcases bind_eq_error.mp failed with listing | ⟨lines, _, last⟩
  · unfold Archive.lines at listing
    split at listing
    · cases listing
      exact ⟨_, rfl⟩
    · rcases bind_eq_error.mp listing with mapping | ⟨parts, _, last⟩
      · obtain ⟨table, _, made⟩ := mapM_eq_error mapping
        rcases bind_eq_error.mp made with inserted | ⟨rows, _, last⟩
        · exact rowLines_error inserted
        · cases last
      · cases last
  · cases last

/-- A store is refused exactly when its name or a stored text stands in the way. -/
theorem write_refuses {name : String} {tables : List Table} :
    (∃ cause, write name tables = .error (.logic cause)) ↔ Unsavable name tables := by
  rw [← not_iff_not, ← write_succeeds]
  cases outcome : write name tables with
  | ok content => simp
  | error fault =>
      obtain ⟨cause, rfl⟩ := write_error outcome
      simp

end TableStore.Archive
