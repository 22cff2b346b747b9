/-
This file says which lines of a file a failure depends on.
A damaged file fails at the same line for the same cause, whatever follows that line.
-/

import TableStore.Archive.Reader
import TableStore.Proofs.Archive.Reloading
import TableStore.Proofs.Success

namespace TableStore.Archive

/-- The first of the lines that are left settle the damage. It is at the last of them, counted from
the given line, and is found there whatever follows. -/
def Settles {α : Type} (read : List String → Except FileFault α) (line : Nat) (rest : List String)
    (place : Nat) (damage : Damage) : Prop :=
  ∃ taken left, rest = taken ++ left ∧ place = line + taken.length ∧
    (∀ part, damage ≠ .missing part) ∧
    ∀ more, read (taken ++ more) = .error (.damaged place damage)

/-- A part is missing behind the last of the lines that are left. -/
def Exhausts (line : Nat) (rest : List String) (place : Nat) (damage : Damage) : Prop :=
  place = line + rest.length + 1 ∧ ∃ part, damage = .missing part

section Settling

variable {α β : Type} {read : List String → Except FileFault α}
  {later : List String → Except FileFault β} {line middle place : Nat} {rest taken : List String}
  {damage : Damage}

/-- A reader that fails wherever another one does is settled by the same lines. -/
theorem Settles.imp (settled : Settles later line rest place damage)
    (fails : ∀ lines, later lines = .error (.damaged place damage) →
      read lines = .error (.damaged place damage)) : Settles read line rest place damage := by
  obtain ⟨taken, left, parts, here, present, again⟩ := settled
  exact ⟨taken, left, parts, here, present, fun more => fails _ (again more)⟩

/-- Damage that is found behind some lines is found as well when these lines are taken first. -/
theorem Settles.after (settled : Settles later middle rest place damage)
    (counted : middle = line + taken.length)
    (fails : ∀ lines, later lines = .error (.damaged place damage) →
      read (taken ++ lines) = .error (.damaged place damage)) :
    Settles read line (taken ++ rest) place damage := by
  obtain ⟨others, left, parts, here, present, again⟩ := settled
  refine ⟨taken ++ others, left, ?_, ?_, present, fun more => ?_⟩
  · rw [parts, List.append_assoc]
  · rw [here, counted, List.length_append, Nat.add_assoc]
  · rw [List.append_assoc]
    exact fails _ (again more)

end Settling

namespace Reader

variable {α β : Type}

/-- What a reader does is settled by the lines that it takes, and it counts them. If it fails, it
fails at the last line that it took, or one past the end because a line is missing there. -/
structure Pinpoints (reader : Reader α) : Prop where
  value : ∀ line rest value final, reader.run ⟨line, rest⟩ = .ok (value, final) →
    ∃ taken, rest = taken ++ final.rest ∧ final.line = line + taken.length ∧
      ∀ more, reader.run ⟨line, taken ++ more⟩ = .ok (value, ⟨final.line, more⟩)
  damage : ∀ line rest place damage,
    reader.run ⟨line, rest⟩ = .error (.damaged place damage) →
      Settles (fun lines => reader.run ⟨line, lines⟩) line rest place damage ∨
      Exhausts line rest place damage

theorem pinpoints_pure (value : α) : Pinpoints (pure value) where
  value line rest value final done := by
    cases done
    exact ⟨[], rfl, rfl, fun more => rfl⟩
  damage line rest place damage failed := by cases failed

/-- Damage other than a missing part is found without another line. -/
theorem pinpoints_damaged {damage : Damage} (present : ∀ part, damage ≠ .missing part) :
    Pinpoints (damaged damage : Reader α) where
  value line rest value final done := by cases done
  damage line rest place damage failed := by
    cases failed
    exact Or.inl ⟨[], rest, rfl, rfl, present, fun more => rfl⟩

/-- A line that is missing is missing one past the end. -/
theorem pinpoints_next (part : FilePart) : Pinpoints (next part) where
  value line rest value final done := by
    cases rest with
    | nil => cases done
    | cons _ _ =>
        cases done
        exact ⟨[value], rfl, rfl, fun more => rfl⟩
  damage line rest place damage failed := by
    cases rest with
    | nil =>
        cases failed
        exact Or.inr ⟨rfl, part, rfl⟩
    | cons _ _ => cases failed

/-- What follows a reader fails at the lines that the reader has left. -/
theorem Pinpoints.bind {reader : Reader α} {next : α → Reader β} (first : Pinpoints reader)
    (second : ∀ value, Pinpoints (next value)) : Pinpoints (reader >>= next) where
  value line rest result final done := by
    rw [StateT.run_bind] at done
    obtain ⟨⟨value, middle⟩, early, late⟩ := bind_eq_ok.mp done
    obtain ⟨taken, parts, counted, again⟩ := first.value line rest value middle early
    obtain ⟨others, behind, further, later⟩ := (second value).value _ _ result final late
    refine ⟨taken ++ others, ?_, ?_, fun more => ?_⟩
    · rw [parts, behind, List.append_assoc]
    · rw [further, counted, List.length_append, Nat.add_assoc]
    · rw [StateT.run_bind, List.append_assoc, again, ok_bind]
      exact later more
  damage line rest place damage failed := by
    rw [StateT.run_bind] at failed
    rcases bind_eq_error.mp failed with early | ⟨⟨value, middle⟩, early, late⟩
    · rcases first.damage line rest place damage early with settled | past
      · refine Or.inl (settled.imp fun lines failed => ?_)
        simp only [StateT.run_bind, failed, error_bind]
      · exact Or.inr past
    · obtain ⟨taken, rfl, counted, again⟩ := first.value line rest value middle early
      rcases (second value).damage _ _ place damage late with settled | ⟨past, missing⟩
      · refine Or.inl (settled.after counted fun lines failed => ?_)
        simp only [StateT.run_bind, again, ok_bind, failed]
      · refine Or.inr ⟨?_, missing⟩
        rw [past, counted, List.length_append]
        omega

/-- What is made of the value does not move the damage. -/
theorem Pinpoints.map {reader : Reader α} {f : α → β} (first : Pinpoints reader) :
    Pinpoints (f <$> reader) := by
  rw [map_eq_pure_bind]
  exact first.bind fun value => pinpoints_pure (f value)

/-- Nothing is read behind a damage. -/
theorem pinpoints_damaged_bind {damage : Damage} {next : α → Reader β}
    (present : ∀ part, damage ≠ .missing part) : Pinpoints (damaged damage >>= next) := by
  have never : (damaged damage >>= next : Reader β) = damaged damage := rfl
  exact never ▸ pinpoints_damaged present

/-- A choice that does not depend on the lines fails where its branches do. -/
theorem pinpoints_ite {condition : Prop} [Decidable condition] {first second : Reader α}
    (yes : Pinpoints first) (no : Pinpoints second) :
    Pinpoints (if condition then first else second) := by
  split
  · exact yes
  · exact no

/-- What must be there is asked for at the line that was read last. -/
theorem pinpoints_need {damage : Damage} {option : Option α}
    (present : ∀ part, damage ≠ .missing part) : Pinpoints (need damage option) := by
  cases option with
  | none => exact pinpoints_damaged present
  | some value => exact pinpoints_pure value

/-- A fault in what a line says is damage at the line that was read last. -/
theorem pinpoints_accept {outcome : Except Fault α} : Pinpoints (accept outcome) := by
  cases outcome with
  | error cause => exact pinpoints_damaged nofun
  | ok value => exact pinpoints_pure value

theorem pinpoints_count (part : FilePart) : Pinpoints (count part) :=
  (pinpoints_next part).bind fun _ => pinpoints_need (by nofun)

end Reader

open Reader

/-- A column takes one line, and all damage to it is found there. -/
theorem readColumn_pinpoints (table : String) (position : Nat) :
    Pinpoints (readColumn table position) := by
  unfold readColumn
  refine (pinpoints_next .column).bind fun line => ?_
  split
  · refine pinpoints_ite (pinpoints_damaged_bind nofun) ?_
    refine pinpoints_accept.bind fun type => (pinpoints_need (by nofun)).bind fun notNull => ?_
    refine (pinpoints_need (by nofun)).bind fun wide => pinpoints_ite ?_ ?_
    · exact (pinpoints_pure none).bind fun _ => pinpoints_pure _
    · exact (pinpoints_need (by nofun)).map.bind fun _ => pinpoints_pure _
  · exact pinpoints_damaged nofun

/-- Columns are read line by line, as many as announced. -/
theorem readColumns_pinpoints (table : String) (position count : Nat) :
    Pinpoints (readColumns table position count) := by
  induction count generalizing position with
  | zero => exact pinpoints_pure []
  | succ count ih =>
      refine (readColumn_pinpoints table position).bind fun column => ?_
      exact (ih (position + 1)).bind fun others => pinpoints_pure _

theorem readKey_pinpoints (schema : Schema) : Pinpoints (readKey schema) :=
  (pinpoints_next .primaryKey).bind fun _ =>
    pinpoints_ite (pinpoints_pure none) (pinpoints_need (by nofun)).map

theorem readRow_pinpoints (table : Table) : Pinpoints (readRow table) :=
  (pinpoints_next .row).bind fun _ => (pinpoints_need (by nofun)).bind fun _ =>
    pinpoints_accept.bind fun _ => pinpoints_accept

/-- Rows are read line by line, as many as announced. -/
theorem readRows_pinpoints (count : Nat) (table : Table) : Pinpoints (readRows count table) := by
  induction count generalizing table with
  | zero => exact pinpoints_pure table
  | succ count ih => exact (readRow_pinpoints table).bind ih

/-- A table is damaged where one of its parts is. -/
theorem readTable_pinpoints : Pinpoints readTable := by
  refine (pinpoints_next .tableName).bind fun name => ?_
  refine (pinpoints_count .columnCount).bind fun size => ?_
  refine (readColumns_pinpoints name 0 size).bind fun columns => ?_
  refine (readKey_pinpoints ⟨columns⟩).bind fun key => ?_
  exact (pinpoints_count .rowCount).bind fun count => readRows_pinpoints count _

/-- A name that is taken is found at the last line of the table that has it. -/
theorem readTables_pinpoints (count : Nat) (tables : List Table) :
    Pinpoints (readTables count tables) := by
  induction count generalizing tables with
  | zero => exact pinpoints_pure tables
  | succ count ih =>
      refine readTable_pinpoints.bind fun table => ?_
      exact pinpoints_ite (pinpoints_damaged_bind nofun) (ih (tables ++ [table]))

/-- A store is damaged where its name, its count or one of its tables is. -/
theorem readStore_pinpoints : Pinpoints readStore := by
  refine (pinpoints_next .databaseName).bind fun name => ?_
  refine (pinpoints_count .tableCount).bind fun count => ?_
  exact (readTables_pinpoints count []).bind fun tables => pinpoints_pure _

/-- Trailing content is damaged at its own line, whatever follows it. -/
theorem readEnd_damaged {line : Nat} {rest : List String} {place : Nat} {damage : Damage}
    (failed : readEnd line rest = .error (.damaged place damage)) :
    Settles (readEnd line) line rest place damage := by
  induction rest generalizing line with
  | nil => cases failed
  | cons text rest ih =>
      rw [readEnd] at failed
      split at failed
      · rename_i blank
        have skipped (lines : List String) : readEnd line ([text] ++ lines) =
            readEnd (line + 1) lines := by
          rw [List.singleton_append, readEnd, if_pos blank]
        exact (ih failed).after rfl fun lines failed => (skipped lines).trans failed
      · rename_i content
        cases failed
        refine ⟨[text], rest, rfl, rfl, nofun, fun more => ?_⟩
        rw [List.singleton_append, readEnd, if_neg content]

/-- A damaged file is settled at one of its lines, or ends too early. -/
theorem readLines_damaged {lines : List String} {place : Nat} {damage : Damage}
    (failed : readLines lines = .error (.damaged place damage)) :
    Settles readLines 0 lines place damage ∨ Exhausts 0 lines place damage := by
  rcases bind_eq_error.mp failed with early | ⟨⟨store, cursor⟩, early, late⟩
  · rcases readStore_pinpoints.damage 0 lines place damage early with settled | past
    · refine Or.inl (settled.imp fun lines failed => ?_)
      simp only [readLines, failed, error_bind]
    · exact Or.inr past
  · obtain ⟨taken, rfl, counted, again⟩ := readStore_pinpoints.value 0 lines store cursor early
    have ending : readEnd cursor.line cursor.rest = .error (.damaged place damage) := by
      rcases bind_eq_error.mp late with ending | ⟨_, _, last⟩
      · exact ending
      · cases last
    refine Or.inl ((readEnd_damaged ending).after counted fun lines failed => ?_)
    simp only [readLines, again, ok_bind, failed, error_bind]

/-- The lines that settle the damage are at least one, and no more than there are. -/
theorem Settles.bounds {lines : List String} {place : Nat} {damage : Damage}
    (settled : Settles readLines 0 lines place damage) : 1 ≤ place ∧ place ≤ lines.length := by
  obtain ⟨taken, left, rfl, here, present, again⟩ := settled
  cases taken with
  | nil =>
      -- A file without lines lacks its name, which is damage to no line.
      cases again []
      exact absurd rfl (present .databaseName)
  | cons first others =>
      rw [here, List.length_append, List.length_cons]
      omega

/-- Lines that agree as far as the damage are damaged alike. -/
theorem readLines_same {lines others : List String} {place : Nat} {damage : Damage}
    (failed : readLines lines = .error (.damaged place damage))
    (agree : others.take place = lines.take place) :
    readLines others = .error (.damaged place damage) := by
  rcases readLines_damaged failed with settled | ⟨past, _⟩
  · obtain ⟨taken, left, rfl, here, _, again⟩ := settled
    rw [here, Nat.zero_add, List.take_left] at agree
    rw [← List.take_append_drop taken.length others, agree]
    exact again _
  · have same : others = lines := by
      have whole : lines.take place = lines := List.take_of_length_le (by omega)
      have short := congrArg List.length (agree.trans whole)
      rw [List.length_take] at short
      rw [whole, List.take_of_length_le (by omega)] at agree
      exact agree
    exact same ▸ failed

/-- A damaged file fails at one of its lines, or one past its end, and there exactly when a part is
missing. Every file with the same lines as far as that one, and with no more lines where there is
none, fails at the same line for the same cause, whatever follows. -/
theorem read_damaged {text : String} {place : Nat} {damage : Damage}
    (failed : read (some text.toUTF8) = .error (.damaged place damage)) :
    1 ≤ place ∧ place ≤ (Text.lines text.toList).length + 1 ∧
      (place = (Text.lines text.toList).length + 1 ↔ ∃ part, damage = .missing part) ∧
      ∀ other : String,
        (Text.lines other.toList).take place = (Text.lines text.toList).take place →
        read (some other.toUTF8) = .error (.damaged place damage) := by
  simp only [read, Option.bind_some, fromUTF8?_toUTF8, readText] at failed ⊢
  have count : ((Text.lines text.toList).map String.ofList).length =
      (Text.lines text.toList).length := List.length_map String.ofList
  have alike : ∀ other : String,
      (Text.lines other.toList).take place = (Text.lines text.toList).take place →
      readLines ((Text.lines other.toList).map String.ofList) =
        .error (.damaged place damage) := by
    intro other agree
    apply readLines_same failed
    rw [← List.map_take, ← List.map_take, agree]
  rcases readLines_damaged failed with settled | ⟨past, missing⟩
  · have bounds := settled.bounds
    obtain ⟨_, _, _, _, present, _⟩ := settled
    have within : place ≠ (Text.lines text.toList).length + 1 := by omega
    have here : ¬ ∃ part, damage = .missing part := not_exists.mpr present
    exact ⟨bounds.1, by omega, iff_of_false within here, alike⟩
  · exact ⟨by omega, by omega, iff_of_true (by omega) missing, alike⟩

/-- A row without quotes is damaged, so the lines after it do not matter. -/
theorem read_damaged_row :
    let text := "D\n1\nt\n1\na 0 4 INT 0 -\na\n2\nx\n'1'\n"
    let other := "D\n1\nt\n1\na 0 4 INT 0 -\na\n2\nx\n\n1\ny"
    read (some text.toUTF8) = .error (.damaged 8 (.badRow "x")) ∧
      read (some other.toUTF8) = .error (.damaged 8 (.badRow "x")) := by
  intro text other
  have failed : read (some text.toUTF8) = .error (.damaged 8 (.badRow "x")) := by decide +kernel
  obtain ⟨_, _, _, alike⟩ := read_damaged failed
  exact ⟨failed, alike other (by decide +kernel)⟩

end TableStore.Archive
