/-
This file says what every table read from a stored file satisfies, whatever the file holds.
-/

import TableStore.Archive.Reader
import TableStore.Proofs.Table.Insertion
import TableStore.Proofs.Text.Joined

namespace TableStore.Archive

namespace Reader

variable {α β : Type}

/-- No line that is left has a line feed in it. -/
def Cut (cursor : Cursor) : Prop := ∀ line ∈ cursor.rest, '\n' ∉ line.toList

/-- Whatever the reader returns satisfies the predicate, and lines without line feeds leave such
lines. -/
def Yields (reader : Reader α) (Holds : α → Prop) : Prop :=
  ∀ cursor value final, Cut cursor → reader.run cursor = .ok (value, final) →
    Holds value ∧ Cut final

/-- What the first reader yields may be used for the second one. -/
theorem Yields.bind {reader : Reader α} {next : α → Reader β} {First : α → Prop}
    {Second : β → Prop} (first : Yields reader First)
    (second : ∀ value, First value → Yields (next value) Second) :
    Yields (reader >>= next) Second := by
  intro cursor result final cut done
  rw [StateT.run_bind] at done
  obtain ⟨⟨value, middle⟩, early, late⟩ := bind_eq_ok.mp done
  obtain ⟨holds, left⟩ := first cursor value middle cut early
  exact second value holds middle result final left late

/-- A reader yields whatever follows from what it yields. -/
theorem Yields.imp {reader : Reader α} {First Second : α → Prop} (yields : Yields reader First)
    (weaker : ∀ value, First value → Second value) : Yields reader Second := by
  intro cursor value final cut done
  obtain ⟨holds, left⟩ := yields cursor value final cut done
  exact ⟨weaker value holds, left⟩

/-- A reader yields a property of the value that is made of its own. -/
theorem Yields.map {reader : Reader α} {f : α → β} {Holds : β → Prop}
    (yields : Yields reader fun value => Holds (f value)) :
    Yields (f <$> reader) Holds := by
  intro cursor result final cut done
  rw [StateT.run_map] at done
  obtain ⟨⟨value, middle⟩, early, late⟩ := bind_eq_ok.mp done
  cases late
  exact yields cursor value _ cut early

theorem yields_pure {value : α} {Holds : α → Prop} (holds : Holds value) :
    Yields (pure value) Holds := by
  intro cursor result final cut done
  cases done
  exact ⟨holds, cut⟩

/-- A reader that only fails yields whatever is asked for. -/
theorem yields_damaged {damage : Damage} {Holds : α → Prop} :
    Yields (damaged damage) Holds := by
  intro cursor result final cut done
  cases done

theorem yields_damaged_bind {damage : Damage} {next : α → Reader β} {Holds : β → Prop} :
    Yields (damaged damage >>= next) Holds := by
  have never : Yields (damaged damage : Reader α) fun _ => False := yields_damaged
  exact never.bind fun _ absurd => absurd.elim

/-- A branch may be judged under the condition that leads to it. -/
theorem yields_ite {condition : Prop} [Decidable condition] {first second : Reader α}
    {Holds : α → Prop} (yes : condition → Yields first Holds)
    (no : ¬ condition → Yields second Holds) :
    Yields (if condition then first else second) Holds := by
  split
  · rename_i holds
    exact yes holds
  · rename_i fails
    exact no fails

/-- What must be there was there. -/
theorem yields_need {damage : Damage} {option : Option α} :
    Yields (need damage option) fun value => option = some value := by
  cases option with
  | none => exact yields_damaged
  | some value => exact yields_pure rfl

/-- An outcome that is accepted was a success. -/
theorem yields_accept {outcome : Except Fault α} :
    Yields (accept outcome) fun value => outcome = .ok value := by
  cases outcome with
  | error cause => exact yields_damaged
  | ok value => exact yields_pure rfl

/-- A line has no line feed in it. -/
theorem yields_next {part : FilePart} : Yields (next part) fun line => '\n' ∉ line.toList := by
  rintro ⟨number, lines⟩ line final cut done
  cases lines with
  | nil => cases done
  | cons first rest =>
      cases done
      exact List.forall_mem_cons.mp cut

/-- A count that is read is a machine word. -/
theorem yields_count {part : FilePart} :
    Yields (count part) fun number => number < Decimal.countBound := by
  refine yields_next.bind fun line _ => ?_
  exact yields_need.imp fun number read => Decimal.count?_lt read

end Reader

open Reader

/-- A column that is read belongs to the table that it is read for. -/
theorem readColumn_owned (table : String) (position : Nat) :
    Yields (readColumn table position) fun column => column.table = table := by
  unfold readColumn
  refine yields_next.bind fun line _ => ?_
  split
  · refine yields_ite (fun _ => yields_damaged_bind) fun _ => ?_
    refine yields_accept.bind fun type _ => yields_need.bind fun notNull _ => ?_
    refine yields_need.bind fun wide _ => yields_ite (fun _ => ?_) fun _ => ?_
    · have none : Yields (pure none : Reader (Option ForeignKey)) fun _ => True :=
        yields_pure trivial
      exact none.bind fun _ _ => yields_pure rfl
    · exact (yields_need.imp fun _ _ => trivial).map.bind fun _ (_ : True) => yields_pure rfl
  · exact yields_damaged

/-- All columns of a table that is read belong to it. -/
theorem readColumns_owned (table : String) (position count : Nat) :
    Yields (readColumns table position count) fun columns =>
      ∀ column ∈ columns, column.table = table := by
  induction count generalizing position with
  | zero => exact yields_pure (by simp)
  | succ count ih =>
      refine (readColumn_owned table position).bind fun column owned => ?_
      refine (ih (position + 1)).bind fun others ownedOthers => ?_
      exact yields_pure (List.forall_mem_cons.mpr ⟨owned, ownedOthers⟩)

/-- A key that is read is the position of a column. -/
theorem readKey_within (schema : Schema) :
    Yields (readKey schema) fun key =>
      ∀ position, key = some position → position < schema.size := by
  unfold readKey
  refine yields_next.bind fun key _ => yields_ite (fun _ => ?_) fun _ => ?_
  · exact yields_pure (by simp)
  · refine (yields_need.imp fun position found => ?_).map
    intro key same
    cases same
    exact Schema.indexOf?_lt found

/-- A row is inserted like any other, so the table stays sound. -/
theorem readRow_sound {table : Table} (sound : table.Sound) :
    Yields (readRow table) Table.Sound := by
  unfold readRow
  refine yields_next.bind fun line _ => yields_need.bind fun fields _ => ?_
  refine yields_accept.bind fun row _ => ?_
  exact yields_accept.imp fun changed stored => Table.insert_sound sound stored

/-- A sound table stays sound row by row. -/
theorem readRows_sound (count : Nat) {table : Table} (sound : table.Sound) :
    Yields (readRows count table) Table.Sound := by
  induction count generalizing table with
  | zero => exact yields_pure sound
  | succ count ih => exact (readRow_sound sound).bind fun changed kept => ih kept

/-- Every table that is read is sound. -/
theorem readTable_sound : Yields readTable Table.Sound := by
  unfold readTable
  refine yields_next.bind fun name _ => yields_count.bind fun size _ => ?_
  refine (readColumns_owned name 0 size).bind fun columns owned => ?_
  refine (readKey_within ⟨columns⟩).bind fun key within => ?_
  refine yields_count.bind fun count _ => ?_
  exact readRows_sound count (.of_empty owned within rfl)

/-- All tables that are read are sound when those before them are. -/
theorem readTables_sound (count : Nat) {tables : List Table}
    (sound : ∀ table ∈ tables, table.Sound) :
    Yields (readTables count tables) fun tables => ∀ table ∈ tables, table.Sound := by
  induction count generalizing tables with
  | zero => exact yields_pure sound
  | succ count ih =>
      refine readTable_sound.bind fun table fresh => ?_
      refine yields_ite (fun _ => yields_damaged_bind) fun _ => ih ?_
      intro other present
      rcases List.mem_append.mp present with old | new
      · exact sound other old
      · exact List.mem_singleton.mp new ▸ fresh

/-- A store that is read has sound tables only. -/
theorem readStore_sound : Yields readStore fun store => ∀ table ∈ store.2, table.Sound := by
  unfold readStore
  refine yields_next.bind fun name _ => yields_count.bind fun count _ => ?_
  exact (readTables_sound count (by simp)).bind fun tables sound => yields_pure sound

/-- What stores satisfy that are read holds of every file that can be read. -/
theorem holds_of_read {Holds : String × List Table → Prop} (yields : Yields readStore Holds)
    {content : Option ByteArray} {store : String × List Table} (done : read content = .ok store) :
    Holds store := by
  unfold read at done
  split at done
  · rename_i text _
    obtain ⟨⟨loaded, cursor⟩, stored, ending⟩ := bind_eq_ok.mp done
    obtain ⟨_, _, last⟩ := bind_eq_ok.mp ending
    cases last
    have cut : Cut ⟨0, (Text.lines text.toList).map String.ofList⟩ := by
      intro line present
      obtain ⟨part, member, rfl⟩ := List.mem_map.mp present
      rw [String.toList_ofList]
      exact Text.noFeed_lines part member
    exact (yields _ _ _ cut stored).1
  · cases done

/-- A file that can be read at all holds sound tables only. -/
theorem read_sound {content : Option ByteArray} {name : String} {tables : List Table}
    (done : read content = .ok (name, tables)) : ∀ table ∈ tables, table.Sound :=
  holds_of_read readStore_sound done

end TableStore.Archive
