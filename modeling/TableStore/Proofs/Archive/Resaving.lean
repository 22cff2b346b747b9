/-
This file saves stores again that were read from a file.
A file may hold carriage returns that are never written, and a key may have a name that is read as
something else.
-/

import TableStore.Proofs.Archive.Accepted
import TableStore.Proofs.Database.Reload

namespace TableStore

namespace Table

/-- The widths of the columns are machine words. -/
def Narrow (table : Table) : Prop :=
  ∀ column ∈ table.schema.columns, column.width < Decimal.countBound

instance (table : Table) : Decidable table.Narrow :=
  inferInstanceAs (Decidable (∀ column ∈ table.schema.columns, column.width < Decimal.countBound))

/-- The name of a table stays when it ends a line, and the name of its key when it is read as a
key. -/
structure Plain (table : Table) : Prop where
  name : table.name.toList.getLast? ≠ some '\r'
  key : ∀ name ∈ table.keyName?, '.' ∉ name.toList ∧ name ≠ Archive.nothing

instance (table : Table) : Decidable table.Plain :=
  decidable_of_iff (table.name.toList.getLast? ≠ some '\r' ∧
      ∀ name ∈ table.keyName?, '.' ∉ name.toList ∧ name ≠ Archive.nothing)
    ⟨fun parts => ⟨parts.1, parts.2⟩, fun whole => ⟨whole.name, whole.key⟩⟩

/-- A table that was read can be stored again. -/
theorem Loaded.storable {table : Table} (loaded : table.Loaded) (sound : table.Sound)
    (count : table.rows.length < Decimal.countBound) (narrow : table.Narrow)
    (fractions : table.Every Column.RestoresFraction) (plain : table.Plain) : table.Storable where
  name := ⟨loaded.name, plain.name⟩
  columns column present := by
    have read := loaded.columns column present
    exact ⟨read.named, read.owned, read.wide, narrow column present, read.type, read.reference⟩
  filled := loaded.filled
  size := loaded.size
  count := count
  key key keyed := by
    have within : key < table.schema.columns.length := sound.keyed key keyed
    have there := List.getElem?_eq_getElem within
    have named : table.keyName? = some table.schema.columns[key].name := by
      rw [keyName?, keyed, Option.bind_some, there, Option.map_some]
    obtain ⟨noPoint, other⟩ := plain.key _ named
    obtain ⟨name, _, found⟩ := loaded.key key keyed
    exact ⟨_, there, Schema.indexOf?_again sound.owned found there noPoint, other⟩
  cells row present := Column.keeps_cells (sound.admitted row present)
    (loaded.cells row present) (fractions row present)
  distinct := sound.distinct

end Table

namespace Archive

/-- A carriage return in a name or in a text stands in the way of saving, and so does a text that
ends with a quote and a space. -/
def Hindered (name : String) (tables : List Table) : Prop :=
  '\r' ∈ name.toList ∨ ∃ table ∈ tables, ∃ row ∈ table.rows, ∃ text,
    Value.text text ∈ row ∧ ('\r' ∈ text.toList ∨ opening <:+ text.toList)

/-- Nothing else stands in the way of a store that was read. -/
theorem Accepted.unsavable_iff {name : String} {tables : List Table}
    (accepted : Accepted name tables) : Unsavable name tables ↔ Hindered name tables := by
  constructor
  · rintro (feed | back | ⟨table, stored, row, present, text, there, unfit⟩)
    · exact absurd feed accepted.name
    · exact Or.inl back
    · have undivided := (accepted.loaded table stored).texts row present text there
      rcases unfit with feed | back | inside | ending
      · exact absurd feed undivided.noFeed
      · exact Or.inr ⟨table, stored, row, present, text, there, Or.inl back⟩
      · exact absurd inside undivided.noSeparator
      · exact Or.inr ⟨table, stored, row, present, text, there, Or.inr ending⟩
  · rintro (back | ⟨table, stored, row, present, text, there, back | ending⟩)
    · exact Or.inr (Or.inl back)
    · exact Or.inr (Or.inr ⟨table, stored, row, present, text, there, Or.inr (Or.inl back)⟩)
    · exact Or.inr (Or.inr
        ⟨table, stored, row, present, text, there, Or.inr (Or.inr (Or.inr ending))⟩)

/-- Whatever file a store was read from, saving it is refused exactly when a carriage return or a
text that ends with a quote and a space stands in the way, and succeeds else. The file that is
written gives the same store, as long as its names are plain, its widths are machine words and every
fraction is restored from its text. -/
theorem read_write_read {content : Option ByteArray} {name : String} {tables : List Table}
    (done : read content = .ok (name, tables)) :
    ((∃ cause, write name tables = .error (.logic cause)) ↔ Hindered name tables) ∧
      ((∃ written, write name tables = .ok written) ↔ ¬ Hindered name tables) ∧
      ((∀ table ∈ tables, table.Plain) → (∀ table ∈ tables, table.Narrow) →
        (∀ table ∈ tables, table.Every Column.RestoresFraction) →
        ∀ written, write name tables = .ok written →
          read (some written.toUTF8) = .ok (name, tables)) := by
  have accepted := accepted_of_read done
  have sound := read_sound done
  refine ⟨?_, ?_, ?_⟩
  · rw [write_refuses, accepted.unsavable_iff]
  · rw [write_succeeds, accepted.unsavable_iff]
  · intro plain narrow fractions written saved
    have savable := write_succeeds.mp ⟨written, saved⟩
    unfold Unsavable at savable
    rw [not_or, not_or] at savable
    have line := Text.whole_of_noBreak savable.1 savable.2.1
    have storable : ∀ table ∈ tables, table.Storable := fun table present =>
      (accepted.loaded table present).storable (sound table present) (accepted.count table present)
        (narrow table present) (fractions table present) (plain table present)
    exact read_write line storable accepted.few accepted.apart saved

/-- A carriage return within a name, a name with a point, a key with its table in front, a table
without columns and signs in front of counts all come back. -/
theorem read_write_read_loose :
    let tables : List Table := [
      ⟨"t\rt", ⟨[⟨"a", "t\rt", .int, true, 5, some ⟨"x.y", 3⟩⟩,
        ⟨"b.c", "t\rt", .varchar 9, false, 5, none⟩]⟩, some 0, [[.int 7, .text "'it's"]]⟩,
      ⟨"u", ⟨[]⟩, none, []⟩]
    let loose := "Z\n2\nt\rt\n+2\na 0 +5 INT 1 x.y.3\nb.c  1 0 VARCHAR(+9) 0 -\nt\rt.a\n 1 \n" ++
      "'+7' ''it's'\nu\n0\n-\n0"
    let strict := "Z\n2\nt\rt\n2\na 0 5 INT 1 x.y.3\nb.c 1 5 VARCHAR(9) 0 -\na\n1\n'7' ''it's'\n" ++
      "u\n0\n-\n0\n"
    read (some loose.toUTF8) = .ok ("Z", tables) ∧ write "Z" tables = .ok strict ∧
      read (some strict.toUTF8) = .ok ("Z", tables) := by
  intro tables loose strict
  have done : read (some loose.toUTF8) = .ok ("Z", tables) := by decide +kernel
  have saved : write "Z" tables = .ok strict := by decide +kernel
  have plain : ∀ table ∈ tables, table.Plain := by decide +kernel
  have narrow : ∀ table ∈ tables, table.Narrow := by decide +kernel
  have fractions : ∀ table ∈ tables, table.Every Column.RestoresFraction := by decide +kernel
  exact ⟨done, saved, (read_write_read done).2.2 plain narrow fractions strict saved⟩

/-- Files that can be read but not saved, and files that are saved as something else: a table name
that ends in a carriage return, and keys whose names are read as no key or as another one. -/
theorem read_write_changed :
    let column (name table : String) (type : DataType) : Column :=
      ⟨name, table, type, false, 4, none⟩
    let quoted : Table := ⟨"t", ⟨[column "a" "t" (.varchar 9)]⟩, none, [[.text "x' "]]⟩
    let ended : Table := ⟨"t\r", ⟨[column "a" "t\r" .int]⟩, some 0, []⟩
    let dashed : Table := ⟨"t", ⟨[column "-" "t" .int]⟩, some 0, []⟩
    let pointed : Table := ⟨"t", ⟨[column "t.a" "t" .int, column "a" "t" .int]⟩, some 0, []⟩
    let text := "D\n1\nt\n1\na 0 4 VARCHAR(9) 0 -\n-\n1\n'x' '\n"
    let reads (text : String) (table : Table) := read (some text.toUTF8) = .ok ("D", [table])
    let writes (table : Table) (text : String) := write "D" [table] = .ok text
    (read (some "D\rB\n0\n".toUTF8) = .ok ("D\rB", []) ∧
        write "D\rB" [] = .error (.logic (.unsavableName "D\rB"))) ∧
      (reads text quoted ∧ write "D" [quoted] = .error (.logic (.unsavableText "t" 1 "x' "))) ∧
      (reads "D\n1\nt\r\r\n1\na 0 4 INT 0 -\na\n0\n" ended ∧
        writes ended "D\n1\nt\r\n1\na 0 4 INT 0 -\na\n0\n" ∧
        ¬ reads "D\n1\nt\r\n1\na 0 4 INT 0 -\na\n0\n" ended) ∧
      (reads "D\n1\nt\n1\n- 0 4 INT 0 -\nt.-\n0\n" dashed ∧
        writes dashed "D\n1\nt\n1\n- 0 4 INT 0 -\n-\n0\n" ∧
        ¬ reads "D\n1\nt\n1\n- 0 4 INT 0 -\n-\n0\n" dashed) ∧
      reads "D\n1\nt\n2\nt.a 0 4 INT 0 -\na 1 4 INT 0 -\nt.t.a\n0\n" pointed ∧
        writes pointed "D\n1\nt\n2\nt.a 0 4 INT 0 -\na 1 4 INT 0 -\nt.a\n0\n" ∧
        ¬ reads "D\n1\nt\n2\nt.a 0 4 INT 0 -\na 1 4 INT 0 -\nt.a\n0\n" pointed := by
  intro column quoted ended dashed pointed text reads writes
  refine ⟨?_, ?_, ?_, ?_, ?_⟩
  · decide +kernel
  · exact ⟨by decide +kernel, by decide +kernel⟩
  · exact ⟨by decide +kernel, by decide +kernel, by decide +kernel⟩
  · exact ⟨by decide +kernel, by decide +kernel, by decide +kernel⟩
  · exact ⟨by decide +kernel, by decide +kernel, by decide +kernel⟩

end Archive

end TableStore
