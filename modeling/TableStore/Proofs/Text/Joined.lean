/-
This file cuts joined text apart again, at line feeds and at blanks.
-/

import TableStore.Text.Lines
import TableStore.Text.Trim

namespace TableStore.Text

/-- A line is whole when no line feed is in it and no carriage return ends it. -/
structure Whole (line : List Char) : Prop where
  noFeed : '\n' ∉ line
  noReturn : line.getLast? ≠ some '\r'

/-- A whole line stays whole without its first character, unless it was the only one. -/
theorem Whole.tail {c d : Char} {rest : List Char} (whole : Whole (c :: d :: rest)) :
    Whole (d :: rest) := by
  refine ⟨fun present => whole.noFeed (List.mem_cons_of_mem c present), ?_⟩
  have last := whole.noReturn
  rwa [List.getLast?_cons_cons] at last

/-- Text is cut at each of its line feeds. -/
theorem noFeed_lines {text : List Char} : ∀ line ∈ lines text, '\n' ∉ line := by
  induction text using lines.induct with
  | case1 => simp
  | case2 rest ih =>
      rw [lines_newline]
      exact List.forall_mem_cons.mpr ⟨List.not_mem_nil, ih⟩
  | case3 rest ih =>
      rw [lines]
      exact List.forall_mem_cons.mpr ⟨List.not_mem_nil, ih⟩
  | case4 c rest noFeed noReturn none ih =>
      rw [lines.eq_4 c rest noFeed noReturn, none]
      intro line present
      rw [List.mem_singleton.mp present, List.mem_singleton]
      exact fun same => noFeed same.symm
  | case5 c rest noFeed noReturn first others found ih =>
      rw [found] at ih
      obtain ⟨begin, later⟩ := List.forall_mem_cons.mp ih
      rw [lines.eq_4 c rest noFeed noReturn, found]
      refine List.forall_mem_cons.mpr ⟨?_, later⟩
      rw [List.mem_cons, not_or]
      exact ⟨fun same => noFeed same.symm, begin⟩

/-- A line feed gives back the whole line in front of it. -/
theorem lines_append {line : List Char} (whole : Whole line) (rest : List Char) :
    lines (line ++ '\n' :: rest) = line :: lines rest := by
  induction line with
  | nil => exact lines_newline rest
  | cons c others ih =>
      have feed : '\n' ≠ c := fun same => whole.noFeed (same ▸ List.mem_cons_self)
      cases others with
      | nil =>
          have back : c ≠ '\r' := fun same => whole.noReturn (same ▸ rfl)
          rw [List.cons_append, lines.eq_4]
          · rw [List.nil_append, lines_newline]
          · exact fun same => feed same.symm
          · exact fun _ same _ => back same
      | cons d more =>
          have next : '\n' ≠ d := fun same =>
            whole.noFeed (same ▸ List.mem_cons_of_mem c List.mem_cons_self)
          rw [List.cons_append, lines.eq_4]
          · rw [ih whole.tail]
          · exact fun same => feed same.symm
          · intro tail _ same
            exact next (List.cons.inj same).1.symm

/-- Whole lines that are each ended by a line feed are read back. -/
theorem lines_joined {parts : List (List Char)} (whole : ∀ part ∈ parts, Whole part) :
    lines (parts.flatMap (· ++ ['\n'])) = parts := by
  induction parts with
  | nil => exact lines_nil
  | cons part rest ih =>
      rw [List.forall_mem_cons] at whole
      rw [List.flatMap_cons, List.append_assoc, List.singleton_append, lines_append whole.1,
        ih whole.2]

theorem pieces_eq_single {cut : Char → Bool} {piece : List Char}
    (uncut : ∀ c ∈ piece, cut c = false) : pieces cut piece = [piece] := by
  induction piece with
  | nil => rfl
  | cons c rest ih =>
      rw [List.forall_mem_cons] at uncut
      simp only [pieces, uncut.1, ih uncut.2]
      rfl

/-- The first separator ends the first piece. -/
theorem pieces_append {cut : Char → Bool} {piece : List Char}
    (uncut : ∀ c ∈ piece, cut c = false) {separator : Char} (cuts : cut separator = true)
    (rest : List Char) : pieces cut (piece ++ separator :: rest) = piece :: pieces cut rest := by
  induction piece with
  | nil => simp [pieces, cuts]
  | cons c others ih =>
      rw [List.forall_mem_cons] at uncut
      rw [List.cons_append, pieces, uncut.1, if_neg Bool.false_ne_true, ih uncut.2]

/-- A word has a character, and none of them is blank. -/
structure IsWord (word : List Char) : Prop where
  nonempty : word ≠ []
  noBlank : ∀ c ∈ word, isBlank c = false

/-- The pieces that are kept as words are those with a character and without a blank. -/
theorem isWord_iff {word : List Char} : word ≠ [] ∧ word.all (!isBlank ·) = true ↔ IsWord word := by
  simp only [List.all_eq_true, Bool.not_eq_true']
  constructor
  · rintro ⟨nonempty, noBlank⟩
    exact ⟨nonempty, noBlank⟩
  · rintro ⟨nonempty, noBlank⟩
    exact ⟨nonempty, noBlank⟩

instance (word : List Char) : Decidable (IsWord word) := decidable_of_iff _ isWord_iff

/-- No piece has a separator in it. -/
theorem uncut_of_pieces {cut : Char → Bool} {text : List Char} :
    ∀ piece ∈ pieces cut text, ∀ c ∈ piece, cut c = false := by
  induction text with
  | nil => simp [pieces]
  | cons c rest ih =>
      rw [pieces]
      by_cases cuts : cut c = true
      · rw [if_pos cuts]
        exact List.forall_mem_cons.mpr ⟨by simp, ih⟩
      · have stays : cut c = false := Bool.eq_false_iff.mpr cuts
        rw [if_neg cuts]
        split
        · simp [stays]
        · rename_i first others found
          rw [found, List.forall_mem_cons] at ih
          exact List.forall_mem_cons.mpr ⟨List.forall_mem_cons.mpr ⟨stays, ih.1⟩, ih.2⟩

/-- Whatever the text, its words are words. -/
theorem isWord_of_words {text : List Char} : ∀ word ∈ words text, IsWord word := by
  intro word present
  obtain ⟨piece, some⟩ := List.mem_filter.mp present
  have nonempty : word ≠ [] := by
    rintro rfl
    cases some
  exact ⟨nonempty, uncut_of_pieces word piece⟩

/-- Words with a space between them are read back. -/
theorem words_intercalate {parts : List (List Char)} (each : ∀ part ∈ parts, IsWord part) :
    words ([' '].intercalate parts) = parts := by
  have blank : isBlank ' ' = true := by decide
  induction parts with
  | nil => rfl
  | cons part rest ih =>
      rw [List.forall_mem_cons] at each
      have some : part.isEmpty = false := List.isEmpty_eq_false_iff.mpr each.1.nonempty
      cases rest with
      | nil =>
          rw [List.intercalate_singleton, words, pieces_eq_single each.1.noBlank]
          simp [some]
      | cons next others =>
          rw [List.intercalate_cons_cons, List.append_assoc, List.singleton_append, words,
            pieces_append each.1.noBlank blank, List.filter_cons, some]
          exact congrArg (part :: ·) (ih each.2)

theorem whole_of_noBreak {line : List Char} (noFeed : '\n' ∉ line) (noReturn : '\r' ∉ line) :
    Whole line :=
  ⟨noFeed, fun last => noReturn (List.mem_of_getLast? last)⟩

/-- Line breaks are blanks. -/
theorem whole_of_noBlank {line : List Char} (noBlank : ∀ c ∈ line, isBlank c = false) :
    Whole line := by
  apply whole_of_noBreak
  · intro present
    exact absurd (noBlank '\n' present) (by decide)
  · intro present
    exact absurd (noBlank '\r' present) (by decide)

/-- A character of a joined text is from the separator or from a part. -/
theorem mem_intercalate {separator : List Char} {parts : List (List Char)} {c : Char}
    (present : c ∈ separator.intercalate parts) : c ∈ separator ∨ ∃ part ∈ parts, c ∈ part := by
  induction parts with
  | nil => cases present
  | cons part rest ih =>
      cases rest with
      | nil =>
          rw [List.intercalate_singleton] at present
          exact Or.inr ⟨part, List.mem_cons_self, present⟩
      | cons next others =>
          rw [List.intercalate_cons_cons, List.append_assoc, List.mem_append, List.mem_append]
            at present
          rcases present with here | between | later
          · exact Or.inr ⟨part, List.mem_cons_self, here⟩
          · exact Or.inl between
          · rcases ih later with between | ⟨other, member, there⟩
            · exact Or.inl between
            · exact Or.inr ⟨other, List.mem_cons_of_mem part member, there⟩

/-- Words with spaces between them make a whole line. -/
theorem whole_of_words {parts : List (List Char)} (each : ∀ part ∈ parts, IsWord part) :
    Whole ([' '].intercalate parts) := by
  apply whole_of_noBreak
  · intro present
    rcases mem_intercalate present with space | ⟨part, member, there⟩
    · exact absurd space (by decide)
    · exact absurd ((each part member).noBlank '\n' there) (by decide)
  · intro present
    rcases mem_intercalate present with space | ⟨part, member, there⟩
    · exact absurd space (by decide)
    · exact absurd ((each part member).noBlank '\r' there) (by decide)

/-- Text without blanks stays when it is trimmed. -/
theorem trim_of_noBlank {text : List Char} (noBlank : ∀ c ∈ text, isBlank c = false) :
    trim text = text := by
  have start : trimStart text = text := by
    cases text with
    | nil => rfl
    | cons c rest =>
        rw [trimStart, List.dropWhile_cons_of_neg]
        rw [noBlank c List.mem_cons_self]
        exact Bool.false_ne_true
  rw [trim, start, trimEnd]
  cases back : text.reverse with
  | nil => rw [List.dropWhile_nil, ← back, List.reverse_reverse]
  | cons c rest =>
      have present : c ∈ text := List.mem_reverse.mp (back ▸ List.mem_cons_self)
      rw [List.dropWhile_cons_of_neg, ← back, List.reverse_reverse]
      rw [noBlank c present]
      exact Bool.false_ne_true

end TableStore.Text
