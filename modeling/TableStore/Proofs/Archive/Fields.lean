/-
This file reads rows back from their lines.
The separator is searched from the left, so it matters how a field ends but not how it begins.
-/

import TableStore.Archive.Reader
import TableStore.Proofs.Text.Joined
import TableStore.Proofs.Value.Display

namespace TableStore.Archive

/-- The characters between the texts of two fields. -/
def separator : List Char := ['\x27', ' ', '\x27']

/-- The separator without its last character. -/
def opening : List Char := ['\x27', ' ']

/-- A text reads back from its field when it does not break the line, does not hold the separator
of fields, and does not end with the first two characters of the separator. -/
structure Fits (text : List Char) : Prop where
  noFeed : '\n' ∉ text
  noReturn : '\r' ∉ text
  noSeparator : ¬ separator <:+: text
  noOpening : ¬ opening <:+ text

/-- The search for a separator finds every one that the text has in it. -/
theorem hasSeparator_iff (text : List Char) :
    hasSeparator text = true ↔ separator <:+: text := by
  fun_induction hasSeparator text with
  | case1 rest => simp only [true_iff]; exact ⟨[], rest, rfl⟩
  | case2 c rest other ih =>
      rw [ih, List.infix_cons_iff]
      constructor
      · exact Or.inr
      · rintro (⟨after, same⟩ | later)
        · cases same
          exact (other after rfl rfl).elim
        · exact later
  | case3 => simp [separator]

/-- The check of the writer decides which texts fit a field. -/
theorem fitsField_iff {text : String} : fitsField text = true ↔ Fits text.toList := by
  rw [fitsField, breaksLine, Bool.and_eq_true, Bool.and_eq_true, Bool.not_eq_true',
    Bool.not_eq_true', Bool.not_eq_true', Bool.or_eq_false_iff, List.contains_eq_mem,
    List.contains_eq_mem, decide_eq_false_iff_not, decide_eq_false_iff_not,
    ← Bool.not_eq_true (hasSeparator _), hasSeparator_iff, ← Bool.not_eq_true (List.isSuffixOf ..),
    List.isSuffixOf_iff_suffix]
  constructor
  · rintro ⟨⟨⟨noFeed, noReturn⟩, noSeparator⟩, noOpening⟩
    exact ⟨noFeed, noReturn, noSeparator, noOpening⟩
  · rintro ⟨noFeed, noReturn, noSeparator, noOpening⟩
    exact ⟨⟨⟨noFeed, noReturn⟩, noSeparator⟩, noOpening⟩

/-- A text that fits still does without its first character. -/
theorem Fits.tail {c : Char} {rest : List Char} (fits : Fits (c :: rest)) : Fits rest where
  noFeed present := fits.noFeed (List.mem_cons_of_mem c present)
  noReturn present := fits.noReturn (List.mem_cons_of_mem c present)
  noSeparator inside := fits.noSeparator (List.infix_cons inside)
  noOpening ending := fits.noOpening (ending.trans (List.suffix_cons c rest))

/-- Text without quotes and without line breaks reads back. -/
theorem fits_of_plain {text : List Char}
    (plain : ∀ c ∈ text, c ≠ '\x27' ∧ c ≠ '\n' ∧ c ≠ '\r') : Fits text where
  noFeed present := (plain '\n' present).2.1 rfl
  noReturn present := (plain '\r' present).2.2 rfl
  noSeparator inside := (plain '\x27' (inside.subset (by decide))).1 rfl
  noOpening ending := (plain '\x27' (ending.subset (by decide))).1 rfl

/-- Where no separator begins, the first character goes to the first field. -/
theorem splitFields_cons {c : Char} {rest : List Char} {first : List Char}
    {others : List (List Char)} (none : ¬ separator <+: c :: rest)
    (split : splitFields rest = first :: others) :
    splitFields (c :: rest) = (c :: first) :: others := by
  rw [splitFields.eq_2]
  · rw [split]
  · rintro after rfl rfl
    exact none ⟨after, rfl⟩

/-- A field without a separator is not split. -/
theorem splitFields_single {field : List Char} (fits : Fits field) :
    splitFields field = [field] := by
  induction field with
  | nil => rfl
  | cons c rest ih =>
      apply splitFields_cons _ (ih fits.tail)
      intro start
      exact fits.noSeparator start.isInfix

/-- A separator ends the field in front of it. -/
theorem splitFields_append {field : List Char} (fits : Fits field) (rest : List Char) :
    splitFields (field ++ (separator ++ rest)) = field :: splitFields rest := by
  induction field with
  | nil => exact splitFields.eq_1 rest
  | cons c others ih =>
      apply splitFields_cons _ (ih fits.tail)
      rintro ⟨after, same⟩
      -- a separator from here would lie in the field or overlap the real one
      match others, fits, same with
      | [], fits, same => cases same
      | [d], fits, same =>
          cases same
          exact fits.noOpening ⟨[], rfl⟩
      | d :: e :: more, fits, same =>
          cases same
          exact fits.noSeparator ⟨[], more, rfl⟩

/-- Fields that fit are split where they were joined. -/
theorem splitFields_joined {fields : List (List Char)} (nonempty : fields ≠ [])
    (fits : ∀ field ∈ fields, Fits field) :
    splitFields (separator.intercalate fields) = fields := by
  induction fields with
  | nil => exact absurd rfl nonempty
  | cons field rest ih =>
      rw [List.forall_mem_cons] at fits
      cases rest with
      | nil => rw [List.intercalate_singleton, splitFields_single fits.1]
      | cons next others =>
          rw [List.intercalate_cons_cons, List.append_assoc, splitFields_append fits.1,
            ih (List.cons_ne_nil next others) fits.2]

/-- Every line has at least one field, which may be empty. -/
theorem splitFields_ne_nil (text : List Char) : splitFields text ≠ [] := by
  fun_cases splitFields text with
  | _ => simp

/-- The first field of a text is where the text begins. -/
theorem splitFields_prefix {text first : List Char} {others : List (List Char)}
    (split : splitFields text = first :: others) : first <+: text := by
  induction text using splitFields.induct generalizing first others with
  | case1 rest ih =>
      rw [splitFields.eq_1] at split
      cases split
      exact List.nil_prefix
  | case2 c rest other none ih => exact absurd none (splitFields_ne_nil rest)
  | case3 c rest other begin later found ih =>
      rw [splitFields.eq_2 c rest other, found] at split
      cases split
      exact List.cons_prefix_cons.mpr ⟨rfl, ih found⟩
  | case4 =>
      rw [splitFields.eq_3] at split
      cases split
      exact List.prefix_rfl

/-- The separator is in none of the fields that it separates. -/
theorem noSeparator_of_splitFields {text : List Char} :
    ∀ field ∈ splitFields text, ¬ separator <:+: field := by
  have short : ¬ separator <:+: [] := by decide
  induction text using splitFields.induct with
  | case1 rest ih =>
      rw [splitFields.eq_1]
      exact List.forall_mem_cons.mpr ⟨short, ih⟩
  | case2 c rest other none ih => exact absurd none (splitFields_ne_nil rest)
  | case3 c rest other begin later found ih =>
      rw [found, List.forall_mem_cons] at ih
      rw [splitFields.eq_2 c rest other, found]
      refine List.forall_mem_cons.mpr ⟨?_, ih.2⟩
      intro inside
      rcases List.infix_cons_iff.mp inside with start | deeper
      · have whole : c :: begin <+: c :: rest :=
          List.cons_prefix_cons.mpr ⟨rfl, splitFields_prefix found⟩
        obtain ⟨after, same⟩ := start.trans whole
        obtain ⟨quote, rest⟩ := List.cons.inj same
        exact other after quote.symm rest.symm
      · exact ih.1 deeper
  | case4 =>
      rw [splitFields.eq_3]
      exact List.forall_mem_cons.mpr ⟨short, by simp⟩

/-- Splitting adds no character. -/
theorem mem_of_splitFields {text : List Char} :
    ∀ field ∈ splitFields text, ∀ c ∈ field, c ∈ text := by
  induction text using splitFields.induct with
  | case1 rest ih =>
      rw [splitFields.eq_1]
      refine List.forall_mem_cons.mpr ⟨by simp, ?_⟩
      intro field present c there
      simp [ih field present c there]
  | case2 c rest other none ih => exact absurd none (splitFields_ne_nil rest)
  | case3 c rest other begin later found ih =>
      rw [found, List.forall_mem_cons] at ih
      rw [splitFields.eq_2 c rest other, found]
      refine List.forall_mem_cons.mpr ⟨?_, ?_⟩
      · exact List.forall_mem_cons.mpr
          ⟨List.mem_cons_self, fun d there => List.mem_cons_of_mem c (ih.1 d there)⟩
      · exact fun field present d there => List.mem_cons_of_mem c (ih.2 field present d there)
  | case4 => simp [splitFields.eq_3]

/-- The fields of a line are parts of it without separators. -/
theorem fields?_some {line : String} {fields : List String} (split : fields? line = some fields) :
    fields ≠ [] ∧ ∀ field ∈ fields,
      (∀ c ∈ field.toList, c ∈ line.toList) ∧ ¬ separator <:+: field.toList := by
  unfold fields? at split
  split at split
  · rename_i inner whole
    obtain ⟨_, same⟩ := Option.ite_none_right_eq_some.mp split
    cases same
    refine ⟨fun none => splitFields_ne_nil _ (List.map_eq_nil_iff.mp none), ?_⟩
    intro field present
    obtain ⟨piece, member, rfl⟩ := List.mem_map.mp present
    rw [String.toList_ofList]
    refine ⟨?_, noSeparator_of_splitFields piece member⟩
    intro c there
    rw [whole]
    exact List.mem_cons_of_mem _ 
      ((List.dropLast_sublist _).subset (mem_of_splitFields piece member c there))
  · cases split

/-- The line of a row holds its fields and their separators between two quotes. -/
theorem line_toList {row : Row} (nonempty : row ≠ []) :
    (" ".intercalate (row.map field)).toList =
      '\x27' :: (separator.intercalate (row.map fun value => value.display.toList)
        ++ ['\x27']) := by
  rw [String.toList_intercalate, List.map_map]
  induction row with
  | nil => exact absurd rfl nonempty
  | cons value rest ih =>
      cases rest with
      | nil => simp [field]
      | cons next others =>
          have later := ih (List.cons_ne_nil next others)
          simp only [List.map_cons, Function.comp_apply] at later ⊢
          rw [List.intercalate_cons_cons, later, List.intercalate_cons_cons]
          simp [field, separator]

/-- A character that is no quote and no blank gets into a line from a value only. -/
theorem notMem_line {row : Row} (nonempty : row ≠ []) {c : Char} (noQuote : c ≠ '\x27')
    (noSpace : c ≠ ' ') (absent : ∀ value ∈ row, c ∉ value.display.toList) :
    c ∉ (" ".intercalate (row.map field)).toList := by
  rw [line_toList nonempty, List.mem_cons, List.mem_append, List.mem_singleton]
  rintro (quote | inner | quote)
  · exact noQuote quote
  · rcases Text.mem_intercalate inner with between | ⟨text, member, there⟩
    · simp [separator, noQuote, noSpace] at between
    · obtain ⟨value, present, rfl⟩ := List.mem_map.mp member
      exact absent value present there
  · exact noQuote quote

/-- The line of a row that fits is whole. -/
theorem whole_line {row : Row} (nonempty : row ≠ [])
    (fits : ∀ value ∈ row, Fits value.display.toList) :
    Text.Whole (" ".intercalate (row.map field)).toList :=
  Text.whole_of_noBreak
    (notMem_line nonempty (by decide) (by decide) fun value present => (fits value present).noFeed)
    (notMem_line nonempty (by decide) (by decide) fun value present =>
      (fits value present).noReturn)

/-- The fields of a row are read back from its line. -/
theorem fields?_line {row : Row} (nonempty : row ≠ [])
    (fits : ∀ value ∈ row, Fits value.display.toList) :
    fields? (" ".intercalate (row.map field)) = some (row.map Value.display) := by
  have split : splitFields (separator.intercalate
      (row.map fun value => value.display.toList)) = row.map fun value => value.display.toList := by
    apply splitFields_joined
    · simpa using nonempty
    · intro text present
      obtain ⟨value, member, rfl⟩ := List.mem_map.mp present
      exact fits value member
  unfold fields?
  rw [line_toList nonempty]
  simp only [List.getLast?_concat, List.dropLast_concat, if_true, split, List.map_map]
  simp

end TableStore.Archive
